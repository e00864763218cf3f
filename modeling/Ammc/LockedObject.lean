import Ammc.Linearizability
import Mathlib.Logic.Function.Basic

namespace Ammc.LockedObject

open Linearizability

/-!
# Objects behind a lock

Several threads run the functions of one object.  A function takes the object's
lock, works on the shared data one access at a time and gives the lock back, or
it looks at the data once without the lock.  The threads may be interleaved at
every access.
-/

/-- The accesses of one function to the shared data, and what it answers. -/
inductive Accesses (σ ρ : Type) where
  | done (answer : ρ)
  | read (next : σ → Accesses σ ρ)
  | write (change : σ → σ) (next : Accesses σ ρ)

namespace Accesses

variable {σ α β : Type}

/-- Go on with `next` at every answer. -/
def bind
    (accesses : Accesses σ α)
    (next : α → Accesses σ β) : Accesses σ β :=
  match accesses with
  | .done answer => next answer
  | .read rest => .read fun shared => (rest shared).bind next
  | .write change rest => .write change (rest.bind next)

instance : Monad (Accesses σ) where
  pure := .done
  bind := bind

/-- Read one field. -/
def fetch (field : σ → α) : Accesses σ α :=
  .read fun shared => .done (field shared)

/-- Write one field. -/
def store (change : σ → σ) : Accesses σ Unit :=
  .write change (.done ())

/-- All accesses at once: the answer and the data that they leave. -/
def run : Accesses σ α → σ → α × σ
  | .done answer, shared => (answer, shared)
  | .read next, shared => (next shared).run shared
  | .write change next, shared => next.run (change shared)

@[simp] theorem run_pure
    (answer : α)
    (shared : σ) :
    run (pure answer) shared = (answer, shared) :=
  rfl

@[simp] theorem run_fetch
    (field : σ → α)
    (shared : σ) :
    (fetch field).run shared = (field shared, shared) :=
  rfl

@[simp] theorem run_store
    (change : σ → σ)
    (shared : σ) :
    (store change).run shared = ((), change shared) :=
  rfl

@[simp] theorem run_bind
    (accesses : Accesses σ α)
    (next : α → Accesses σ β)
    (shared : σ) :
    run (accesses >>= next) shared =
      (next (accesses.run shared).1).run (accesses.run shared).2 := by
  change (accesses.bind next).run shared = _
  induction accesses generalizing shared with
  | done answer => rfl
  | read rest inductionHypothesis =>
      exact inductionHypothesis shared shared
  | write change rest inductionHypothesis =>
      exact inductionHypothesis (change shared)

@[simp] theorem run_map
    (change : α → β)
    (accesses : Accesses σ α)
    (shared : σ) :
    run (change <$> accesses) shared =
      (change (accesses.run shared).1, (accesses.run shared).2) :=
  run_bind accesses (fun answer => pure (change answer)) shared

/-- No write changes what `look` shows. -/
inductive Keeps (look : σ → β) : Accesses σ α → Prop where
  | done (answer : α) : Keeps look (.done answer)
  | read {next : σ → Accesses σ α}
      (later : ∀ shared, Keeps look (next shared)) :
      Keeps look (.read next)
  | write {change : σ → σ} {next : Accesses σ α}
      (same : ∀ shared, look (change shared) = look shared)
      (later : Keeps look next) :
      Keeps look (.write change next)

/-- There are at most so many accesses. -/
inductive Within : Accesses σ α → Nat → Prop where
  | done (answer : α) (count : Nat) : Within (.done answer) count
  | read {next : σ → Accesses σ α} {count : Nat}
      (later : ∀ shared, Within (next shared) count) :
      Within (.read next) (count + 1)
  | write {change : σ → σ} {next : Accesses σ α} {count : Nat}
      (later : Within next count) :
      Within (.write change next) (count + 1)

namespace Keeps

variable {γ : Type} {look : σ → γ}

theorem bind
    {accesses : Accesses σ α}
    {next : α → Accesses σ β}
    (keeps : Keeps look accesses)
    (later : ∀ answer, Keeps look (next answer)) :
    Keeps look (accesses >>= next) := by
  induction keeps with
  | done answer => exact later answer
  | read _ inductionHypothesis => exact .read inductionHypothesis
  | write same _ inductionHypothesis =>
      exact .write same inductionHypothesis

theorem fetch (field : σ → α) : Keeps look (fetch field) :=
  .read fun shared => .done (field shared)

theorem store
    {change : σ → σ}
    (same : ∀ shared, look (change shared) = look shared) :
    Keeps look (store change) :=
  .write same (.done ())

theorem map
    {accesses : Accesses σ α}
    (keeps : Keeps look accesses)
    (change : α → β) :
    Keeps look (change <$> accesses) :=
  keeps.bind fun answer => .done (change answer)

theorem ite
    {condition : Prop}
    [Decidable condition]
    {first second : Accesses σ α}
    (keepsFirst : Keeps look first)
    (keepsSecond : Keeps look second) :
    Keeps look (if condition then first else second) := by
  split
  · exact keepsFirst
  · exact keepsSecond

/-- What `look` shows is the same when all accesses are over. -/
theorem run_eq
    {accesses : Accesses σ α}
    (keeps : Keeps look accesses)
    (shared : σ) :
    look (accesses.run shared).2 = look shared := by
  induction keeps generalizing shared with
  | done answer => rfl
  | read _ inductionHypothesis => exact inductionHypothesis shared shared
  | write same _ inductionHypothesis =>
      exact (inductionHypothesis _).trans (same shared)

end Keeps

namespace Within

theorem mono
    {accesses : Accesses σ α}
    {count more : Nat}
    (within : Within accesses count)
    (fewer : count ≤ more) :
    Within accesses more := by
  induction within generalizing more with
  | done answer count => exact .done answer more
  | read _ inductionHypothesis =>
      obtain ⟨left, rfl⟩ := Nat.exists_eq_add_of_le' fewer
      exact
        .read fun shared =>
          inductionHypothesis shared (Nat.le_add_left _ left)
  | write _ inductionHypothesis =>
      obtain ⟨left, rfl⟩ := Nat.exists_eq_add_of_le' fewer
      exact .write (inductionHypothesis (Nat.le_add_left _ left))

theorem bind
    {accesses : Accesses σ α}
    {next : α → Accesses σ β}
    {first second : Nat}
    (within : Within accesses first)
    (later : ∀ answer, Within (next answer) second) :
    Within (accesses >>= next) (second + first) := by
  induction within with
  | done answer count =>
      exact (later answer).mono (Nat.le_add_right second count)
  | read _ inductionHypothesis => exact .read inductionHypothesis
  | write _ inductionHypothesis => exact .write inductionHypothesis

theorem fetch (field : σ → α) : Within (fetch field) 1 :=
  .read fun shared => .done (field shared) 0

theorem store (change : σ → σ) : Within (store change) 1 :=
  .write (.done () 0)

theorem map
    {accesses : Accesses σ α}
    {count : Nat}
    (within : Within accesses count)
    (change : α → β) :
    Within (change <$> accesses) count := by
  have mapped :=
    within.bind fun answer => Within.done (σ := σ) (change answer) 0
  rwa [Nat.zero_add] at mapped

theorem ite
    {condition : Prop}
    [Decidable condition]
    {first second : Accesses σ α}
    {count : Nat}
    (withinFirst : Within first count)
    (withinSecond : Within second count) :
    Within (if condition then first else second) count := by
  split
  · exact withinFirst
  · exact withinSecond

end Within

end Accesses

variable {ι Op σ ρ τ : Type}

/-- A promise about accesses that is kept from one access to the next. -/
structure Lasting (promise : Accesses σ ρ → Prop) : Prop where
  read : ∀ next, promise (.read next) → ∀ shared, promise (next shared)
  write : ∀ change next, promise (.write change next) → promise next

/-- What a thread has kept it keeps further. -/
theorem Accesses.Keeps.lasting (look : σ → τ) :
    Lasting (Accesses.Keeps look (α := ρ)) where
  read := by
    rintro next (_ | later)
    exact later
  write := by
    rintro change next (_ | _ | ⟨_, later⟩)
    exact later

/-- The bound on the accesses that are left is one later on. -/
theorem Accesses.Within.lasting (limit : Nat) :
    Lasting fun rest : Accesses σ ρ => rest.Within limit where
  read := by
    rintro next (_ | later) shared
    exact (later shared).mono (Nat.le_succ _)
  write := by
    rintro change next (_ | _ | later)
    exact later.mono (Nat.le_succ _)

/-- A function works under the lock, or it looks at the data without it. -/
inductive Method (σ ρ : Type) where
  | locked (body : Accesses σ ρ)
  | unlocked (look : σ → ρ)


/-- Where a thread is: in no call, before its lock, between locks, behind it. -/
inductive Thread (Op σ ρ : Type) where
  | outside
  | calling (operation : Op)
  | inside (operation : Op) (rest : Accesses σ ρ)
  | leaving (operation : Op) (answer : ρ)

namespace Thread

/-- The thread works on the shared data. -/
def Inside : Thread Op σ ρ → Prop
  | .inside _ _ => True
  | _ => False

/-- If the thread works on the shared data, then it keeps the promise. -/
def Promises
    (promise : Accesses σ ρ → Prop) : Thread Op σ ρ → Prop
  | .inside _ rest => promise rest
  | _ => True

end Thread

/-- The data, the thread that has the lock, the threads, and what was seen. -/
structure State (ι Op σ ρ : Type) where
  shared : σ
  holder : Option ι
  threads : ι → Thread Op σ ρ
  history : List (Event ι Op ρ)

/-- No thread has called anything yet. -/
def State.initial (shared : σ) : State ι Op σ ρ where
  shared := shared
  holder := none
  threads _ := .outside
  history := []

/-- Who works on the shared data has the lock, and the other way round. -/
def State.Guarded (state : State ι Op σ ρ) : Prop :=
  ∀ thread, (state.threads thread).Inside ↔ state.holder = some thread

/-- A thread that is in no call makes one, or a thread goes on by one access. -/
inductive Action (ι Op : Type) where
  | call (thread : ι) (operation : Op)
  | advance (thread : ι)
  deriving Repr, DecidableEq

/-- The thread that acts. -/
def Action.thread : Action ι Op → ι
  | .call thread _ => thread
  | .advance thread => thread

section Steps

variable [DecidableEq ι]

/-- The thread is somewhere else. -/
def State.place
    (state : State ι Op σ ρ)
    (thread : ι)
    (place : Thread Op σ ρ) : State ι Op σ ρ :=
  { state with threads := Function.update state.threads thread place }

/-- The next access of a thread; it waits while another one has the lock. -/
def State.advance
    (method : Op → Method σ ρ)
    (state : State ι Op σ ρ)
    (thread : ι) : State ι Op σ ρ :=
  match state.threads thread with
  | .outside => state
  | .calling operation =>
      match method operation, state.holder with
      | .locked _, some _ => state
      | .locked body, none =>
          { state.place thread (.inside operation body) with
            holder := some thread }
      | .unlocked look, _ =>
          state.place thread (.leaving operation (look state.shared))
  | .inside operation (.done answer) =>
      { state.place thread (.leaving operation answer) with
        holder := none }
  | .inside operation (.read next) =>
      state.place thread (.inside operation (next state.shared))
  | .inside operation (.write change next) =>
      { state.place thread (.inside operation next) with
        shared := change state.shared }
  | .leaving operation answer =>
      { state.place thread .outside with
        history :=
          state.history ++ [.returned ⟨thread, operation, answer⟩] }

/-- What an action does; a thread makes no call in a call. -/
def State.step
    (method : Op → Method σ ρ)
    (state : State ι Op σ ρ) : Action ι Op → State ι Op σ ρ
  | .call thread operation =>
      match state.threads thread with
      | .outside =>
          { state.place thread (.calling operation) with
            history := state.history ++ [.called thread operation] }
      | _ => state
  | .advance thread => state.advance method thread

/-- What a sequence of actions does. -/
def State.run
    (method : Op → Method σ ρ)
    (state : State ι Op σ ρ)
    (actions : List (Action ι Op)) : State ι Op σ ρ :=
  actions.foldl (State.step method) state

@[simp] theorem State.place_self
    (state : State ι Op σ ρ)
    (thread : ι)
    (place : Thread Op σ ρ) :
    (state.place thread place).threads thread = place :=
  Function.update_self (β := fun _ => Thread Op σ ρ) thread place
    state.threads

/-- The other threads stay where they are. -/
theorem State.place_other
    (state : State ι Op σ ρ)
    (place : Thread Op σ ρ)
    {thread other : ι}
    (different : other ≠ thread) :
    (state.place thread place).threads other = state.threads other :=
  Function.update_of_ne (β := fun _ => Thread Op σ ρ) different place
    state.threads

/-! ## The steps of a thread -/

/-- The steps that a thread can take. -/
inductive State.Moves
    (method : Op → Method σ ρ)
    (state : State ι Op σ ρ)
    (thread : ι) : State ι Op σ ρ → Prop where
  | call (operation : Op)
      (place : state.threads thread = .outside) :
      Moves method state thread
        { state.place thread (.calling operation) with
          history := state.history ++ [.called thread operation] }
  | acquire (operation : Op) (body : Accesses σ ρ)
      (place : state.threads thread = .calling operation)
      (locked : method operation = .locked body)
      (free : state.holder = none) :
      Moves method state thread
        { state.place thread (.inside operation body) with
          holder := some thread }
  | look (operation : Op) (look : σ → ρ)
      (place : state.threads thread = .calling operation)
      (unlocked : method operation = .unlocked look) :
      Moves method state thread
        (state.place thread (.leaving operation (look state.shared)))
  | read (operation : Op) (next : σ → Accesses σ ρ)
      (place : state.threads thread = .inside operation (.read next)) :
      Moves method state thread
        (state.place thread (.inside operation (next state.shared)))
  | write (operation : Op) (change : σ → σ) (next : Accesses σ ρ)
      (place :
        state.threads thread = .inside operation (.write change next)) :
      Moves method state thread
        { state.place thread (.inside operation next) with
          shared := change state.shared }
  | release (operation : Op) (answer : ρ)
      (place : state.threads thread = .inside operation (.done answer)) :
      Moves method state thread
        { state.place thread (.leaving operation answer) with
          holder := none }
  | return (operation : Op) (answer : ρ)
      (place : state.threads thread = .leaving operation answer) :
      Moves method state thread
        { state.place thread .outside with
          history :=
            state.history ++ [.returned ⟨thread, operation, answer⟩] }

/-- Nothing happens, or the thread that acts takes one of its steps. -/
theorem State.step_cases
    (method : Op → Method σ ρ)
    (state : State ι Op σ ρ)
    (action : Action ι Op) :
    state.step method action = state ∨
      state.Moves method action.thread (state.step method action) := by
  cases action with
  | call thread operation =>
      cases place : state.threads thread with
      | outside =>
          right
          simp only [State.step, place]
          exact .call operation place
      | _ =>
          left
          simp only [State.step, place]
  | advance thread =>
      cases place : state.threads thread with
      | outside =>
          left
          simp only [State.step, State.advance, place]
      | calling operation =>
          cases function : method operation with
          | locked body =>
              cases holder : state.holder with
              | none =>
                  right
                  simp only [State.step, State.advance, place, function,
                    holder]
                  exact .acquire operation body place function holder
              | some other =>
                  left
                  simp only [State.step, State.advance, place, function,
                    holder]
          | unlocked look =>
              right
              simp only [State.step, State.advance, place, function]
              exact .look operation look place function
      | inside operation rest =>
          right
          cases rest with
          | done answer =>
              simp only [State.step, State.advance, place]
              exact .release operation answer place
          | read next =>
              simp only [State.step, State.advance, place]
              exact .read operation next place
          | write change next =>
              simp only [State.step, State.advance, place]
              exact .write operation change next place
      | leaving operation answer =>
          right
          simp only [State.step, State.advance, place]
          exact .return operation answer place

namespace State.Moves

variable {method : Op → Method σ ρ}
variable {state next : State ι Op σ ρ}
variable {thread : ι}

/-- Only the thread that takes the step is elsewhere after it. -/
theorem threads_other
    (moves : state.Moves method thread next)
    {other : ι}
    (different : other ≠ thread) :
    next.threads other = state.threads other := by
  cases moves with
  | _ => exact state.place_other _ different

/-- The lock changes hands only from and to the thread that takes the step. -/
theorem holder_other
    (moves : state.Moves method thread next)
    (guarded : state.Guarded)
    {other : ι}
    (different : other ≠ thread) :
    next.holder = some other ↔ state.holder = some other := by
  cases moves with
  | acquire operation body place locked free =>
      rw [free]
      exact
        iff_of_false
          (fun taken => different (Option.some.inj taken).symm)
          (Option.some_ne_none other).symm
  | release operation answer place =>
      have holder : state.holder = some thread :=
        (guarded thread).mp (place ▸ trivial)
      rw [holder]
      exact
        iff_of_false (Option.some_ne_none other).symm
          (fun taken => different (Option.some.inj taken).symm)
  | _ => exact Iff.rfl

/-- The thread that takes the step is inside exactly if it has the lock. -/
theorem inside_iff_holder
    (moves : state.Moves method thread next)
    (guarded : state.Guarded) :
    (next.threads thread).Inside ↔ next.holder = some thread := by
  have here := guarded thread
  cases moves with
  | acquire operation body place locked free =>
      exact iff_of_true (by rw [place_self]; trivial) rfl
  | release operation answer place =>
      exact
        iff_of_false (by rw [place_self]; exact id)
          (Option.some_ne_none thread).symm
  | look operation look place unlocked =>
      rw [place] at here
      rw [place_self]
      exact here
  | _ =>
      rename_i place
      rw [place] at here
      rw [place_self]
      exact here

/-- Mutual exclusion is kept. -/
theorem guarded
    (moves : state.Moves method thread next)
    (guarded : state.Guarded) :
    next.Guarded := by
  intro other
  by_cases same : other = thread
  · subst other
    exact moves.inside_iff_holder guarded
  · rw [moves.threads_other same, moves.holder_other guarded same]
    exact guarded other

/-- What all bodies promise is kept inside. -/
theorem promises
    {promise : Accesses σ ρ → Prop}
    (lasting : Lasting promise)
    (bodies :
      ∀ operation body, method operation = .locked body → promise body)
    (moves : state.Moves method thread next)
    (promises : ∀ other, (state.threads other).Promises promise)
    (other : ι) :
    (next.threads other).Promises promise := by
  by_cases same : other = thread
  · subst other
    have here := promises thread
    cases moves with
    | acquire operation body place locked free =>
        rw [place_self]
        exact bodies operation body locked
    | read operation rest place =>
        rw [place] at here
        rw [place_self]
        exact lasting.read rest here state.shared
    | write operation change rest place =>
        rw [place] at here
        rw [place_self]
        exact lasting.write change rest here
    | _ =>
        rw [place_self]
        trivial
  · rw [moves.threads_other same]
    exact promises other

end State.Moves

/-- What every step of a thread keeps holds after all actions. -/
theorem State.run_invariant
    {method : Op → Method σ ρ}
    {invariant : State ι Op σ ρ → Prop}
    (kept :
      ∀ state thread next,
        state.Moves method thread next → invariant state →
          invariant next)
    {state : State ι Op σ ρ}
    (holds : invariant state)
    (actions : List (Action ι Op)) :
    invariant (state.run method actions) := by
  induction actions generalizing state with
  | nil => exact holds
  | cons action later inductionHypothesis =>
      rcases state.step_cases method action with unchanged | moves
      · refine inductionHypothesis ?_
        rw [unchanged]
        exact holds
      · exact inductionHypothesis (kept state _ _ moves holds)

/-- A call is seen exactly when a thread makes it. -/
theorem State.called_step
    {method : Op → Method σ ρ}
    {state : State ι Op σ ρ}
    {action : Action ι Op}
    {thread : ι}
    {operation : Op}
    (seen : .called thread operation ∈ (state.step method action).history) :
    .called thread operation ∈ state.history ∨
      action = .call thread operation := by
  cases action with
  | call caller called =>
      cases place : state.threads caller with
      | outside =>
          simp only [State.step, place] at seen
          rcases List.mem_append.mp seen with before | now
          · exact Or.inl before
          · cases List.mem_singleton.mp now
            exact Or.inr rfl
      | _ =>
          simp only [State.step, place] at seen
          exact Or.inl seen
  | advance caller =>
      left
      by_cases idle : state.threads caller = .outside
      · simp only [State.step, State.advance, idle] at seen
        exact seen
      · rcases state.step_cases method (.advance caller) with
          unchanged | moves
        · rw [unchanged] at seen
          exact seen
        · generalize state.step method (.advance caller) = next
            at seen moves
          cases moves with
          | call _ place => exact absurd place idle
          | «return» _ _ _ =>
              rcases List.mem_append.mp seen with before | now
              · exact before
              · cases List.mem_singleton.mp now
          | _ => exact seen

/-- What is seen to be called a thread has called. -/
theorem State.called_run
    {method : Op → Method σ ρ}
    {state : State ι Op σ ρ}
    {actions : List (Action ι Op)}
    {thread : ι}
    {operation : Op}
    (seen :
      .called thread operation ∈ (state.run method actions).history) :
    .called thread operation ∈ state.history ∨
      .call thread operation ∈ actions := by
  induction actions generalizing state with
  | nil => exact Or.inl seen
  | cons action later inductionHypothesis =>
      rcases inductionHypothesis seen with before | after
      · rcases State.called_step before with earlier | rfl
        · exact Or.inl earlier
        · exact Or.inr List.mem_cons_self
      · exact Or.inr (List.mem_cons_of_mem action after)

/-! ## The lock is given back -/

/-- The thread goes on by one access. -/
def Action.advances (thread : ι) : Action ι Op → Bool
  | .call _ _ => false
  | .advance other => other = thread

/-- So many of the actions are accesses of the thread. -/
def advances
    (thread : ι)
    (actions : List (Action ι Op)) : Nat :=
  actions.countP (Action.advances thread)

theorem advances_own
    (thread : ι)
    (later : List (Action ι Op)) :
    advances thread (.advance thread :: later) =
      advances thread later + 1 :=
  List.countP_cons_of_pos (decide_eq_true rfl)

theorem advances_other
    {thread : ι}
    {action : Action ι Op}
    (notOwn : action ≠ .advance thread)
    (later : List (Action ι Op)) :
    advances thread (action :: later) = advances thread later := by
  refine List.countP_cons_of_neg ?_
  intro own
  cases action with
  | call caller operation => cases own
  | advance other =>
      exact notOwn (congrArg Action.advance (of_decide_eq_true own))

/-- The thread returns from its call if only it goes on, at most so often. -/
def State.ReturnsWithin
    (method : Op → Method σ ρ)
    (state : State ι Op σ ρ)
    (thread : ι)
    (limit : Nat) : Prop :=
  ∃ count operation answer,
    count ≤ limit ∧
      (state.run method (List.replicate count (.advance thread))).history =
        state.history ++ [.returned ⟨thread, operation, answer⟩]

namespace State

variable {method : Op → Method σ ρ}
variable {state : State ι Op σ ρ}
variable {thread : ι}

/-- One more access goes before the others. -/
theorem ReturnsWithin.step
    {limit : Nat}
    (returns :
      (state.step method (.advance thread)).ReturnsWithin method thread
        limit)
    (unseen :
      (state.step method (.advance thread)).history = state.history) :
    state.ReturnsWithin method thread (limit + 1) := by
  obtain ⟨count, operation, answer, few, returned⟩ := returns
  rw [unseen] at returned
  exact
    ⟨count + 1, operation, answer, Nat.succ_le_succ few, returned⟩

theorem ReturnsWithin.mono
    {limit more : Nat}
    (returns : state.ReturnsWithin method thread limit)
    (fewer : limit ≤ more) :
    state.ReturnsWithin method thread more := by
  obtain ⟨count, operation, answer, few, returned⟩ := returns
  exact ⟨count, operation, answer, Nat.le_trans few fewer, returned⟩

/-- A thread that has given the lock back returns. -/
theorem returnsWithin_leaving
    {operation : Op}
    {answer : ρ}
    (place : state.threads thread = .leaving operation answer) :
    state.ReturnsWithin method thread 1 := by
  refine ⟨1, operation, answer, Nat.le_refl 1, ?_⟩
  simp only [List.replicate_succ, List.replicate_zero, State.run,
    List.foldl_cons, List.foldl_nil, State.step, State.advance, place]

/-- A thread that works on the data finishes its accesses and returns. -/
theorem returnsWithin_inside
    {operation : Op}
    {rest : Accesses σ ρ}
    {limit : Nat}
    (within : rest.Within limit)
    (place : state.threads thread = .inside operation rest) :
    state.ReturnsWithin method thread (limit + 2) := by
  induction within generalizing state with
  | done answer count =>
      have left :
          (state.step method (.advance thread)).threads thread =
            .leaving operation answer := by
        simp only [State.step, State.advance, place, State.place_self]
      have returns :
          (state.step method (.advance thread)).ReturnsWithin method
            thread 1 :=
        returnsWithin_leaving left
      refine (returns.step ?_).mono (Nat.le_add_left 2 count)
      simp only [State.step, State.advance, place, State.place]
  | @read next count _ inductionHypothesis =>
      have further :
          (state.step method (.advance thread)).threads thread =
            .inside operation (next state.shared) := by
        simp only [State.step, State.advance, place, State.place_self]
      refine (inductionHypothesis state.shared further).step ?_
      simp only [State.step, State.advance, place, State.place]
  | @write change next count _ inductionHypothesis =>
      have further :
          (state.step method (.advance thread)).threads thread =
            .inside operation next := by
        simp only [State.step, State.advance, place, State.place_self]
      refine (inductionHypothesis further).step ?_
      simp only [State.step, State.advance, place, State.place]

/-- A thread that finds the lock free returns. -/
theorem returnsWithin_calling
    {limit : Nat}
    (bodies :
      ∀ operation body, method operation = .locked body →
        body.Within limit)
    (free : state.holder = none)
    {operation : Op}
    (place : state.threads thread = .calling operation) :
    state.ReturnsWithin method thread (limit + 3) := by
  cases function : method operation with
  | locked body =>
      have further :
          (state.step method (.advance thread)).threads thread =
            .inside operation body := by
        simp only [State.step, State.advance, place, function, free,
          State.place_self]
      have within := bodies operation body function
      refine (returnsWithin_inside within further).step ?_
      simp only [State.step, State.advance, place, function, free,
        State.place]
  | unlocked look =>
      have left :
          (state.step method (.advance thread)).threads thread =
            .leaving operation (look state.shared) := by
        simp only [State.step, State.advance, place, function,
          State.place_self]
      have returns :
          (state.step method (.advance thread)).ReturnsWithin method
            thread 1 :=
        returnsWithin_leaving left
      refine (returns.step ?_).mono (Nat.le_add_left 2 (limit + 1))
      simp only [State.step, State.advance, place, function, State.place]

/-- The lock and the accesses that are left are as they should be. -/
structure Sound
    (limit : Nat)
    (state : State ι Op σ ρ) : Prop where
  guarded : state.Guarded
  within :
    ∀ thread,
      (state.threads thread).Promises fun rest => rest.Within limit

/-- So it is in every run. -/
theorem sound_run
    {limit : Nat}
    (bodies :
      ∀ operation body, method operation = .locked body →
        body.Within limit)
    (shared : σ)
    (actions : List (Action ι Op)) :
    ((State.initial shared).run method actions).Sound limit := by
  have begins : (State.initial shared : State ι Op σ ρ).Sound limit :=
    ⟨fun _ => iff_of_false id (Option.some_ne_none _).symm,
      fun _ => trivial⟩
  refine State.run_invariant ?_ begins actions
  intro state thread next moves sound
  exact
    ⟨moves.guarded sound.guarded,
      moves.promises (Accesses.Within.lasting limit) bodies sound.within⟩

/-- If some thread is in a call, then some thread can return from its call. -/
theorem Sound.proceeds
    {limit : Nat}
    (sound : state.Sound limit)
    (bodies :
      ∀ operation body, method operation = .locked body →
        body.Within limit)
    (busy : state.threads thread ≠ .outside) :
    ∃ other, state.ReturnsWithin method other (limit + 3) := by
  cases holder : state.holder with
  | none =>
      refine ⟨thread, ?_⟩
      have here := sound.guarded thread
      cases place : state.threads thread with
      | outside => exact absurd place busy
      | calling operation =>
          exact returnsWithin_calling bodies holder place
      | inside operation rest =>
          rw [place, holder] at here
          exact absurd (here.mp trivial) (Option.some_ne_none _).symm
      | leaving operation answer =>
          exact
            (returnsWithin_leaving place).mono
              (Nat.le_add_left 1 (limit + 2))
  | some other =>
      refine ⟨other, ?_⟩
      have inside := (sound.guarded other).mpr holder
      have within := sound.within other
      cases place : state.threads other with
      | inside operation rest =>
          rw [place] at within
          exact
            (returnsWithin_inside within place).mono
              (Nat.le_succ (limit + 2))
      | _ =>
          rw [place] at inside
          exact inside.elim

/-- A thread inside stays where it is when it does not go on. -/
theorem threads_step_of_not_advance
    {operation : Op}
    {rest : Accesses σ ρ}
    (place : state.threads thread = .inside operation rest)
    {action : Action ι Op}
    (notOwn : action ≠ .advance thread) :
    (state.step method action).threads thread =
      .inside operation rest := by
  by_cases own : action.thread = thread
  · cases action with
    | call caller called =>
        have same : caller = thread := own
        subst caller
        simp only [State.step, place]
    | advance other =>
        have same : other = thread := own
        exact absurd (congrArg Action.advance same) notOwn
  · rcases state.step_cases method action with unchanged | moves
    · rw [unchanged]
      exact place
    · rw [moves.threads_other (Ne.symm own)]
      exact place

/-- A thread gives the lock back after so many accesses of its own. -/
theorem releases
    {operation : Op}
    {rest : Accesses σ ρ}
    {limit : Nat}
    (place : state.threads thread = .inside operation rest)
    (within : rest.Within limit)
    {actions : List (Action ι Op)}
    (enough : limit < advances thread actions) :
    ∃ first later,
      actions = first ++ later ∧
        (state.run method first).holder = none := by
  induction actions generalizing state rest limit with
  | nil => exact absurd enough (Nat.not_lt_zero limit)
  | cons action later inductionHypothesis =>
      by_cases own : action = .advance thread
      · subst action
        rw [advances_own] at enough
        cases within with
        | done answer =>
            refine ⟨[.advance thread], later, rfl, ?_⟩
            simp only [State.run, List.foldl_cons, List.foldl_nil,
              State.step, State.advance, place]
        | @read next count within =>
            have further :
                (state.step method (.advance thread)).threads thread =
                  .inside operation (next state.shared) := by
              simp only [State.step, State.advance, place,
                State.place_self]
            obtain ⟨first, rest, rfl, free⟩ :=
              inductionHypothesis further (within state.shared)
                (Nat.lt_of_succ_lt_succ enough)
            exact ⟨.advance thread :: first, rest, rfl, free⟩
        | @write change next count within =>
            have further :
                (state.step method (.advance thread)).threads thread =
                  .inside operation next := by
              simp only [State.step, State.advance, place,
                State.place_self]
            obtain ⟨first, rest, rfl, free⟩ :=
              inductionHypothesis further within
                (Nat.lt_of_succ_lt_succ enough)
            exact ⟨.advance thread :: first, rest, rfl, free⟩
      · rw [advances_other own] at enough
        obtain ⟨first, rest, rfl, free⟩ :=
          inductionHypothesis (threads_step_of_not_advance place own)
            within enough
        exact ⟨action :: first, rest, rfl, free⟩

/-- So the lock does not stay with one thread. -/
theorem Sound.releases
    {limit : Nat}
    (sound : state.Sound limit)
    (holder : state.holder = some thread)
    {actions : List (Action ι Op)}
    (enough : limit < advances thread actions) :
    ∃ first later,
      actions = first ++ later ∧
        (state.run method first).holder = none := by
  have inside := (sound.guarded thread).mpr holder
  have within := sound.within thread
  cases place : state.threads thread with
  | inside operation rest =>
      rw [place] at within
      exact State.releases place within enough
  | _ =>
      rw [place] at inside
      exact inside.elim

end State

end Steps

end Ammc.LockedObject
