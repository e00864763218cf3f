import Ammc.LockedObject

namespace Ammc.LockedObject

open Linearizability

/-!
# Calls that take effect under a lock

A function behind a lock seems to do all its work in the moment in which it gets
the lock.  So the calls of all threads are linearizable, whatever the functions
do access by access.
-/

variable {ι Op σ ρ τ : Type}

namespace Thread

/-- Where the call is when calls take effect as they get the lock. -/
def phase (shared : σ) : Thread Op σ ρ → Phase Op ρ
  | .outside => .idle
  | .calling operation => .called operation
  | .inside operation rest => .effected operation (rest.run shared).1
  | .leaving operation answer => .effected operation answer

/-- The data that the thread will leave behind its lock. -/
def settled (shared : σ) : Thread Op σ ρ → σ
  | .inside _ rest => (rest.run shared).2
  | _ => shared

/-- Only to a thread that works on them the data matter. -/
theorem phase_of_not_inside
    {thread : Thread Op σ ρ}
    (outside : ¬ thread.Inside)
    (shared other : σ) :
    thread.phase shared = thread.phase other := by
  cases thread with
  | inside operation rest => exact absurd trivial outside
  | _ => rfl

/-- What the rest of a call does not change is as it will be left. -/
theorem look_settled
    {thread : Thread Op σ ρ}
    {look : σ → ρ}
    (kept : thread.Promises (Accesses.Keeps look))
    (shared : σ) :
    look (thread.settled shared) = look shared := by
  cases thread with
  | inside operation rest => exact Accesses.Keeps.run_eq kept shared
  | _ => rfl

end Thread

/-- The data that are left when the thread inside is done. -/
def State.settled (state : State ι Op σ ρ) : σ :=
  match state.holder with
  | none => state.shared
  | some thread => (state.threads thread).settled state.shared

/-- Where a thread is with its calls. -/
def State.phase
    (state : State ι Op σ ρ)
    (thread : ι) : Phase Op ρ :=
  (state.threads thread).phase state.shared

/-- A thread outside of the lock leaves the data as they will be. -/
theorem State.settled_congr
    {state next : State ι Op σ ρ}
    {thread : ι}
    (guarded : state.Guarded)
    (outside : ¬ (state.threads thread).Inside)
    (holder : next.holder = state.holder)
    (shared : next.shared = state.shared)
    (others :
      ∀ other, other ≠ thread →
        next.threads other = state.threads other) :
    next.settled = state.settled := by
  rw [State.settled, State.settled, holder, shared]
  cases held : state.holder with
  | none => rfl
  | some inside =>
      have different : inside ≠ thread := by
        rintro rfl
        exact outside ((guarded inside).mpr held)
      exact congrArg (Thread.settled state.shared) (others inside different)

/-- What no function changes is as it will be left. -/
theorem State.look_settled
    {state : State ι Op σ ρ}
    {look : σ → ρ}
    (kept :
      ∀ thread, (state.threads thread).Promises (Accesses.Keeps look)) :
    look state.settled = look state.shared := by
  rw [State.settled]
  cases state.holder with
  | none => rfl
  | some thread => exact Thread.look_settled (kept thread) state.shared

theorem State.settled_of_free
    {state : State ι Op σ ρ}
    (free : state.holder = none) :
    state.settled = state.shared := by
  rw [State.settled, free]

theorem State.settled_of_inside
    {state : State ι Op σ ρ}
    {thread : ι}
    {operation : Op}
    {rest : Accesses σ ρ}
    (holder : state.holder = some thread)
    (place : state.threads thread = .inside operation rest) :
    state.settled = (rest.run state.shared).2 := by
  rw [State.settled, holder]
  exact congrArg (Thread.settled state.shared) place

/--
Under the lock a function does to the data what its operation does to the
sequential object; without it, it answers what no function changes.
-/
structure Implements
    (method : Op → Method σ ρ)
    (perform : Op → τ → ρ × τ)
    (related : σ → τ → Prop) : Prop where
  locked :
    ∀ operation body, method operation = .locked body →
      ∀ shared current, related shared current →
        (body.run shared).1 = (perform operation current).1 ∧
          related (body.run shared).2 (perform operation current).2
  unlocked :
    ∀ operation look, method operation = .unlocked look →
      ∀ shared current, related shared current →
        perform operation current = (look shared, current)
  untouched :
    ∀ operation look, method operation = .unlocked look →
      ∀ other body, method other = .locked body → body.Keeps look

/-- The moments explain what was seen, and the data follow the object. -/
structure Explains
    (method : Op → Method σ ρ)
    (perform : Op → τ → ρ × τ)
    (related : σ → τ → Prop)
    (start : τ)
    (state : State ι Op σ ρ)
    (moments : List (Moment ι Op ρ))
    (current : τ) : Prop where
  same : Linearizability.history moments = state.history
  phases : ∀ thread, Reached thread moments (state.phase thread)
  performs : Performs perform start (effects moments) current
  settled : related state.settled current
  guarded : state.Guarded
  untouched :
    ∀ operation look, method operation = .unlocked look →
      ∀ thread, (state.threads thread).Promises (Accesses.Keeps look)

/-- Some moments explain what was seen. -/
def Explained
    (method : Op → Method σ ρ)
    (perform : Op → τ → ρ × τ)
    (related : σ → τ → Prop)
    (start : τ)
    (state : State ι Op σ ρ) : Prop :=
  ∃ moments current,
    Explains method perform related start state moments current

/-- Nothing has been called and nothing has happened. -/
theorem Explains.initial
    {method : Op → Method σ ρ}
    {perform : Op → τ → ρ × τ}
    {related : σ → τ → Prop}
    {start : τ}
    {shared : σ}
    (begins : related shared start) :
    Explains method perform related start
      (State.initial shared : State ι Op σ ρ) [] start where
  same := rfl
  phases _ := .start
  performs := rfl
  settled := begins
  guarded _ := iff_of_false id (Option.some_ne_none _).symm
  untouched _ _ _ _ := trivial

namespace Explains

variable {method : Op → Method σ ρ}
variable {perform : Op → τ → ρ × τ}
variable {related : σ → τ → Prop}
variable {start current : τ}
variable {state : State ι Op σ ρ}
variable {moments : List (Moment ι Op ρ)}

theorem linearization
    (explains :
      Explains method perform related start state moments current) :
    Linearization perform start state.history moments current where
  same := explains.same
  orderly thread := ⟨state.phase thread, explains.phases thread⟩
  performs := explains.performs

/-- When all threads are in no call, the data stand for the object. -/
theorem related_of_idle
    (explains :
      Explains method perform related start state moments current)
    (idle : ∀ thread, state.threads thread = .outside) :
    related state.shared current := by
  have settled := explains.settled
  cases holder : state.holder with
  | none => rwa [State.settled_of_free holder] at settled
  | some thread =>
      have inside := (explains.guarded thread).mpr holder
      rw [idle thread] at inside
      exact inside.elim

end Explains

section Steps

variable [DecidableEq ι]

/-! ## The calls take effect as they get the lock -/

/-- A step does not change where the other threads are with their calls. -/
theorem State.Moves.phase_other
    {method : Op → Method σ ρ}
    {state next : State ι Op σ ρ}
    {thread other : ι}
    (moves : state.Moves method thread next)
    (guarded : state.Guarded)
    (different : other ≠ thread) :
    next.phase other = state.phase other := by
  rw [State.phase, State.phase, moves.threads_other different]
  cases moves with
  | write operation change rest place =>
      have holder : state.holder = some thread :=
        (guarded thread).mp (place ▸ trivial)
      have outside : ¬ (state.threads other).Inside := fun inside =>
        different
          (Option.some.inj
            (((guarded other).mp inside).symm.trans holder))
      exact Thread.phase_of_not_inside outside _ _
  | _ => rfl

namespace Explains

variable {method : Op → Method σ ρ}
variable {perform : Op → τ → ρ × τ}
variable {related : σ → τ → Prop}
variable {start current : τ}
variable {state next : State ι Op σ ρ}
variable {moments : List (Moment ι Op ρ)}
variable {thread : ι}

/-- A moment of the thread that takes the step moves the other ones nowhere. -/
theorem phases_concat
    (explains :
      Explains method perform related start state moments current)
    (moves : state.Moves method thread next)
    (moment : Moment ι Op ρ)
    (own : moment.thread = thread)
    (moved :
      Phase.Moves thread (state.phase thread) moment
        (next.phase thread))
    (other : ι) :
    Reached other (moments ++ [moment]) (next.phase other) := by
  refine (explains.phases other).next ?_
  by_cases same : other = thread
  · subst other
    exact moved
  · rw [moves.phase_other explains.guarded same]
    exact .other fun elsewhere => same (elsewhere.symm.trans own)

/-- No thread moves when the one that takes the step does not. -/
theorem phases_same
    (explains :
      Explains method perform related start state moments current)
    (moves : state.Moves method thread next)
    (unmoved : next.phase thread = state.phase thread)
    (other : ι) :
    Reached other moments (next.phase other) := by
  by_cases same : other = thread
  · subst other
    rw [unmoved]
    exact explains.phases thread
  · rw [moves.phase_other explains.guarded same]
    exact explains.phases other

/-- The data follow the object when a step is not about them. -/
theorem settled_same
    (explains :
      Explains method perform related start state moments current)
    (moves : state.Moves method thread next)
    (outside : ¬ (state.threads thread).Inside)
    (holder : next.holder = state.holder)
    (shared : next.shared = state.shared) :
    related next.settled current := by
  rw [State.settled_congr explains.guarded outside holder shared
    fun _ different => moves.threads_other different]
  exact explains.settled

/-- Every step is explained by at most one more moment. -/
theorem moves
    (implements : Implements method perform related)
    (explains :
      Explains method perform related start state moments current)
    (moves : state.Moves method thread next) :
    Explained method perform related start next := by
  have guarded := moves.guarded explains.guarded
  have untouched :
      ∀ operation look, method operation = .unlocked look →
        ∀ other,
          (next.threads other).Promises (Accesses.Keeps look) :=
    fun operation look unlocked =>
      moves.promises (Accesses.Keeps.lasting look)
        (implements.untouched operation look unlocked)
        (explains.untouched operation look unlocked)
  have concat := explains.phases_concat moves
  have unmoved := explains.phases_same moves
  have outside := explains.settled_same moves
  have inside := @State.settled_of_inside _ _ _ _ next thread
  have here := explains.guarded thread
  cases moves with
  | call operation place =>
      refine
        ⟨moments ++ [.seen (.called thread operation)], current, ?_,
          concat _ rfl ?_, ?_, ?_, guarded, untouched⟩
      · rw [history_concat_seen, explains.same]
      · rw [State.phase, State.phase, place, State.place_self]
        exact .call operation
      · rw [effects_concat_seen]
        exact explains.performs
      · exact outside (by rw [place]; exact id) rfl rfl
  | acquire operation body place locked free =>
      have idle := explains.settled
      rw [State.settled_of_free free] at idle
      obtain ⟨answer, follows⟩ :=
        implements.locked operation body locked _ _ idle
      refine
        ⟨moments ++
            [.effect ⟨thread, operation, (body.run state.shared).1⟩],
          (perform operation current).2, ?_, concat _ rfl ?_, ?_, ?_,
          guarded, untouched⟩
      · rw [history_concat_effect]
        exact explains.same
      · rw [State.phase, State.phase, place, State.place_self]
        exact .effect operation _
      · rw [effects_concat_effect, answer]
        exact explains.performs.concat thread operation
      · rw [inside rfl (state.place_self _ _)]
        exact follows
  | look operation look place unlocked =>
      have answer :=
        implements.unlocked operation look unlocked _ _ explains.settled
      rw [State.look_settled
        (explains.untouched operation look unlocked)] at answer
      have performs := explains.performs.concat thread operation
      rw [answer] at performs
      refine
        ⟨moments ++ [.effect ⟨thread, operation, look state.shared⟩],
          current, ?_, concat _ rfl ?_, ?_, ?_, guarded, untouched⟩
      · rw [history_concat_effect]
        exact explains.same
      · rw [State.phase, State.phase, place, State.place_self]
        exact .effect operation _
      · rw [effects_concat_effect]
        exact performs
      · exact outside (by rw [place]; exact id) rfl rfl
  | read operation rest place =>
      have holder : state.holder = some thread :=
        here.mp (place ▸ trivial)
      have settled := explains.settled
      rw [State.settled_of_inside holder place] at settled
      refine
        ⟨moments, current, explains.same, unmoved ?_, explains.performs,
          ?_, guarded, untouched⟩
      · rw [State.phase, State.phase, place, State.place_self]
        rfl
      · rw [inside holder (state.place_self _ _)]
        exact settled
  | write operation change rest place =>
      have holder : state.holder = some thread :=
        here.mp (place ▸ trivial)
      have settled := explains.settled
      rw [State.settled_of_inside holder place] at settled
      refine
        ⟨moments, current, explains.same, unmoved ?_, explains.performs,
          ?_, guarded, untouched⟩
      · rw [State.phase, State.phase, place, State.place_self]
        rfl
      · rw [inside holder (state.place_self _ _)]
        exact settled
  | release operation answer place =>
      have holder : state.holder = some thread :=
        here.mp (place ▸ trivial)
      have settled := explains.settled
      rw [State.settled_of_inside holder place] at settled
      refine
        ⟨moments, current, explains.same, unmoved ?_, explains.performs,
          ?_, guarded, untouched⟩
      · rw [State.phase, State.phase, place, State.place_self]
        rfl
      · rw [State.settled_of_free rfl]
        exact settled
  | «return» operation answer place =>
      refine
        ⟨moments ++ [.seen (.returned ⟨thread, operation, answer⟩)],
          current, ?_, concat _ rfl ?_, ?_, ?_, guarded, untouched⟩
      · rw [history_concat_seen, explains.same]
      · rw [State.phase, State.phase, place, State.place_self]
        exact .return operation answer
      · rw [effects_concat_seen]
        exact explains.performs
      · exact outside (by rw [place]; exact id) rfl rfl

end Explains

/-- In every run there are moments that explain what was seen. -/
theorem explained_run
    {method : Op → Method σ ρ}
    {perform : Op → τ → ρ × τ}
    {related : σ → τ → Prop}
    {shared : σ}
    {start : τ}
    (implements : Implements method perform related)
    (begins : related shared start)
    (actions : List (Action ι Op)) :
    Explained method perform related start
      ((State.initial shared).run method actions) := by
  have explained :
      Explained method perform related start
        (State.initial shared : State ι Op σ ρ) :=
    ⟨[], start, .initial begins⟩
  refine State.run_invariant ?_ explained actions
  rintro state thread next moves ⟨moments, current, explains⟩
  exact explains.moves implements moves

namespace Explains

variable {method : Op → Method σ ρ}
variable {perform : Op → τ → ρ × τ}
variable {related : σ → τ → Prop}
variable {start current : τ}
variable {state : State ι Op σ ρ}
variable {moments : List (Moment ι Op ρ)}

/-- The calls of a thread that is in no call have returned. -/
theorem ofThread_of_idle
    (explains :
      Explains method perform related start state moments current)
    {thread : ι}
    (idle : state.threads thread = .outside) :
    ofThread thread (effects moments) =
      ofThread thread (returns state.history) := by
  have reached := explains.phases thread
  rw [State.phase, idle] at reached
  rw [reached.ofThread_effects, explains.same]
  exact List.append_nil _

/-- When all threads are in no call, the calls that took effect returned. -/
theorem perm_of_idle
    [DecidableEq Op]
    [DecidableEq ρ]
    (explains :
      Explains method perform related start state moments current)
    (idle : ∀ thread, state.threads thread = .outside) :
    (effects moments).Perm (returns state.history) :=
  perm_of_ofThread fun thread => explains.ofThread_of_idle (idle thread)

/-- What took effect in a run is what the threads called in it. -/
theorem call_of_effect
    {shared : σ}
    {actions : List (Action ι Op)}
    (explains :
      Explains method perform related start
        ((State.initial shared).run method actions) moments current)
    {entry : Completed ι Op ρ}
    (member : entry ∈ effects moments) :
    .call entry.thread entry.operation ∈ actions := by
  have called :=
    (explains.phases entry.thread).called.2 entry member rfl
  rw [explains.same] at called
  rcases State.called_run called with before | made
  · cases before
  · exact made

end Explains

end Steps

end Ammc.LockedObject
