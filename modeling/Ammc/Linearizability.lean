import Mathlib.Data.List.Count
import Mathlib.Data.List.Perm.Basic

namespace Ammc.Linearizability

/-!
# Linearizable histories

Threads call the operations of an object, one call at a time each.  A history
has the calls and the returns in the order in which they are seen.  It is
linearizable when every call that returned, and perhaps some that did not yet,
has a moment between its call and its return at which it takes effect, such that
the effects in their order are those of a sequential object.
-/

variable {ι Op ρ τ : Type}

/-- A call with its answer. -/
structure Completed (ι Op ρ : Type) where
  thread : ι
  operation : Op
  answer : ρ
  deriving Repr, DecidableEq

/-- What is seen of the calls. -/
inductive Event (ι Op ρ : Type) where
  | called (thread : ι) (operation : Op)
  | returned (entry : Completed ι Op ρ)
  deriving Repr, DecidableEq

/-- What happens to the calls; an effect is not seen. -/
inductive Moment (ι Op ρ : Type) where
  | seen (event : Event ι Op ρ)
  | effect (entry : Completed ι Op ρ)
  deriving Repr, DecidableEq

namespace Event

/-- The thread whose call it is. -/
def thread : Event ι Op ρ → ι
  | .called thread _ => thread
  | .returned entry => entry.thread

/-- The call that has returned. -/
def return? : Event ι Op ρ → Option (Completed ι Op ρ)
  | .called _ _ => none
  | .returned entry => some entry

end Event

/-- The calls that have returned, in the order of their returns. -/
def returns (history : List (Event ι Op ρ)) : List (Completed ι Op ρ) :=
  history.filterMap Event.return?

@[simp] theorem returns_append
    (first second : List (Event ι Op ρ)) :
    returns (first ++ second) = returns first ++ returns second :=
  List.filterMap_append

namespace Moment

/-- The thread whose call it is. -/
def thread : Moment ι Op ρ → ι
  | .seen event => event.thread
  | .effect entry => entry.thread

/-- What is seen of it. -/
def event? : Moment ι Op ρ → Option (Event ι Op ρ)
  | .seen event => some event
  | .effect _ => none

/-- The call that takes effect. -/
def effect? : Moment ι Op ρ → Option (Completed ι Op ρ)
  | .seen _ => none
  | .effect entry => some entry

end Moment

/-- What is seen of the moments. -/
def history (moments : List (Moment ι Op ρ)) : List (Event ι Op ρ) :=
  moments.filterMap Moment.event?

/-- The calls that have taken effect, in the order of their effects. -/
def effects (moments : List (Moment ι Op ρ)) : List (Completed ι Op ρ) :=
  moments.filterMap Moment.effect?

@[simp] theorem history_append
    (first second : List (Moment ι Op ρ)) :
    history (first ++ second) = history first ++ history second :=
  List.filterMap_append

@[simp] theorem effects_append
    (first second : List (Moment ι Op ρ)) :
    effects (first ++ second) = effects first ++ effects second :=
  List.filterMap_append

@[simp] theorem history_concat_seen
    (moments : List (Moment ι Op ρ))
    (event : Event ι Op ρ) :
    history (moments ++ [.seen event]) = history moments ++ [event] :=
  history_append moments [.seen event]

@[simp] theorem history_concat_effect
    (moments : List (Moment ι Op ρ))
    (entry : Completed ι Op ρ) :
    history (moments ++ [.effect entry]) = history moments :=
  (history_append moments [.effect entry]).trans (List.append_nil _)

@[simp] theorem effects_concat_seen
    (moments : List (Moment ι Op ρ))
    (event : Event ι Op ρ) :
    effects (moments ++ [.seen event]) = effects moments :=
  (effects_append moments [.seen event]).trans (List.append_nil _)

@[simp] theorem effects_concat_effect
    (moments : List (Moment ι Op ρ))
    (entry : Completed ι Op ρ) :
    effects (moments ++ [.effect entry]) = effects moments ++ [entry] :=
  effects_append moments [.effect entry]

/-! ## The calls of one thread -/

/-- Where a thread is with its calls. -/
inductive Phase (Op ρ : Type) where
  | idle
  | called (operation : Op)
  | effected (operation : Op) (answer : ρ)

/-- A moment takes one thread from a phase to the next. -/
inductive Phase.Moves (thread : ι) :
    Phase Op ρ → Moment ι Op ρ → Phase Op ρ → Prop where
  | call (operation : Op) :
      Moves thread .idle (.seen (.called thread operation))
        (.called operation)
  | effect (operation : Op) (answer : ρ) :
      Moves thread (.called operation)
        (.effect ⟨thread, operation, answer⟩)
        (.effected operation answer)
  | return (operation : Op) (answer : ρ) :
      Moves thread (.effected operation answer)
        (.seen (.returned ⟨thread, operation, answer⟩)) .idle
  | other {phase : Phase Op ρ} {moment : Moment ι Op ρ}
      (elsewhere : moment.thread ≠ thread) :
      Moves thread phase moment phase

/-- The moments, in their order, bring the thread to the phase. -/
inductive Reached (thread : ι) :
    List (Moment ι Op ρ) → Phase Op ρ → Prop where
  | start : Reached thread [] .idle
  | next {moments : List (Moment ι Op ρ)} {phase after : Phase Op ρ}
      {moment : Moment ι Op ρ}
      (reached : Reached thread moments phase)
      (moves : Phase.Moves thread phase moment after) :
      Reached thread (moments ++ [moment]) after

/-- The call that has taken effect and not yet returned. -/
def Phase.pending
    (thread : ι) : Phase Op ρ → List (Completed ι Op ρ)
  | .effected operation answer => [⟨thread, operation, answer⟩]
  | _ => []

/-- The thread has called the operation that it is busy with. -/
def Phase.Called
    (thread : ι)
    (seen : List (Event ι Op ρ)) : Phase Op ρ → Prop
  | .called operation => .called thread operation ∈ seen
  | _ => True

/-- What takes effect has been called, by the thread that gets the answer. -/
theorem Reached.called
    {thread : ι}
    {moments : List (Moment ι Op ρ)}
    {phase : Phase Op ρ}
    (reached : Reached thread moments phase) :
    phase.Called thread (history moments) ∧
      ∀ entry ∈ effects moments, entry.thread = thread →
        .called thread entry.operation ∈ history moments := by
  induction reached with
  | start =>
      refine ⟨trivial, ?_⟩
      intro entry member
      cases member
  | @next moments phase after moment reached moves inductionHypothesis =>
      obtain ⟨called, earlier⟩ := inductionHypothesis
      have older :
          ∀ event ∈ history moments,
            event ∈ history (moments ++ [moment]) := by
        intro event member
        rw [history_append]
        exact List.mem_append_left _ member
      cases moves with
      | call operation =>
          rw [effects_concat_seen]
          refine ⟨?_, fun entry member own =>
            older _ (earlier entry member own)⟩
          rw [history_concat_seen]
          exact List.mem_append_right _ (List.mem_singleton_self _)
      | effect operation answer =>
          refine ⟨trivial, fun entry member own => older _ ?_⟩
          rw [effects_concat_effect] at member
          rcases List.mem_append.mp member with before | now
          · exact earlier entry before own
          · cases List.mem_singleton.mp now
            exact called
      | «return» operation answer =>
          rw [effects_concat_seen]
          exact
            ⟨trivial, fun entry member own =>
              older _ (earlier entry member own)⟩
      | other elsewhere =>
          constructor
          · cases phase with
            | called operation => exact older _ called
            | _ => trivial
          · intro entry member own
            refine older _ (earlier entry ?_ own)
            cases moment with
            | seen event => rwa [effects_concat_seen] at member
            | effect performed =>
                rw [effects_concat_effect] at member
                rcases List.mem_append.mp member with before | now
                · exact before
                · cases List.mem_singleton.mp now
                  exact absurd own elsewhere

section Threads

variable [DecidableEq ι]

/-- The calls of one thread. -/
def ofThread
    (thread : ι)
    (entries : List (Completed ι Op ρ)) : List (Completed ι Op ρ) :=
  entries.filter fun entry => entry.thread = thread

@[simp] theorem ofThread_append
    (thread : ι)
    (first second : List (Completed ι Op ρ)) :
    ofThread thread (first ++ second) =
      ofThread thread first ++ ofThread thread second :=
  List.filter_append first second

/-- A call of the thread itself is one of its calls. -/
theorem ofThread_own
    {thread : ι}
    {entry : Completed ι Op ρ}
    (own : entry.thread = thread)
    (later : List (Completed ι Op ρ)) :
    ofThread thread (entry :: later) = entry :: ofThread thread later :=
  List.filter_cons_of_pos (decide_eq_true own)

/-- A call of another thread is none of its calls. -/
theorem ofThread_other
    {thread : ι}
    {entry : Completed ι Op ρ}
    (elsewhere : entry.thread ≠ thread)
    (later : List (Completed ι Op ρ)) :
    ofThread thread (entry :: later) = ofThread thread later :=
  List.filter_cons_of_neg fun own => elsewhere (of_decide_eq_true own)

/-- One moment makes the thread's effects and returns agree again. -/
theorem Phase.Moves.balanced
    {thread : ι}
    {phase after : Phase Op ρ}
    {moment : Moment ι Op ρ}
    (moves : Phase.Moves thread phase moment after) :
    phase.pending thread ++ ofThread thread (effects [moment]) =
      ofThread thread (returns (history [moment])) ++
        after.pending thread := by
  cases moves with
  | call operation => rfl
  | effect operation answer => exact ofThread_own rfl []
  | «return» operation answer =>
      have own :
          ofThread thread [⟨thread, operation, answer⟩] =
            [⟨thread, operation, answer⟩] :=
        ofThread_own rfl []
      exact (congrArg (· ++ []) own).symm
  | other elsewhere =>
      have none : ofThread thread (effects [moment]) = [] := by
        cases moment with
        | seen event => rfl
        | effect entry => exact ofThread_other elsewhere []
      have noneReturned :
          ofThread thread (returns (history [moment])) = [] := by
        cases moment with
        | seen event =>
            cases event with
            | called thread operation => rfl
            | returned entry => exact ofThread_other elsewhere []
        | effect entry => rfl
      rw [none, noneReturned, List.append_nil, List.nil_append]

/-- The effects of a thread are its returns and the call that is to return. -/
theorem Reached.ofThread_effects
    {thread : ι}
    {moments : List (Moment ι Op ρ)}
    {phase : Phase Op ρ}
    (reached : Reached thread moments phase) :
    ofThread thread (effects moments) =
      ofThread thread (returns (history moments)) ++
        phase.pending thread := by
  induction reached with
  | start => rfl
  | next reached moves inductionHypothesis =>
      rw [effects_append, ofThread_append, inductionHypothesis,
        List.append_assoc, moves.balanced, history_append, returns_append,
        ofThread_append, List.append_assoc]

/-- Calls that are the same for each thread are the same calls. -/
theorem perm_of_ofThread
    [DecidableEq Op]
    [DecidableEq ρ]
    {first second : List (Completed ι Op ρ)}
    (same :
      ∀ thread, ofThread thread first = ofThread thread second) :
    first.Perm second := by
  refine List.perm_iff_count.mpr fun entry => ?_
  have counted :
      ∀ entries,
        List.count entry (ofThread entry.thread entries) =
          List.count entry entries :=
    fun entries => List.count_filter (decide_eq_true rfl)
  rw [← counted first, ← counted second, same]

/-- What only the calls of one thread yield does not need the other calls. -/
theorem flatMap_ofThread
    {α : Type}
    {thread : ι}
    {yields : Completed ι Op ρ → List α}
    {entries : List (Completed ι Op ρ)}
    (only :
      ∀ entry ∈ entries, yields entry ≠ [] → entry.thread = thread) :
    (ofThread thread entries).flatMap yields = entries.flatMap yields := by
  induction entries with
  | nil => rfl
  | cons entry later inductionHypothesis =>
      have further :=
        inductionHypothesis fun other member =>
          only other (List.mem_cons_of_mem entry member)
      by_cases own : entry.thread = thread
      · rw [ofThread_own own, List.flatMap_cons, List.flatMap_cons,
          further]
      · have nothing : yields entry = [] := by
          by_contra yielded
          exact own (only entry List.mem_cons_self yielded)
        rw [ofThread_other own, List.flatMap_cons, nothing,
          List.nil_append, further]

end Threads

/-! ## A sequential object -/

/-- The calls, one after the other, lead the object from one state to another. -/
def Performs
    (perform : Op → τ → ρ × τ) :
    τ → List (Completed ι Op ρ) → τ → Prop
  | state, [], final => final = state
  | state, entry :: later, final =>
      (perform entry.operation state).1 = entry.answer ∧
        Performs perform (perform entry.operation state).2 later final

/-- One more call is performed where the earlier ones lead. -/
theorem Performs.concat
    {perform : Op → τ → ρ × τ}
    {state middle : τ}
    {entries : List (Completed ι Op ρ)}
    (performs : Performs perform state entries middle)
    (thread : ι)
    (operation : Op) :
    Performs perform state
      (entries ++ [⟨thread, operation, (perform operation middle).1⟩])
      (perform operation middle).2 := by
  induction entries generalizing state with
  | nil =>
      cases performs
      exact ⟨rfl, rfl⟩
  | cons entry later inductionHypothesis =>
      exact ⟨performs.1, inductionHypothesis performs.2⟩

/-- The moments give the history an order of effects that ends in `final`. -/
structure Linearization
    (perform : Op → τ → ρ × τ)
    (start : τ)
    (seen : List (Event ι Op ρ))
    (moments : List (Moment ι Op ρ))
    (final : τ) : Prop where
  same : history moments = seen
  orderly : ∀ thread, ∃ phase, Reached thread moments phase
  performs : Performs perform start (effects moments) final

/-- Some order of effects explains the history. -/
def Linearizable
    (perform : Op → τ → ρ × τ)
    (start : τ)
    (seen : List (Event ι Op ρ)) : Prop :=
  ∃ moments final, Linearization perform start seen moments final

end Ammc.Linearizability
