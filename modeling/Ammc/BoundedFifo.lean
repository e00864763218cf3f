import Mathlib.Data.List.Basic

namespace Ammc.BoundedFifo

/-!
# Bounded first-in first-out queues

A queue holds at most as many items as its capacity.  An implementation is a
step function that answers the same operations; it is compared with the queue
through its answers.
-/

variable {α σ τ : Type}

/-- The operations of a bounded queue. -/
inductive Operation (α : Type) where
  | push (item : α)
  | pop
  | flush
  | used
  | isempty
  | isfull
  deriving Repr, DecidableEq

/-- What an operation answers. -/
inductive Answer (α : Type) where
  | pushed (accepted : Bool)
  | popped (item : Option α)
  | flushed
  | count (items : Nat)
  | flag (holds : Bool)
  deriving Repr, DecidableEq

/-- The operation has failed. -/
def Answer.Failed : Answer α → Prop
  | .pushed accepted => accepted = false
  | .popped item => item = none
  | _ => False

/-- An operation on a queue, oldest item first. -/
def step
    (capacity : Nat)
    (operation : Operation α)
    (queue : List α) : Answer α × List α :=
  match operation, queue with
  | .push item, queue =>
      if queue.length < capacity then
        (.pushed true, queue ++ [item])
      else
        (.pushed false, queue)
  | .pop, [] => (.popped none, [])
  | .pop, item :: rest => (.popped (some item), rest)
  | .flush, _ => (.flushed, [])
  | .used, queue => (.count queue.length, queue)
  | .isempty, queue => (.flag queue.isEmpty, queue)
  | .isfull, queue => (.flag (queue.length = capacity), queue)

/-- The answers to a sequence of operations, and where they lead. -/
def run
    (perform : Operation α → σ → Answer α × σ) :
    List (Operation α) → σ → List (Answer α) × σ
  | [], state => ([], state)
  | operation :: later, state =>
      let first := perform operation state
      let rest := run perform later first.2
      (first.1 :: rest.1, rest.2)

/-- Further operations are answered from where the first ones lead. -/
theorem run_append
    (perform : Operation α → σ → Answer α × σ)
    (first second : List (Operation α))
    (state : σ) :
    run perform (first ++ second) state =
      ((run perform first state).1 ++
          (run perform second (run perform first state).2).1,
        (run perform second (run perform first state).2).2) := by
  induction first generalizing state with
  | nil =>
      rfl
  | cons operation later inductionHypothesis =>
      simp only [List.cons_append, run, inductionHypothesis]

/-- Two implementations answer an operation in the same way. -/
def Agree
    (related : σ → τ → Prop)
    (perform : Operation α → σ → Answer α × σ)
    (other : Operation α → τ → Answer α × τ)
    (operation : Operation α) : Prop :=
  ∀ state mirror, related state mirror →
    (perform operation state).1 = (other operation mirror).1 ∧
      related (perform operation state).2 (other operation mirror).2

/-- Agreement on every operation is agreement on the whole sequence. -/
theorem run_of_agree
    {related : σ → τ → Prop}
    {perform : Operation α → σ → Answer α × σ}
    {other : Operation α → τ → Answer α × τ}
    {operations : List (Operation α)}
    (agree :
      ∀ operation ∈ operations, Agree related perform other operation)
    {state : σ}
    {mirror : τ}
    (start : related state mirror) :
    (run perform operations state).1 = (run other operations mirror).1 ∧
      related (run perform operations state).2
        (run other operations mirror).2 := by
  induction operations generalizing state mirror with
  | nil =>
      exact ⟨rfl, start⟩
  | cons operation later inductionHypothesis =>
      obtain ⟨answer, next⟩ :=
        agree operation List.mem_cons_self state mirror start
      obtain ⟨answers, last⟩ :=
        inductionHypothesis
          (fun other member =>
            agree other (List.mem_cons_of_mem operation member))
          next
      exact ⟨congrArg₂ List.cons answer answers, last⟩

/-- A run of pushes that fit appends their items. -/
theorem run_pushes
    {capacity count : Nat}
    (item : α)
    (queue : List α)
    (fits : queue.length + count ≤ capacity) :
    (run (step capacity) (List.replicate count (.push item)) queue).2 =
      queue ++ List.replicate count item := by
  induction count generalizing queue with
  | zero =>
      exact (List.append_nil queue).symm
  | succ count inductionHypothesis =>
      have room : queue.length < capacity := by
        omega
      have fitsLater : (queue ++ [item]).length + count ≤ capacity := by
        rw [List.length_append, List.length_singleton]
        omega
      rw [List.replicate_succ, run, step, if_pos room,
        inductionHypothesis (queue ++ [item]) fitsLater,
        List.replicate_succ, List.append_assoc, List.singleton_append]

/-! ## Implementations with an operation of their own each -/

/-- The operations of an implementation; `none` is a failure. -/
structure Implementation (α σ : Type) where
  push : σ → α → Option σ
  pop : σ → Option (α × σ)
  flush : σ → σ
  used : σ → Nat
  isempty : σ → Bool
  isfull : σ → Bool

namespace Implementation

/-- The answer of an implementation; a failure leaves it as it is. -/
def perform
    (implementation : Implementation α σ)
    (operation : Operation α)
    (state : σ) : Answer α × σ :=
  match operation with
  | .push item =>
      match implementation.push state item with
      | none => (.pushed false, state)
      | some next => (.pushed true, next)
  | .pop =>
      match implementation.pop state with
      | none => (.popped none, state)
      | some (item, next) => (.popped (some item), next)
  | .flush => (.flushed, implementation.flush state)
  | .used => (.count (implementation.used state), state)
  | .isempty => (.flag (implementation.isempty state), state)
  | .isfull => (.flag (implementation.isfull state), state)

/-- Nothing changes when an operation fails. -/
theorem perform_of_failed
    {implementation : Implementation α σ}
    {operation : Operation α}
    {state : σ}
    (failed : (implementation.perform operation state).1.Failed) :
    (implementation.perform operation state).2 = state := by
  cases operation with
  | push item =>
      rw [perform] at failed ⊢
      cases pushed : implementation.push state item with
      | none => rfl
      | some next =>
          rw [pushed] at failed
          cases failed
  | pop =>
      rw [perform] at failed ⊢
      cases popped : implementation.pop state with
      | none => rfl
      | some taken =>
          rw [popped] at failed
          cases failed
  | flush => cases failed
  | _ => rfl

/-- Every operation but `used` does to the queue what it should. -/
structure Follows
    (implementation : Implementation α σ)
    (capacity : Nat)
    (related : σ → List α → Prop) : Prop where
  push :
    ∀ state queue item, related state queue → queue.length < capacity →
      ∃ next,
        implementation.push state item = some next ∧
          related next (queue ++ [item])
  refuse :
    ∀ state queue item, related state queue → ¬ queue.length < capacity →
      implementation.push state item = none
  pop :
    ∀ state item rest, related state (item :: rest) →
      ∃ next,
        implementation.pop state = some (item, next) ∧ related next rest
  exhausted :
    ∀ state, related state [] → implementation.pop state = none
  flush :
    ∀ state queue, related state queue →
      related (implementation.flush state) []
  isempty :
    ∀ state queue, related state queue →
      (implementation.isempty state = true ↔ queue = [])
  isfull :
    ∀ state queue, related state queue →
      (implementation.isfull state = true ↔ queue.length = capacity)

namespace Follows

variable {implementation : Implementation α σ}
variable {capacity : Nat}
variable {related : σ → List α → Prop}

/-- Operations that do not count the items answer as the queue does. -/
theorem agree_of_ne
    (follows : implementation.Follows capacity related)
    {operation : Operation α}
    (other : operation ≠ .used) :
    Agree related implementation.perform (step capacity) operation := by
  intro state queue relates
  cases operation with
  | push item =>
      by_cases room : queue.length < capacity
      · obtain ⟨next, pushed, after⟩ :=
          follows.push state queue item relates room
        rw [perform, pushed, step, if_pos room]
        exact ⟨rfl, after⟩
      · rw [perform, follows.refuse state queue item relates room, step,
          if_neg room]
        exact ⟨rfl, relates⟩
  | pop =>
      cases queue with
      | nil =>
          rw [perform, follows.exhausted state relates]
          exact ⟨rfl, relates⟩
      | cons item rest =>
          obtain ⟨next, popped, after⟩ :=
            follows.pop state item rest relates
          rw [perform, popped]
          exact ⟨rfl, after⟩
  | flush => exact ⟨rfl, follows.flush state queue relates⟩
  | used => exact absurd rfl other
  | isempty =>
      refine ⟨congrArg Answer.flag ?_, relates⟩
      rw [Bool.eq_iff_iff, follows.isempty state queue relates,
        List.isEmpty_iff]
  | isfull =>
      refine ⟨congrArg Answer.flag ?_, relates⟩
      rw [Bool.eq_iff_iff, follows.isfull state queue relates,
        decide_eq_true_eq]

/-- Where the items are counted as well, every operation does. -/
theorem agree
    (follows : implementation.Follows capacity related)
    (counts :
      ∀ state queue, related state queue →
        implementation.used state = queue.length)
    (operation : Operation α) :
    Agree related implementation.perform (step capacity) operation := by
  by_cases used : operation = .used
  · subst operation
    intro state queue relates
    exact ⟨congrArg Answer.count (counts state queue relates), relates⟩
  · exact follows.agree_of_ne used

end Follows

end Implementation

/-! ## Implementations in circular storage -/

/-- What can be seen of an implementation in circular storage. -/
structure Ends (α : Type) where
  first : Nat
  last : Nat
  size : Nat
  full : Bool
  items : List α

/--
In every sequence of operations an implementation gives the answers of a bounded
queue, keeps its items, fails without an effect, and has its ends in place.
-/
structure IsFifo
    (capacity : Nat)
    (perform : Operation α → σ → Answer α × σ)
    (ends : σ → Ends α)
    (start : σ) : Prop where
  answers :
    ∀ operations,
      (run perform operations start).1 =
        (run (step capacity) operations []).1
  items :
    ∀ operations,
      (ends (run perform operations start).2).items =
        (run (step capacity) operations []).2
  failures :
    ∀ operations operation,
      (perform operation (run perform operations start).2).1.Failed →
        (perform operation (run perform operations start).2).2 =
          (run perform operations start).2
  inside :
    ∀ operations,
      (ends (run perform operations start).2).size = capacity ∧
        (ends (run perform operations start).2).first < capacity ∧
          (ends (run perform operations start).2).last < capacity
  meet :
    ∀ operations,
      (ends (run perform operations start).2).full = true →
        (ends (run perform operations start).2).first =
          (ends (run perform operations start).2).last

/-- A relation to the queue that every operation keeps is enough. -/
theorem isFifo_of_agree
    {capacity : Nat}
    {perform : Operation α → σ → Answer α × σ}
    {ends : σ → Ends α}
    {related : σ → List α → Prop}
    (agree : ∀ operation, Agree related perform (step capacity) operation)
    (failures :
      ∀ operation state, (perform operation state).1.Failed →
        (perform operation state).2 = state)
    (shown :
      ∀ state queue, related state queue →
        (ends state).items = queue ∧ (ends state).size = capacity ∧
          (ends state).first < capacity ∧ (ends state).last < capacity ∧
            ((ends state).full = true →
              (ends state).first = (ends state).last))
    {start : σ}
    (begins : related start []) :
    IsFifo capacity perform ends start := by
  have runs :
      ∀ operations,
        (run perform operations start).1 =
            (run (step capacity) operations []).1 ∧
          related (run perform operations start).2
            (run (step capacity) operations []).2 :=
    fun operations =>
      run_of_agree (fun operation _ => agree operation) begins
  refine ⟨fun operations => (runs operations).1, ?_, ?_, ?_, ?_⟩
  · intro operations
    exact (shown _ _ (runs operations).2).1
  · intro operations operation failed
    exact failures operation _ failed
  · intro operations
    obtain ⟨_, size, first, last, _⟩ := shown _ _ (runs operations).2
    exact ⟨size, first, last⟩
  · intro operations
    obtain ⟨_, _, _, _, meet⟩ := shown _ _ (runs operations).2
    exact meet

end Ammc.BoundedFifo
