import Mathlib.Data.List.Basic

namespace Ammc.EventRuns

/-!
# Runs of events

A system takes one step for every event.  An invariant that every harmless step
keeps, and that no harmful step leaves intact, tells a run that stays good from
one that does not.
-/

variable {σ ε : Type*}
variable (step : σ → ε → σ)

/-- Every state of the run is good, the first and the last one too. -/
def Always (good : σ → Prop) : σ → List ε → Prop
  | state, [] => good state
  | state, event :: later =>
      good state ∧ Always good (step state event) later

/-- No step of the run is harmful. -/
def Never (harmful : σ → ε → Prop) : σ → List ε → Prop
  | _, [] => True
  | state, event :: later =>
      ¬ harmful state event ∧ Never harmful (step state event) later

variable {step}
variable {invariant good : σ → Prop}
variable {harmful : σ → ε → Prop}

theorem Always.start
    {state : σ}
    {events : List ε}
    (always : Always step good state events) :
    good state := by
  cases events with
  | nil => exact always
  | cons event later => exact always.1

theorem Always.last
    {state : σ}
    {events : List ε}
    (always : Always step good state events) :
    good (events.foldl step state) := by
  induction events generalizing state with
  | nil => exact always
  | cons event later inductionHypothesis =>
      exact inductionHypothesis always.2

/-- What follows from a property in every state follows in every run. -/
theorem Always.imp
    {better : σ → Prop}
    (implies : ∀ state, better state → good state)
    {state : σ}
    {events : List ε}
    (always : Always step better state events) :
    Always step good state events := by
  induction events generalizing state with
  | nil => exact implies state always
  | cons event later inductionHypothesis =>
      exact ⟨implies state always.1, inductionHypothesis always.2⟩

/-- A run goes on without harm where its first part ends. -/
theorem never_append
    {state : σ}
    {first second : List ε} :
    Never step harmful state (first ++ second) ↔
      Never step harmful state first ∧
        Never step harmful (first.foldl step state) second := by
  induction first generalizing state with
  | nil => exact (and_iff_right trivial).symm
  | cons event later inductionHypothesis =>
      rw [List.cons_append, Never, inductionHypothesis, Never, and_assoc]
      rfl

/-- A run without harmful steps keeps the invariant. -/
theorem Never.keeps
    (keeps :
      ∀ state event, invariant state → ¬ harmful state event →
        invariant (step state event))
    {state : σ}
    {events : List ε}
    (never : Never step harmful state events)
    (start : invariant state) :
    Always step invariant state events := by
  induction events generalizing state with
  | nil => exact start
  | cons event later inductionHypothesis =>
      exact
        ⟨start,
          inductionHypothesis never.2 (keeps state event start never.1)⟩

/-- What every step keeps holds in every state. -/
theorem always_of_kept
    (kept :
      ∀ state event, invariant state → invariant (step state event))
    {state : σ}
    (start : invariant state)
    (events : List ε) :
    Always step invariant state events := by
  induction events generalizing state with
  | nil => exact start
  | cons event later inductionHypothesis =>
      exact ⟨start, inductionHypothesis (kept state event start)⟩

/-- A run stays good exactly as long as none of its steps is harmful. -/
theorem always_iff_never
    (implies : ∀ state, invariant state → good state)
    (keeps :
      ∀ state event, invariant state → ¬ harmful state event →
        invariant (step state event))
    (breaks :
      ∀ state event, invariant state → harmful state event →
        ¬ good (step state event))
    {state : σ}
    (start : invariant state)
    (events : List ε) :
    Always step good state events ↔ Never step harmful state events := by
  constructor
  · intro always
    induction events generalizing state with
    | nil => trivial
    | cons event later inductionHypothesis =>
        have harmless : ¬ harmful state event := fun harms =>
          breaks state event start harms always.2.start
        exact
          ⟨harmless,
            inductionHypothesis (keeps state event start harmless)
              always.2⟩
  · intro never
    exact (never.keeps keeps start).imp implies

end Ammc.EventRuns
