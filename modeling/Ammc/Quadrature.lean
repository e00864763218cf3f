import Mathlib.Algebra.Order.Ring.Abs
import Mathlib.Data.Int.Order.Basic
import Mathlib.Data.List.Basic
import Mathlib.Tactic.Linarith

namespace Ammc.Quadrature

/-!
# Counting the turns of a quadrature encoder

A shaft turns in quarters of a period, and two phases show where in the period it
is.  Whoever counts the rises of the first phase only, by the direction of each,
counts half a period too much or too little wherever the shaft turns round.
-/

/-- A quarter of a period. -/
inductive Turn where
  | forward
  | backward
  deriving Repr, DecidableEq

def Turn.quarters : Turn → Int
  | .forward => 1
  | .backward => -1

/-- The first phase, in the later half of each period. -/
def phaseA (angle : Int) : Bool :=
  angle % 4 = 2 ∨ angle % 4 = 3

/-- The second phase, a quarter earlier. -/
def phaseB (angle : Int) : Bool :=
  angle % 4 = 1 ∨ angle % 4 = 2

/-- The quarters by which the shaft has turned in all. -/
def net : List Turn → Int
  | [] => 0
  | turn :: later => turn.quarters + net later

@[simp] theorem phaseA_eq_true (angle : Int) :
    phaseA angle = true ↔ angle % 4 = 2 ∨ angle % 4 = 3 :=
  decide_eq_true_iff

@[simp] theorem phaseA_eq_false (angle : Int) :
    phaseA angle = false ↔ ¬ (angle % 4 = 2 ∨ angle % 4 = 3) :=
  decide_eq_false_iff_not

@[simp] theorem phaseB_eq_true (angle : Int) :
    phaseB angle = true ↔ angle % 4 = 1 ∨ angle % 4 = 2 :=
  decide_eq_true_iff

/-- A rise of the first phase, counted by its direction. -/
def signal (angle : Int) (turn : Turn) : Int :=
  if phaseA angle = false ∧ phaseA (angle + turn.quarters) = true then
    turn.quarters
  else
    0

/-- The rises of the first phase. -/
def signals (angle : Int) : List Turn → Int
  | [] => 0
  | turn :: later =>
      signal angle turn + signals (angle + turn.quarters) later

theorem net_concat
    (turns : List Turn)
    (turn : Turn) :
    net (turns ++ [turn]) = net turns + turn.quarters := by
  induction turns with
  | nil =>
      simp only [List.nil_append, net, Int.add_zero, Int.zero_add]
  | cons first later inductionHypothesis =>
      rw [List.cons_append, net, inductionHypothesis, net, Int.add_assoc]

theorem signals_concat
    (angle : Int)
    (turns : List Turn)
    (turn : Turn) :
    signals angle (turns ++ [turn]) =
      signals angle turns + signal (angle + net turns) turn := by
  induction turns generalizing angle with
  | nil =>
      simp only [List.nil_append, signals, net, Int.add_zero,
        Int.zero_add]
  | cons first later inductionHypothesis =>
      rw [List.cons_append, signals, inductionHypothesis, signals, net,
        Int.add_assoc, Int.add_assoc]

/-- What the shaft turns round at an angle adds, in halves of a period. -/
def turning (angle : Int) (turn next : Turn) : Int :=
  if turn = next then 0
  else if phaseA angle = decide (next = .backward) then 1
  else -1

/-- What all turns round add. -/
def drift (angle : Int) : List Turn → Int
  | turn :: next :: later =>
      turning (angle + turn.quarters) turn next +
        drift (angle + turn.quarters) (next :: later)
  | _ => 0

/-- How often the shaft turns round. -/
def reversals : List Turn → Nat
  | turn :: next :: later =>
      (if turn = next then 0 else 1) + reversals (next :: later)
  | _ => 0

/-- The quarters since the last place where a rise is counted. -/
def residue (turn : Turn) (angle : Int) : Int :=
  match turn with
  | .forward => (angle + 2) % 4
  | .backward => angle % 4

theorem residue_bounds
    (turn : Turn)
    (angle : Int) :
    0 ≤ residue turn angle ∧ residue turn angle ≤ 3 := by
  cases turn with
  | forward =>
      rw [residue]
      omega
  | backward =>
      rw [residue]
      omega

/-- The identity for a quarter. -/
theorem signal_residue
    (angle : Int)
    (turn : Turn) :
    4 * signal angle turn =
      turn.quarters + residue turn angle -
        residue turn (angle + turn.quarters) := by
  cases turn with
  | forward =>
      simp only [signal, phaseA_eq_true, phaseA_eq_false, residue,
        Turn.quarters]
      split
      · omega
      · omega
  | backward =>
      simp only [signal, phaseA_eq_true, phaseA_eq_false, residue,
        Turn.quarters]
      split
      · omega
      · omega

/-- The identity where the shaft turns round, or goes on. -/
theorem residue_turning
    (angle : Int)
    (turn next : Turn) :
    residue next angle - residue turn angle =
      2 * turning angle turn next := by
  cases turn with
  | forward =>
      cases next with
      | forward => simp [turning]
      | backward =>
          simp only [turning, residue, phaseA_eq_true, reduceCtorEq,
            if_false, decide_true]
          split
          · omega
          · omega
  | backward =>
      cases next with
      | forward =>
          simp only [turning, residue, phaseA_eq_false, reduceCtorEq,
            if_false, decide_false]
          split
          · omega
          · omega
      | backward => simp [turning]

/--
The count of the rises is the way of the shaft, up to the beginning and the end
and half a period for every time it turns round.
-/
theorem signals_eq
    (angle : Int)
    (turn : Turn)
    (later : List Turn) :
    4 * signals angle (turn :: later) =
      net (turn :: later) + residue turn angle -
        residue (later.getLast?.getD turn)
          (angle + net (turn :: later)) +
        2 * drift angle (turn :: later) := by
  induction later generalizing angle turn with
  | nil =>
      have one := signal_residue angle turn
      simp only [signals, net, drift, List.getLast?_nil,
        Option.getD_none, add_zero]
      linarith
  | cons next rest inductionHypothesis =>
      have one := signal_residue angle turn
      have turned :=
        residue_turning (angle + turn.quarters) turn next
      have others := inductionHypothesis (angle + turn.quarters) next
      have way :
          angle + turn.quarters + net (next :: rest) =
            angle + net (turn :: next :: rest) :=
        add_assoc angle turn.quarters (net (next :: rest))
      have last :
          (next :: rest).getLast?.getD turn =
            rest.getLast?.getD next := by
        rw [List.getLast?_cons, Option.getD_some]
      have counted :
          signals angle (turn :: next :: rest) =
            signal angle turn +
              signals (angle + turn.quarters) (next :: rest) :=
        rfl
      have total :
          net (turn :: next :: rest) =
            turn.quarters + net (next :: rest) :=
        rfl
      have drifted :
          drift angle (turn :: next :: rest) =
            turning (angle + turn.quarters) turn next +
              drift (angle + turn.quarters) (next :: rest) :=
        rfl
      rw [way] at others
      rw [last, counted, drifted]
      linarith

theorem abs_drift_le
    (angle : Int)
    (turns : List Turn) :
    |drift angle turns| ≤ reversals turns := by
  induction turns generalizing angle with
  | nil => simp [drift, reversals]
  | cons turn later inductionHypothesis =>
      cases later with
      | nil => simp [drift, reversals]
      | cons next rest =>
          have others := inductionHypothesis (angle + turn.quarters)
          have one :
              |turning (angle + turn.quarters) turn next| ≤
                if turn = next then 0 else 1 := by
            by_cases same : turn = next
            · simp [turning, same]
            · rw [turning, if_neg same, if_neg same]
              split
              · simp
              · simp
          rw [drift, reversals]
          refine (abs_add_le _ _).trans ?_
          push_cast
          exact add_le_add one others

/-- The drift apart, the count is off by less than a period. -/
theorem abs_signals_drift_le
    (angle : Int)
    (turns : List Turn) :
    |4 * signals angle turns - net turns - 2 * drift angle turns| ≤ 3 := by
  cases turns with
  | nil => simp [signals, net, drift]
  | cons turn later =>
      have exact := signals_eq angle turn later
      have first := residue_bounds turn angle
      have last :=
        residue_bounds (later.getLast?.getD turn)
          (angle + net (turn :: later))
      rw [abs_le]
      constructor
      · linarith [first.1, last.2]
      · linarith [first.2, last.1]

end Ammc.Quadrature
