import Mathlib.Data.List.Induction
import Ammc.SlaveLoop

namespace Ammc.Slave

open ByteMemory DcMotor

/-!
# What a slave makes of the requested speeds

The motor module keeps the last speed that was set and takes it over when it is
told to apply it.  A speed is limited when it is set.  The limit for speeds below
zero compares with the upper bound, so every such speed becomes the largest
forward speed.
-/

/-- The calls of the motor module that change its speeds. -/
inductive MotorCall where
  | set (next : DcRpm)
  | apply
  deriving Repr, DecidableEq

/-- A call changes the static variables of the motor module. -/
def MotorCall.perform : MotorCall → Motor → Motor
  | .set next, motor => dcmotorSet next motor
  | .apply, motor => dcmotorApply motor

/-- The static variables of the motor module before any call. -/
def motorAtStart : Motor where
  speedActual := 0
  speedTarget := 0
  speedNext := 0

/-- The static variables after a sequence of calls. -/
def performed (calls : List MotorCall) : Motor :=
  calls.foldl (fun motor call => call.perform motor) motorAtStart

theorem performed_concat
    (calls : List MotorCall)
    (call : MotorCall) :
    performed (calls ++ [call]) = call.perform (performed calls) := by
  simp [performed]

/-! ## Where the calls come from -/

/-- The call that a command frame leads to. -/
def callOfCommand
    (cmd : Memory)
    (cmdSize : UInt8) : Option MotorCall :=
  if ¬ commandIsvalid cmd cmdSize then
    none
  else if cmd 0 = Master.CommandId.setSpeed.code then
    some (.set (rpmOfBytes (cmd 1) (cmd 2)))
  else if cmd 0 = Master.CommandId.applySpeed.code then
    some .apply
  else
    none

theorem motor_commandRespond
    (response : List UInt8)
    (slave : Controller) :
    (commandRespond response slave).motor = slave.motor := by
  rw [commandRespond]
  split
  · rfl
  · rfl

/-- `execute_command` changes the motor through at most one call. -/
theorem motor_executeCommand
    (cmd : Memory)
    (cmdSize : UInt8)
    (slave : Controller) :
    (executeCommand cmd cmdSize slave).motor =
      (callOfCommand cmd cmdSize).elim slave.motor
        fun call => call.perform slave.motor := by
  simp only [executeCommand, callOfCommand]
  split
  · rfl
  split
  · rename_i isGet
    simp [motor_commandRespond, isGet, Master.CommandId.code]
  split
  · rfl
  split
  · rfl
  split
  · simp [motor_commandRespond]
  split
  · rfl
  · rfl

/-! ## What is asked for -/

/-- The last speed that was set, or zero. -/
def lastSet (calls : List MotorCall) : DcRpm :=
  (calls.reverse.findSome? fun call =>
    match call with
    | .set next => some next
    | .apply => none).getD 0

/-- The last speed that was set before the last `apply`, or zero. -/
def lastApplied (calls : List MotorCall) : DcRpm :=
  lastSet (calls.reverse.dropWhile (· ≠ .apply)).reverse

/-- The speed with the sign of the given one and a limited magnitude. -/
def limited (speed : Int) : Int :=
  speed.sign * min speed.natAbs 125

@[simp] theorem lastSet_concat_set
    (calls : List MotorCall)
    (next : DcRpm) :
    lastSet (calls ++ [.set next]) = next := by
  simp [lastSet]

@[simp] theorem lastSet_concat_apply (calls : List MotorCall) :
    lastSet (calls ++ [.apply]) = lastSet calls := by
  simp [lastSet]

@[simp] theorem lastApplied_concat_set
    (calls : List MotorCall)
    (next : DcRpm) :
    lastApplied (calls ++ [.set next]) = lastApplied calls := by
  simp [lastApplied]

@[simp] theorem lastApplied_concat_apply (calls : List MotorCall) :
    lastApplied (calls ++ [.apply]) = lastSet calls := by
  simp [lastApplied]

/-- What was set last has been set. -/
theorem lastSet_nonneg
    {calls : List MotorCall}
    (forward : ∀ next, MotorCall.set next ∈ calls → 0 ≤ next) :
    0 ≤ lastSet calls := by
  induction calls using List.reverseRecOn with
  | nil =>
      decide
  | append_singleton calls call inductionHypothesis =>
      cases call with
      | set next =>
          rw [lastSet_concat_set]
          exact forward next (by simp)
      | apply =>
          rw [lastSet_concat_apply]
          exact inductionHypothesis fun next member =>
            forward next (List.mem_append_left _ member)

/-! ## What the limit does -/

/-- Speeds below zero are limited to the largest forward speed. -/
theorem toInt_computeLimitedSpeed (speed : DcRpm) :
    (computeLimitedSpeed speed).toInt =
      if 0 ≤ speed.toInt then min speed.toInt 125 else 125 := by
  have zero : (0 : DcRpm).toInt = 0 :=
    rfl
  have largest : dcMotorMaxRpmSpeed.toInt = 125 :=
    rfl
  simp only [computeLimitedSpeed, ge_iff_le, gt_iff_lt,
    Int16.le_iff_toInt_le, Int16.lt_iff_toInt_lt, zero, largest]
  split
  · split
    · omega
    · omega
  · split
    · omega
    · exact largest

theorem limited_of_nonneg
    {speed : Int}
    (nonneg : 0 ≤ speed) :
    limited speed = min speed 125 := by
  rcases Int.lt_or_eq_of_le nonneg with positive | zero
  · rw [limited, Int.sign_eq_one_of_pos positive]
    omega
  · subst zero
    rfl

/-- The limited speed is the requested one up to its magnitude. -/
theorem toInt_computeLimitedSpeed_of_nonneg
    {speed : DcRpm}
    (nonneg : 0 ≤ speed) :
    (computeLimitedSpeed speed).toInt = limited speed.toInt := by
  have sign : 0 ≤ speed.toInt :=
    Int16.le_iff_toInt_le.mp nonneg
  rw [toInt_computeLimitedSpeed, if_pos sign, limited_of_nonneg sign]

/-- `speed_next` and `speed_target` are what a call or the start has left. -/
structure Speeds (calls : List MotorCall) (motor : Motor) : Prop where
  next :
    motor.speedNext = computeLimitedSpeed (lastSet calls)
  target :
    motor.speedTarget = computeLimitedSpeed (lastApplied calls)

/-- A further call leaves the two speeds in accordance with it. -/
theorem Speeds.perform
    {calls : List MotorCall}
    {motor : Motor}
    (speeds : Speeds calls motor)
    (call : MotorCall) :
    Speeds (calls ++ [call]) (call.perform motor) := by
  cases call with
  | set next =>
      refine ⟨?_, ?_⟩
      · rw [lastSet_concat_set]
        rfl
      · rw [lastApplied_concat_set]
        exact speeds.target
  | apply =>
      refine ⟨?_, ?_⟩
      · rw [lastSet_concat_apply]
        exact speeds.next
      · rw [lastApplied_concat_apply]
        exact speeds.next

/-- The two speeds after any sequence of calls. -/
theorem speeds_performed (calls : List MotorCall) :
    Speeds calls (performed calls) := by
  induction calls using List.reverseRecOn with
  | nil =>
      exact ⟨rfl, rfl⟩
  | append_singleton calls call inductionHypothesis =>
      rw [performed_concat]
      exact inductionHypothesis.perform call

/-! ## The law of the requested speeds -/

/-- The motor turns as it was asked to, within the limits. -/
structure Lawful (calls : List MotorCall) (motor : Motor) : Prop where
  target :
    motor.speedTarget.toInt = limited (lastApplied calls).toInt
  nextInRange :
    -125 ≤ motor.speedNext.toInt ∧ motor.speedNext.toInt ≤ 125
  targetInRange :
    -125 ≤ motor.speedTarget.toInt ∧ motor.speedTarget.toInt ≤ 125
  keepsReverse : lastSet calls < 0 → ¬ 0 < motor.speedNext

/-- Both speeds stay in range after every sequence of calls. -/
theorem range_computeLimitedSpeed (speed : DcRpm) :
    -125 ≤ (computeLimitedSpeed speed).toInt ∧
      (computeLimitedSpeed speed).toInt ≤ 125 := by
  rw [toInt_computeLimitedSpeed]
  split
  · omega
  · omega

/-- A speed below zero is turned into a forward speed. -/
theorem computeLimitedSpeed_of_neg
    {speed : DcRpm}
    (negative : speed < 0) :
    0 < computeLimitedSpeed speed := by
  have sign : ¬ 0 ≤ speed.toInt :=
    Int.not_le.mpr (Int16.lt_iff_toInt_lt.mp negative)
  rw [Int16.lt_iff_toInt_lt, toInt_computeLimitedSpeed, if_neg sign]
  decide

theorem lawful_of_forward
    {calls : List MotorCall}
    (forward : ∀ next, MotorCall.set next ∈ calls → 0 ≤ next) :
    Lawful calls (performed calls) := by
  have speeds := speeds_performed calls
  have nonneg := lastSet_nonneg forward
  have appliedNonneg : 0 ≤ lastApplied calls := by
    refine lastSet_nonneg fun next member => forward next ?_
    rw [List.mem_reverse] at member
    exact List.mem_reverse.mp
      ((List.dropWhile_sublist _).subset member)
  refine ⟨?_, ?_, ?_, fun reverse => ?_⟩
  · rw [speeds.target,
      toInt_computeLimitedSpeed_of_nonneg appliedNonneg]
  · rw [speeds.next]
    exact range_computeLimitedSpeed _
  · rw [speeds.target]
    exact range_computeLimitedSpeed _
  · exact absurd nonneg (Int16.not_le.mpr reverse)

/--
In every state of a sequence of calls the motor has the speeds it was asked for,
within the limits, exactly when no call sets a speed below zero.
-/
theorem motorCalls_lawful_iff (calls : List MotorCall) :
    (∀ before, before <+: calls → Lawful before (performed before)) ↔
      ∀ next, MotorCall.set next ∈ calls → 0 ≤ next := by
  constructor
  · intro lawful next member
    by_contra notForward
    have reverse : next < 0 := Int16.not_le.mp notForward
    obtain ⟨before, after, rfl⟩ := List.append_of_mem member
    have reached :
        before ++ [MotorCall.set next] <+:
          before ++ MotorCall.set next :: after :=
      ⟨after, by simp⟩
    have kept := (lawful _ reached).keepsReverse
    have speeds := speeds_performed (before ++ [MotorCall.set next])
    rw [lastSet_concat_set] at kept
    rw [speeds.next, lastSet_concat_set] at kept
    exact kept reverse (computeLimitedSpeed_of_neg reverse)
  · intro forward before reached
    exact lawful_of_forward fun next member =>
      forward next (reached.subset member)

/-- A request for 50 in reverse becomes 125 forward. -/
theorem reverseRequest_unlawful :
    ¬ ∀ before, before <+: [MotorCall.set (-50), .apply] →
      Lawful before (performed before) := by
  intro lawful
  have target :=
    (lawful [MotorCall.set (-50), .apply] (List.prefix_refl _)).target
  exact absurd target (by decide)

end Ammc.Slave
