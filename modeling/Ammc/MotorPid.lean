import Mathlib.Data.Rat.Floor
import Ammc.SlaveLoop

namespace Ammc.Slave

open DcMotor

/-!
# The speed regulator of a slave

The PID module, the functions of the hardware layer that put a speed out, and
the timer interrupt that joins them.  Floating-point numbers are rational
numbers here, without rounding.  Converting a number that the target type does
not hold is undefined in C; such a conversion is `none`.
-/

/-- The static variables of the PID module. -/
structure Pid where
  pidInterval : UInt16
  kProp : ℚ
  kInt : ℚ
  kDer : ℚ
  errInt : ℚ
  errPrev : ℚ

/-- `ONE_SECOND_IN_MILLIS` -/
def oneSecondInMillis : ℚ := 1000

/-- `dcmotor_pid_init` -/
def dcmotorPidInit
    (kp ki kd : ℚ)
    (pidIntervalMs : UInt16) : Pid where
  pidInterval := pidIntervalMs
  kProp := kp
  kInt := ki
  kDer := kd
  errInt := 0
  errPrev := 0

/-- `dcmotor_pid_iterate` -/
def dcmotorPidIterate
    (speedActual speedTarget : ℚ)
    (pid : Pid) : ℚ × Pid :=
  let pidInterval : ℚ := pid.pidInterval.toNat
  let errProp := speedActual - speedTarget
  let errDer :=
    (errProp - pid.errPrev) * oneSecondInMillis / pidInterval
  let errInt :=
    pid.errInt + errProp * pidInterval / oneSecondInMillis
  (pid.kProp * errProp + pid.kInt * errInt + pid.kDer * errDer,
    { pid with
      errPrev := errProp
      errInt := errInt })

/-- The integer part, as a conversion to an integer type takes it. -/
def truncate (value : ℚ) : Int :=
  if 0 ≤ value then ⌊value⌋ else -⌊-value⌋

/-- The conversion to `dc_rpm_t`. -/
def rpmOfFloat (value : ℚ) : Option DcRpm :=
  if -32768 ≤ truncate value ∧ truncate value ≤ 32767 then
    some (Int16.ofInt (truncate value))
  else
    none

/-- The conversion to `duty_cycle_t`, which is `uint8_t`. -/
def dutyCycleOfFloat (value : ℚ) : Option UInt8 :=
  if 0 ≤ truncate value ∧ truncate value ≤ 255 then
    some (UInt8.ofNat (truncate value).toNat)
  else
    none

/-- The direction pins and `SPEED_REGISTER`. -/
structure Output where
  in1 : Bool
  in2 : Bool
  speedRegister : UInt8
  deriving Repr, DecidableEq

/-- `move_forward` -/
def moveForward (output : Output) : Output :=
  { output with
    in1 := true
    in2 := false }

/-- `move_backward` -/
def moveBackward (output : Output) : Output :=
  { output with
    in1 := false
    in2 := true }

/-- `power_off_motor` -/
def powerOffMotor (output : Output) : Output :=
  { output with
    in1 := false
    in2 := false }

/-- `rpm2pwm` -/
def rpm2pwm (rpm : DcRpm) : Option UInt8 :=
  let maxSpeed : ℚ := dcMotorMaxRpmSpeed.toInt
  let pwmUpperBound : ℚ := 0xFF
  let speed : ℚ := rpm.toInt
  dutyCycleOfFloat (speed / maxSpeed * pwmUpperBound)

/-- `bound_speed` -/
def boundSpeed (rpm : DcRpm) : DcRpm :=
  if rpm < dcMotorMaxRpmSpeed then rpm else dcMotorMaxRpmSpeed

/-- The macro `abs`; negating the smallest speed wraps. -/
def absSpeed (speed : DcRpm) : DcRpm :=
  if speed > 0 then speed else -speed

/-- `dcmotor_phy_load_speed` -/
def dcmotorPhyLoadSpeed
    (speed : DcRpm)
    (output : Output) : Option Output := do
  let dutyCycle ← rpm2pwm (boundSpeed (absSpeed speed))
  let directed :=
    if speed > 0 then moveForward output
    else if speed < 0 then moveBackward output
    else powerOffMotor output
  return { directed with speedRegister := dutyCycle }

/-- `dcmotor_phy_load_speed_float` -/
def dcmotorPhyLoadSpeedFloat
    (speed : ℚ)
    (output : Output) : Option Output := do
  let speed ← rpmOfFloat speed
  dcmotorPhyLoadSpeed speed output

/-- What the timer interrupt uses. -/
structure Regulator where
  motorPosition : Int32
  motor : Motor
  pid : Pid
  output : Output

/-- `compute_speed_from_position` -/
def computeSpeedFromPosition (position : Int32) : ℚ :=
  (position.toInt : ℚ) / 1125 * 60000 / 100

/-- `ISR(DCMOTOR_PHY_PID_ISR)` -/
def pidIsr (regulator : Regulator) : Option Regulator := do
  let speed := computeSpeedFromPosition regulator.motorPosition
  let (correctedSpeed, pid) :=
    dcmotorPidIterate speed regulator.motor.speedTarget.toInt
      regulator.pid
  let output ←
    dcmotorPhyLoadSpeedFloat correctedSpeed regulator.output
  let speedActual ← rpmOfFloat speed
  return {
    motorPosition := 0
    motor := { regulator.motor with speedActual := speedActual }
    pid := pid
    output := output }

/-- `dcmotor_init`; the timer and the pins are set up elsewhere. -/
def dcmotorInit (regulator : Regulator) : Option Regulator := do
  let output ← dcmotorPhyLoadSpeed 0 regulator.output
  return { regulator with
    pid := dcmotorPidInit (3 / 2) (37 / 10) 0 100
    output := output }

end Ammc.Slave
