import Mathlib.Data.List.Induction
import Mathlib.Tactic.Linarith
import Mathlib.Tactic.Positivity
import Mathlib.Tactic.Ring
import Ammc.MotorPid

namespace Ammc.Slave

open DcMotor

/-!
# Runs of the speed regulator

The regulator adds up the error of every tick and never bounds the sum.  The
corrected speed is converted to sixteen bits before `bound_speed` sees it, so a
run is well defined only as long as the sum of the errors stays small enough.
-/

/-- What one tick finds: a motor position and a target, both in range. -/
structure Sample where
  position : Int32
  target : DcRpm
  speedInRange : |computeSpeedFromPosition position| ≤ 125
  targetInRange : |(target.toInt : ℚ)| ≤ 125

/-- The error that a tick sees. -/
def Sample.error (sample : Sample) : ℚ :=
  computeSpeedFromPosition sample.position - sample.target.toInt

/-- The regulator when the timer interrupt finds a sample. -/
def Regulator.sampled
    (regulator : Regulator)
    (sample : Sample) : Regulator :=
  { regulator with
    motorPosition := sample.position
    motor := { regulator.motor with speedTarget := sample.target } }

/-- The corrected speed that a tick computes. -/
def Regulator.corrected
    (regulator : Regulator)
    (sample : Sample) : ℚ :=
  (dcmotorPidIterate (computeSpeedFromPosition sample.position)
    sample.target.toInt regulator.pid).1

/-- One tick. -/
def tick
    (regulator : Regulator)
    (sample : Sample) : Option Regulator :=
  pidIsr (regulator.sampled sample)

/-- The ticks that follow `dcmotor_init`. -/
def regulated
    (before : Regulator)
    (samples : List Sample) : Option Regulator := do
  let regulator ← dcmotorInit before
  samples.foldlM tick regulator

theorem regulated_concat
    (before : Regulator)
    (samples : List Sample)
    (sample : Sample) :
    regulated before (samples ++ [sample]) =
      (regulated before samples).bind fun regulator =>
        tick regulator sample := by
  rw [regulated, regulated]
  cases dcmotorInit before with
  | none =>
      rfl
  | some regulator =>
      change
        List.foldlM tick regulator (samples ++ [sample]) =
          (List.foldlM tick regulator samples).bind _
      rw [List.foldlM_append]
      simp only [List.foldlM_cons, List.foldlM_nil, bind_pure]
      rfl

/-! ## Putting a speed out -/

/-- The share of the largest duty cycle that a speed gets. -/
def duty (magnitude : Nat) : Nat :=
  min magnitude 125 * 255 / 125

theorem duty_le (magnitude : Nat) : duty magnitude ≤ 255 := by
  rw [duty]
  omega

/-- A larger speed never gets a smaller duty cycle. -/
theorem duty_mono : Monotone duty := by
  intro smaller larger ordered
  rw [duty, duty]
  exact Nat.div_le_div_right
    (Nat.mul_le_mul_right 255 (min_le_min_right 125 ordered))

/-- The pins encode the sign of a speed and the register its magnitude. -/
structure Loaded (speed : Int) (output : Output) : Prop where
  in1 : output.in1 = decide (0 < speed)
  in2 : output.in2 = decide (speed < 0)
  speedRegister : output.speedRegister.toNat = duty speed.natAbs

theorem truncate_of_nonneg
    {value : ℚ}
    (nonneg : 0 ≤ value) :
    truncate value = ⌊value⌋ :=
  if_pos nonneg

/-- Truncating keeps a number between two integers around zero there. -/
theorem truncate_between
    {value : ℚ}
    (bound : Int)
    (inside : |value| ≤ bound) :
    -bound ≤ truncate value ∧ truncate value ≤ bound := by
  obtain ⟨low, high⟩ := abs_le.mp inside
  have boundNonneg : (0 : ℚ) ≤ bound :=
    (abs_nonneg value).trans inside
  rw [truncate]
  split
  · rename_i nonneg
    have floorNonneg : 0 ≤ ⌊value⌋ := Int.floor_nonneg.mpr nonneg
    have floorLe : ⌊value⌋ ≤ bound := by
      have below := (Int.floor_le value).trans high
      exact_mod_cast below
    have nonnegBound : 0 ≤ bound := by
      exact_mod_cast boundNonneg
    omega
  · rename_i negative
    have opposite : 0 ≤ -value := by
      linarith
    have floorNonneg : 0 ≤ ⌊-value⌋ := Int.floor_nonneg.mpr opposite
    have floorLe : ⌊-value⌋ ≤ bound := by
      have below : ((⌊-value⌋ : Int) : ℚ) ≤ bound :=
        (Int.floor_le (-value)).trans (by linarith)
      exact_mod_cast below
    have nonnegBound : 0 ≤ bound := by
      exact_mod_cast boundNonneg
    omega

/-- A number within sixteen bits is converted to its integer part. -/
theorem rpmOfFloat_inside
    {value : ℚ}
    (inside : |value| ≤ 32767) :
    ∃ speed, rpmOfFloat value = some speed ∧
      speed.toInt = truncate value := by
  have bounds :=
    truncate_between 32767 (by exact_mod_cast inside)
  refine ⟨Int16.ofInt (truncate value), if_pos (by omega), ?_⟩
  exact Int16.toInt_ofInt_of_le (by omega) (by omega)

/-- Only the smallest speed has no absolute value. -/
theorem toInt_absSpeed
    {speed : DcRpm}
    (inside : -32767 ≤ speed.toInt) :
    (absSpeed speed).toInt = speed.toInt.natAbs := by
  have zero : (0 : DcRpm).toInt = 0 :=
    rfl
  rw [absSpeed]
  simp only [gt_iff_lt, Int16.lt_iff_toInt_lt, zero]
  split
  · omega
  · have bound := speed.toInt_lt
    have wrapped : (-speed.toInt).bmod (2 ^ 16) = -speed.toInt :=
      Int.bmod_eq_of_le (by omega) (by omega)
    rw [Int16.toInt_neg, wrapped]
    omega

theorem toInt_boundSpeed (speed : DcRpm) :
    (boundSpeed speed).toInt = min speed.toInt 125 := by
  have largest : dcMotorMaxRpmSpeed.toInt = 125 :=
    rfl
  rw [boundSpeed]
  simp only [Int16.lt_iff_toInt_lt, largest]
  split
  · omega
  · omega

/-- A speed up to the maximum gets its share of the duty cycle. -/
theorem rpm2pwm_inside
    {speed : DcRpm}
    {magnitude : Nat}
    (value : speed.toInt = magnitude)
    (small : magnitude ≤ 125) :
    rpm2pwm speed = some (UInt8.ofNat (duty magnitude)) := by
  have largest : dcMotorMaxRpmSpeed.toInt = 125 :=
    rfl
  have share :
      ((speed.toInt : ℚ) / dcMotorMaxRpmSpeed.toInt * (0xFF : ℚ)) =
        ((magnitude * 255 : Int) : ℚ) / ((125 : Nat) : ℚ) := by
    rw [value, largest]
    push_cast
    ring
  have whole :
      truncate ((speed.toInt : ℚ) / dcMotorMaxRpmSpeed.toInt * 0xFF) =
        (magnitude * 255 / 125 : Nat) := by
    rw [share, truncate_of_nonneg (by positivity),
      Rat.floor_intCast_div_natCast]
    rfl
  have dutyValue : duty magnitude = magnitude * 255 / 125 := by
    rw [duty, min_eq_left small]
  have bound := duty_le magnitude
  simp only [rpm2pwm, dutyCycleOfFloat, whole, dutyValue]
  rw [if_pos (by omega), Int.toNat_natCast]

/-- Any speed but the smallest is put out. -/
theorem dcmotorPhyLoadSpeed_inside
    (speed : DcRpm)
    (inside : -32767 ≤ speed.toInt)
    (output : Output) :
    ∃ loaded,
      dcmotorPhyLoadSpeed speed output = some loaded ∧
        Loaded speed.toInt loaded := by
  have zero : (0 : DcRpm).toInt = 0 :=
    rfl
  have bounded :
      (boundSpeed (absSpeed speed)).toInt =
        (min speed.toInt.natAbs 125 : Nat) := by
    rw [toInt_boundSpeed, toInt_absSpeed inside]
    omega
  have cycle :=
    rpm2pwm_inside bounded (Nat.min_le_right _ _)
  have sameDuty :
      duty (min speed.toInt.natAbs 125) = duty speed.toInt.natAbs := by
    rw [duty, duty, Nat.min_assoc, Nat.min_self]
  have register :
      (UInt8.ofNat (duty (min speed.toInt.natAbs 125))).toNat =
        duty speed.toInt.natAbs := by
    have bound := duty_le speed.toInt.natAbs
    rw [sameDuty, UInt8.toNat_ofNat']
    omega
  rw [dcmotorPhyLoadSpeed, cycle]
  refine ⟨_, rfl, ?_⟩
  simp only [gt_iff_lt, Int16.lt_iff_toInt_lt, zero]
  rcases Int.lt_trichotomy speed.toInt 0 with
    backward | off | forward
  · have notForward : ¬ 0 < speed.toInt := by
      omega
    simp only [notForward, backward, ↓reduceIte]
    exact
      ⟨by simp [moveBackward, notForward],
        by simp [moveBackward, backward], register⟩
  · simp only [off, lt_irrefl, ↓reduceIte]
    exact ⟨by simp [powerOffMotor], by simp [powerOffMotor],
      by rw [← off]; exact register⟩
  · have notBackward : ¬ speed.toInt < 0 := by
      omega
    simp only [forward, ↓reduceIte]
    exact
      ⟨by simp [moveForward, forward],
        by simp [moveForward, notBackward], register⟩

/-! ## The sum of the errors -/

/-- The sum of the errors of all ticks so far. -/
def totalError (samples : List Sample) : ℚ :=
  (samples.map Sample.error).sum

theorem totalError_concat
    (samples : List Sample)
    (sample : Sample) :
    totalError (samples ++ [sample]) =
      totalError samples + sample.error := by
  simp [totalError]

/-- The regulator has its gains, and the integral of the given ticks. -/
structure Accumulated
    (samples : List Sample)
    (regulator : Regulator) : Prop where
  pidInterval : regulator.pid.pidInterval = 100
  kProp : regulator.pid.kProp = 3 / 2
  kInt : regulator.pid.kInt = 37 / 10
  kDer : regulator.pid.kDer = 0
  errInt : regulator.pid.errInt = totalError samples / 10

/-- What a tick weighs: its own error and the sum of all. -/
def weightedError
    (before : List Sample)
    (sample : Sample) : ℚ :=
  150 * sample.error + 37 * totalError (before ++ [sample])

/-- The corrected speed is determined by the errors alone. -/
theorem Accumulated.corrected
    {samples : List Sample}
    {regulator : Regulator}
    (accumulated : Accumulated samples regulator)
    (sample : Sample) :
    regulator.corrected sample = weightedError samples sample / 100 := by
  have interval : ((100 : UInt16).toNat : ℚ) = 100 := by
    rfl
  simp only [Regulator.corrected, dcmotorPidIterate,
    accumulated.pidInterval, accumulated.kProp, accumulated.kInt,
    accumulated.kDer, accumulated.errInt, interval, oneSecondInMillis,
    weightedError, totalError_concat, Sample.error]
  ring

/-- A tick that is well defined adds its error. -/
theorem Accumulated.tick
    {samples : List Sample}
    {regulator next : Regulator}
    (accumulated : Accumulated samples regulator)
    {sample : Sample}
    (ticked : tick regulator sample = some next) :
    Accumulated (samples ++ [sample]) next := by
  have pid :
      next.pid =
        (dcmotorPidIterate (computeSpeedFromPosition sample.position)
          sample.target.toInt regulator.pid).2 := by
    simp only [Slave.tick, pidIsr, Regulator.sampled, Option.bind_eq_bind,
      Option.bind_eq_some_iff, Option.pure_def, Option.some.injEq]
      at ticked
    obtain ⟨_, _, _, _, rfl⟩ := ticked
    rfl
  have interval : ((100 : UInt16).toNat : ℚ) = 100 := by
    rfl
  refine
    ⟨by rw [pid]; exact accumulated.pidInterval,
      by rw [pid]; exact accumulated.kProp,
      by rw [pid]; exact accumulated.kInt,
      by rw [pid]; exact accumulated.kDer, ?_⟩
  simp only [pid, dcmotorPidIterate, accumulated.pidInterval,
    accumulated.errInt, interval, oneSecondInMillis, totalError_concat,
    Sample.error]
  ring

/-- `dcmotor_init` starts with no integral. -/
theorem dcmotorInit_accumulated (before : Regulator) :
    ∃ regulator,
      dcmotorInit before = some regulator ∧
        Accumulated [] regulator := by
  obtain ⟨output, loaded, _⟩ :=
    dcmotorPhyLoadSpeed_inside 0 (by decide) before.output
  refine
    ⟨{ before with
        pid := dcmotorPidInit (3 / 2) (37 / 10) 0 100
        output := output },
      ?_, rfl, rfl, rfl, rfl, ?_⟩
  · rw [dcmotorInit, loaded]
    rfl
  · simp [dcmotorPidInit, totalError]

/-- Whatever state a run reaches, its integral is the sum of the errors. -/
theorem accumulated_of_regulated
    {before regulator : Regulator}
    {samples : List Sample}
    (reached : regulated before samples = some regulator) :
    Accumulated samples regulator := by
  induction samples using List.reverseRecOn generalizing regulator with
  | nil =>
      obtain ⟨started, init, accumulated⟩ :=
        dcmotorInit_accumulated before
      rw [regulated, init] at reached
      cases reached
      exact accumulated
  | append_singleton samples sample inductionHypothesis =>
      rw [regulated_concat, Option.bind_eq_some_iff] at reached
      obtain ⟨middle, earlier, ticked⟩ := reached
      exact (inductionHypothesis earlier).tick ticked

/-- A corrected speed within sixteen bits is put out. -/
theorem tick_inside
    {regulator : Regulator}
    {sample : Sample}
    (inside : |regulator.corrected sample| ≤ 32767) :
    ∃ next,
      tick regulator sample = some next ∧
        Loaded (truncate (regulator.corrected sample)) next.output := by
  obtain ⟨speed, converted, value⟩ := rpmOfFloat_inside inside
  obtain ⟨sampled, sampledConverted, _⟩ :=
    rpmOfFloat_inside
      (show |computeSpeedFromPosition sample.position| ≤ 32767 from
        sample.speedInRange.trans (by norm_num))
  have bounds :=
    truncate_between 32767 (by exact_mod_cast inside)
  obtain ⟨output, loaded, shown⟩ :=
    dcmotorPhyLoadSpeed_inside speed (by omega)
      regulator.output
  have putOut :
      dcmotorPhyLoadSpeedFloat (regulator.corrected sample)
          regulator.output =
        some output := by
    rw [dcmotorPhyLoadSpeedFloat, converted]
    exact loaded
  rw [value] at shown
  have ticked :
      tick regulator sample =
        some
          { motorPosition := 0
            motor :=
              { regulator.motor with
                speedTarget := sample.target
                speedActual := sampled }
            pid :=
              (dcmotorPidIterate
                (computeSpeedFromPosition sample.position)
                sample.target.toInt regulator.pid).2
            output := output } := by
    simp only [tick, pidIsr, Regulator.sampled]
    rw [← Regulator.corrected, putOut, sampledConverted]
    rfl
  exact ⟨_, ticked, shown⟩

/-! ## Well-defined runs -/

/--
A tick after the given ones does what it is meant to: the corrected speed is
within the range that both signs have in sixteen bits, the conversion and the
absolute value are exact, and the pins and the register show the speed.
-/
structure TickExact
    (start : Regulator)
    (before : List Sample)
    (sample : Sample)
    (regulator next : Regulator) : Prop where
  earlier : regulated start before = some regulator
  ticked : regulated start (before ++ [sample]) = some next
  inRange :
    -32767 ≤ regulator.corrected sample ∧
      regulator.corrected sample ≤ 32767
  converted :
    ∃ speed,
      rpmOfFloat (regulator.corrected sample) = some speed ∧
        speed.toInt = truncate (regulator.corrected sample) ∧
        (absSpeed speed).toInt =
          (truncate (regulator.corrected sample)).natAbs
  loaded : Loaded (truncate (regulator.corrected sample)) next.output

/-- The corrected speed is within sixteen bits when the errors are small. -/
theorem Accumulated.abs_le_iff
    {samples : List Sample}
    {regulator : Regulator}
    (accumulated : Accumulated samples regulator)
    (sample : Sample) :
    |regulator.corrected sample| ≤ 32767 ↔
      |weightedError samples sample| ≤ 3276700 := by
  rw [accumulated.corrected, abs_div,
    abs_of_pos (by norm_num : (0 : ℚ) < 100),
    div_le_iff₀ (by norm_num)]
  norm_num

/-- A run whose weighted errors are small is well defined throughout. -/
theorem regulated_of_small
    (start : Regulator)
    {samples : List Sample}
    (small :
      ∀ before sample, before ++ [sample] <+: samples →
        |weightedError before sample| ≤ 3276700) :
    ∃ regulator, regulated start samples = some regulator := by
  induction samples using List.reverseRecOn with
  | nil =>
      obtain ⟨regulator, init, _⟩ := dcmotorInit_accumulated start
      exact ⟨regulator, by rw [regulated, init]; rfl⟩
  | append_singleton samples sample inductionHypothesis =>
      obtain ⟨regulator, earlier⟩ :=
        inductionHypothesis fun before sample reached =>
          small before sample
            (reached.trans (List.prefix_append _ _))
      have last := small samples sample (List.prefix_refl _)
      have inside :=
        ((accumulated_of_regulated earlier).abs_le_iff sample).mpr last
      obtain ⟨next, ticked, _⟩ := tick_inside inside
      exact ⟨next, by rw [regulated_concat, earlier]; exact ticked⟩

/--
A run of ticks after `dcmotor_init` is exact at every tick exactly when, at
every tick, its own error and the sum of all errors so far are small together.
The register then holds a number up to 255 that never decreases with the
magnitude of the speed.
-/
theorem regulation_exact_iff
    (start : Regulator)
    (samples : List Sample) :
    ((∀ before sample, before ++ [sample] <+: samples →
        ∃ regulator next,
          TickExact start before sample regulator next) ↔
      ∀ before sample, before ++ [sample] <+: samples →
        |150 * sample.error + 37 * totalError (before ++ [sample])| ≤
          3276700) ∧
      Monotone duty ∧ ∀ magnitude, duty magnitude ≤ 255 := by
  refine ⟨?_, duty_mono, duty_le⟩
  constructor
  · intro exact before sample reached
    obtain ⟨regulator, next, tickExact⟩ := exact before sample reached
    have accumulated := accumulated_of_regulated tickExact.earlier
    exact (accumulated.abs_le_iff sample).mp (abs_le.mpr tickExact.inRange)
  · intro small before sample reached
    obtain ⟨regulator, earlier⟩ :=
      regulated_of_small start fun first middle inBefore =>
        small first middle
          (inBefore.trans
            ((List.prefix_append before [sample]).trans reached))
    have accumulated := accumulated_of_regulated earlier
    have inside :=
      (accumulated.abs_le_iff sample).mpr (small before sample reached)
    obtain ⟨next, ticked, loaded⟩ := tick_inside inside
    obtain ⟨speed, converted, value⟩ := rpmOfFloat_inside inside
    have bounds :=
      truncate_between 32767 (by exact_mod_cast inside)
    refine
      ⟨regulator, next, earlier, ?_, abs_le.mp inside,
        ⟨speed, converted, value, ?_⟩, loaded⟩
    · rw [regulated_concat, earlier]
      exact ticked
    · rw [toInt_absSpeed (by omega), value]

/-- A motor that does not turn although it is told to turn at full speed. -/
def stalled : Sample where
  position := 0
  target := 125
  speedInRange := by
    simp [computeSpeedFromPosition]
  targetInRange := by
    have full : (125 : DcRpm).toInt = 125 :=
      rfl
    rw [full]
    norm_num

theorem error_stalled : stalled.error = -125 := by
  have full : stalled.target.toInt = 125 :=
    rfl
  rw [Sample.error, full]
  simp [stalled, computeSpeedFromPosition]

/-- The error of a stalled motor grows with the time. -/
theorem weightedError_stalled (count : Nat) :
    weightedError (List.replicate count stalled) stalled =
      -125 * (150 + 37 * (count + 1)) := by
  rw [weightedError, totalError_concat, totalError, List.map_replicate,
    List.sum_replicate, error_stalled, nsmul_eq_mul]
  ring

/-- After 705 ticks, the corrected speed of a stalled motor has run away. -/
theorem stalledRun_not_exact :
    ¬ ∀ before sample,
      before ++ [sample] <+: List.replicate 705 stalled →
        ∃ regulator next,
          TickExact ⟨0, ⟨0, 0, 0⟩, ⟨0, 0, 0, 0, 0, 0⟩, ⟨false, false, 0⟩⟩
            before sample regulator next := by
  intro exact
  have reached :
      List.replicate 704 stalled ++ [stalled] <+:
        List.replicate 705 stalled := by
    rw [← List.replicate_succ']
  obtain ⟨regulator, next, tickExact⟩ :=
    exact (List.replicate 704 stalled) stalled reached
  have accumulated := accumulated_of_regulated tickExact.earlier
  have low := tickExact.inRange.1
  rw [accumulated.corrected, weightedError_stalled] at low
  norm_num at low

end Ammc.Slave
