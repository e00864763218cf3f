import Ammc.EventRuns
import Ammc.Quadrature
import Ammc.SpeedRegulation

namespace Ammc.Slave

open Quadrature EventRuns

/-!
# The encoder of a slave

The shaft of the motor turns a quadrature encoder, whose phases are two pins of
port B.  A change of the first pin requests the encoder interrupt, and the timer
interrupt takes the position that it has counted and begins again from zero.
-/

/-- `ENCODER_A_PIN_MASK` -/
def encoderAPinMask : UInt8 := (1 : UInt8) <<< 0

/-- `ENCODER_B_PIN_MASK` -/
def encoderBPinMask : UInt8 := (1 : UInt8) <<< 1

/-- `dcmotor_phy_read_encoder_phase_a` -/
def dcmotorPhyReadEncoderPhaseA (pinb : UInt8) : UInt8 :=
  if pinb &&& encoderAPinMask ≠ 0 then 1 else 0

/-- `dcmotor_phy_read_encoder_phase_b` -/
def dcmotorPhyReadEncoderPhaseB (pinb : UInt8) : UInt8 :=
  if pinb &&& encoderBPinMask ≠ 0 then 1 else 0

/-- `ISR(DCMOTOR_PHY_ENCODER_ISR)` -/
def encoderIsr
    (pinb : UInt8)
    (motorPosition : Int32) : Int32 :=
  let encA := dcmotorPhyReadEncoderPhaseA pinb
  let encB := dcmotorPhyReadEncoderPhaseB pinb
  if encA ≠ 0 then
    motorPosition + (if encB ≠ 0 then 1 else -1)
  else
    motorPosition

/-- `PINB` with the phases of the encoder; the other pins may be anything. -/
def pinb
    (others : UInt8)
    (angle : Int) : UInt8 :=
  (others &&& 0xFC) |||
    ((if phaseA angle then encoderAPinMask else 0) |||
      (if phaseB angle then encoderBPinMask else 0))

/--
The way of the shaft, the request of the encoder interrupt, `motor_position`, and
the positions that the timer interrupt has taken.
-/
structure EncoderState where
  origin : Int
  turns : List Turn
  requested : Bool
  motorPosition : Int32
  samples : List Int32

namespace EncoderState

/-- Where the shaft is, in quarters of a period. -/
def angle (state : EncoderState) : Int :=
  state.origin + net state.turns

/-- The shaft turns; a change of the first phase requests the interrupt. -/
def turn
    (direction : Turn)
    (state : EncoderState) : EncoderState :=
  { state with
    turns := state.turns ++ [direction]
    requested :=
      state.requested ||
        (phaseA state.angle !=
          phaseA (state.angle + direction.quarters)) }

/-- The encoder interrupt is taken, if it is requested. -/
def serve
    (others : UInt8)
    (state : EncoderState) : EncoderState :=
  if state.requested then
    { state with
      requested := false
      motorPosition :=
        encoderIsr (pinb others state.angle) state.motorPosition }
  else
    state

/-- The timer interrupt takes the position. -/
def sample (state : EncoderState) : EncoderState :=
  { state with
    motorPosition := 0
    samples := state.samples ++ [state.motorPosition] }

end EncoderState

/-- A quarter of a period, or one of the two interrupts. -/
inductive EncoderEvent where
  | turn (direction : Turn)
  | serve (others : UInt8)
  | sample
  deriving Repr, DecidableEq

namespace EncoderState

def step (state : EncoderState) : EncoderEvent → EncoderState
  | .turn direction => state.turn direction
  | .serve others => state.serve others
  | .sample => state.sample

/-- The slave begins to count, with the shaft anywhere. -/
def start (origin : Int) : EncoderState where
  origin := origin
  turns := []
  requested := false
  motorPosition := 0
  samples := []

/-- The shaft turns on before the interrupt of the last change is taken. -/
def Late (state : EncoderState) : EncoderEvent → Prop
  | .turn _ => state.requested = true
  | _ => False

/-- What the interrupt that is requested will count. -/
def owed (state : EncoderState) : Int32 :=
  if state.requested && phaseA state.angle then
    if phaseB state.angle then 1 else -1
  else
    0

/-- The sum of the positions that were taken. -/
def total : List Int32 → Int32
  | [] => 0
  | position :: later => position + total later

theorem total_concat
    (positions : List Int32)
    (position : Int32) :
    total (positions ++ [position]) = total positions + position := by
  induction positions with
  | nil =>
      exact (Int32.add_zero position).trans (Int32.zero_add position).symm
  | cons first later inductionHypothesis =>
      rw [List.cons_append, total, inductionHypothesis, total,
        Int32.add_assoc]

/-! ## The interrupt -/

theorem phases_read :
    ∀ (others : Fin 256) (a b : Bool),
      ((UInt8.ofNat others.val &&& 0xFC) |||
            ((if a then encoderAPinMask else 0) |||
              (if b then encoderBPinMask else 0))) &&& encoderAPinMask =
          (if a then 1 else 0) ∧
        ((UInt8.ofNat others.val &&& 0xFC) |||
            ((if a then encoderAPinMask else 0) |||
              (if b then encoderBPinMask else 0))) &&& encoderBPinMask =
          (if b then 2 else 0) := by
  decide +kernel

/-- The pins show the phases, whatever the others are. -/
theorem readPhases
    (others : UInt8)
    (angle : Int) :
    (dcmotorPhyReadEncoderPhaseA (pinb others angle) ≠ 0 ↔
        phaseA angle = true) ∧
      (dcmotorPhyReadEncoderPhaseB (pinb others angle) ≠ 0 ↔
        phaseB angle = true) := by
  obtain ⟨a, b⟩ :=
    phases_read ⟨others.toNat, others.toNat_lt⟩ (phaseA angle)
      (phaseB angle)
  simp only [UInt8.ofNat_toNat] at a b
  rw [dcmotorPhyReadEncoderPhaseA, dcmotorPhyReadEncoderPhaseB, pinb, a,
    b]
  constructor
  · cases phaseA angle with
    | false => simp
    | true => simp
  · cases phaseB angle with
    | false => simp
    | true => simp

/-- The interrupt counts up or down, or nothing. -/
theorem encoderIsr_pinb
    (others : UInt8)
    (angle : Int)
    (position : Int32) :
    encoderIsr (pinb others angle) position =
      position +
        (if phaseA angle then if phaseB angle then 1 else -1 else 0) := by
  obtain ⟨a, b⟩ := readPhases others angle
  rw [encoderIsr]
  simp only [a, b]
  cases phaseA angle with
  | false => exact (Int32.add_zero position).symm
  | true => rfl

/-- The interrupt counts the direction in which the first phase has risen. -/
theorem owed_signal
    (angle : Int)
    (direction : Turn) :
    (if (phaseA angle != phaseA (angle + direction.quarters)) &&
          phaseA (angle + direction.quarters) then
        if phaseB (angle + direction.quarters) then (1 : Int32) else -1
      else
        0) =
      Int32.ofInt (signal angle direction) := by
  rw [signal]
  rcases before : phaseA angle with _ | _
  · rcases after : phaseA (angle + direction.quarters) with _ | _
    · rfl
    · rw [phaseA_eq_false] at before
      rw [phaseA_eq_true] at after
      cases direction with
      | forward =>
          have high : phaseB (angle + Turn.forward.quarters) = true := by
            rw [phaseB_eq_true]
            simp only [Turn.quarters] at after ⊢
            omega
          rw [high]
          rfl
      | backward =>
          have low : ¬ phaseB (angle + Turn.backward.quarters) = true := by
            rw [phaseB_eq_true]
            simp only [Turn.quarters] at after ⊢
            omega
          simp [low]
          rfl
  · rcases phaseA (angle + direction.quarters) with _ | _
    · rfl
    · rfl

theorem angle_turn
    (state : EncoderState)
    (direction : Turn) :
    (state.turn direction).angle = state.angle + direction.quarters := by
  rw [EncoderState.angle, EncoderState.turn, net_concat,
    EncoderState.angle, Int.add_assoc]

theorem serve_requested
    {state : EncoderState}
    (requested : state.requested = true)
    (others : UInt8) :
    state.serve others =
      { state with
        requested := false
        motorPosition :=
          state.motorPosition +
            (if phaseA state.angle then
              if phaseB state.angle then 1 else -1
            else
              0) } := by
  rw [EncoderState.serve, if_pos requested, encoderIsr_pinb]

/-! ## Runs without late interrupts -/

/-- What was taken, what is there and what is owed are the signals of the way. -/
def Counted (state : EncoderState) : Prop :=
  total state.samples + state.motorPosition + state.owed =
    Int32.ofInt (signals state.origin state.turns)

theorem Counted.turn
    {state : EncoderState}
    (counted : state.Counted)
    (prompt : ¬ state.requested = true)
    (direction : Turn) :
    (state.turn direction).Counted := by
  rw [Bool.not_eq_true] at prompt
  have nothing : state.owed = 0 := by
    rw [owed, prompt]
    rfl
  have moved := state.angle_turn direction
  have new :
      (state.turn direction).owed =
        Int32.ofInt (signal state.angle direction) := by
    rw [owed, moved, ← owed_signal, EncoderState.turn, prompt,
      Bool.false_or]
  rw [Counted, nothing, Int32.add_zero] at counted
  rw [Counted, new]
  change
    total state.samples + state.motorPosition + _ =
      Int32.ofInt (signals state.origin (state.turns ++ [direction]))
  rw [counted, signals_concat, Int32.ofInt_add]
  rfl

theorem Counted.serve
    {state : EncoderState}
    (counted : state.Counted)
    (others : UInt8) :
    (state.serve others).Counted := by
  by_cases requested : state.requested = true
  · rw [Counted, owed, requested, Bool.true_and] at counted
    rw [Counted, serve_requested requested, ← counted]
    change
      total state.samples + (state.motorPosition + _) + 0 = _
    rw [Int32.add_zero, Int32.add_assoc]
  · rw [EncoderState.serve, if_neg requested]
    exact counted

theorem Counted.sample
    {state : EncoderState}
    (counted : state.Counted) :
    state.sample.Counted := by
  rw [Counted] at counted
  change
    total (state.samples ++ [state.motorPosition]) + 0 + state.owed =
      Int32.ofInt (signals state.origin state.turns)
  rw [total_concat, Int32.add_zero]
  exact counted

theorem Counted.step
    {state : EncoderState}
    {event : EncoderEvent}
    (counted : state.Counted)
    (prompt : ¬ state.Late event) :
    (state.step event).Counted := by
  cases event with
  | turn direction => exact counted.turn prompt direction
  | serve others => exact counted.serve others
  | sample => exact counted.sample

/--
The positions add up to the signals of the way, which follow the shaft up to less
than a period and half a period more or less for every time it turns round.
-/
structure Tracks (state : EncoderState) : Prop where
  counted : state.Counted
  near :
    |4 * signals state.origin state.turns - net state.turns -
        2 * drift state.origin state.turns| ≤ 3
  drifted :
    |drift state.origin state.turns| ≤ reversals state.turns

/--
As long as the interrupt of every change is taken before the shaft turns on, no
signal is lost between the samples, and nothing but reversals makes the position
drift.
-/
theorem tracks_of_prompt
    (origin : Int)
    {events : List EncoderEvent}
    (prompt : Never step Late (start origin) events) :
    Always step Tracks (start origin) events := by
  have kept :
      ∀ state event, Counted state → ¬ Late state event →
        Counted (state.step event) :=
    fun _ _ counted onTime => counted.step onTime
  have counted : (start origin).Counted :=
    rfl
  exact
    (prompt.keeps kept counted).imp fun state counted =>
      ⟨counted, abs_signals_drift_le _ _, abs_drift_le _ _⟩

/-- A period forward, and some of it back. -/
theorem backAndForth_tracks :
    Always step Tracks (start 0)
      [.turn .forward, .turn .forward, .serve 0xFF, .sample,
        .turn .forward, .turn .backward, .turn .backward, .serve 0] :=
  tracks_of_prompt 0
    ⟨Bool.false_ne_true, Bool.false_ne_true, id, id, Bool.false_ne_true,
      Bool.false_ne_true, Bool.false_ne_true, id, trivial⟩

/-! ## The speed that is stored -/

/-- The shaft goes over an edge of the first phase and back. -/
def swing : List EncoderEvent :=
  [.turn .forward, .serve 0, .turn .backward, .serve 0]

/-- An edge of the first phase whose interrupt is taken at once. -/
theorem edge_served
    {state : EncoderState}
    (served : state.requested = false)
    {direction : Turn}
    (edge :
      (phaseA state.angle !=
        phaseA (state.angle + direction.quarters)) = true)
    (others : UInt8) :
    ((state.turn direction).serve others).requested = false ∧
      ((state.turn direction).serve others).angle =
        state.angle + direction.quarters ∧
      ((state.turn direction).serve others).motorPosition =
        state.motorPosition +
          (if phaseA (state.angle + direction.quarters) then
            if phaseB (state.angle + direction.quarters) then 1 else -1
          else
            0) := by
  have requested : (state.turn direction).requested = true := by
    change (state.requested || _) = true
    rw [served, Bool.false_or]
    exact edge
  rw [serve_requested requested, angle_turn]
  exact ⟨rfl, angle_turn state direction, rfl⟩

theorem swing_counts
    {state : EncoderState}
    (lies : state.angle = 1)
    (served : state.requested = false) :
    Never step Late state swing ∧
      (swing.foldl step state).angle = 1 ∧
      (swing.foldl step state).requested = false ∧
      (swing.foldl step state).motorPosition =
        state.motorPosition + 1 := by
  have rises :
      (phaseA state.angle != phaseA (state.angle + Turn.forward.quarters)) =
        true := by
    rw [lies]
    rfl
  obtain ⟨quiet, there, counted⟩ := edge_served served rises 0
  rw [lies] at there counted
  have falls :
      (phaseA ((state.turn .forward).serve 0).angle !=
          phaseA
            (((state.turn .forward).serve 0).angle +
              Turn.backward.quarters)) =
        true := by
    rw [there]
    rfl
  obtain ⟨still, back, same⟩ := edge_served quiet falls 0
  rw [there] at back same
  refine ⟨⟨?_, id, ?_, id, trivial⟩, back, still, ?_⟩
  · exact Bool.eq_false_iff.mp served
  · exact Bool.eq_false_iff.mp quiet
  · refine same.trans ?_
    rw [counted]
    exact Int32.add_zero _

/-- So many swings. -/
def swings : Nat → List EncoderEvent
  | 0 => []
  | count + 1 => swings count ++ swing

/-- What is known after so many swings. -/
structure Swung
    (count : Nat)
    (state : EncoderState) : Prop where
  angle : state.angle = 1
  requested : state.requested = false
  motorPosition : state.motorPosition = Int32.ofInt count

/--
A shaft that swings over an edge of the first phase and never leaves two
neighbouring quarters makes the position grow by one with every swing, although
every interrupt is in time.
-/
theorem swings_count (count : Nat) :
    Never step Late (start 1) (swings count) ∧
      Swung count ((swings count).foldl step (start 1)) := by
  induction count with
  | zero => exact ⟨trivial, rfl, rfl, rfl⟩
  | succ count inductionHypothesis =>
      obtain ⟨prompt, swung⟩ := inductionHypothesis
      obtain ⟨onTime, back, still, counted⟩ :=
        swing_counts swung.angle swung.requested
      rw [swings, List.foldl_append]
      refine ⟨never_append.mpr ⟨prompt, onTime⟩, back, still, ?_⟩
      rw [counted, swung.motorPosition, Nat.cast_succ, Int32.ofInt_add]
      rfl

end EncoderState

end Ammc.Slave
