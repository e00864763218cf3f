import Mathlib.Logic.Function.Iterate
import Mathlib.Logic.Relation
import Ammc.MasterSerial

namespace Ammc.Master

open ByteMemory

/-!
# The transmitter of the master

`serial_tx` copies a buffer and sends its first byte; the interrupt that follows
every transmitted byte sends the next one, or gives the transmitter free.  The
function is cut at each of its statements, so that an interrupt can occur between
any two of them.
-/

/--
The static variables of the transmitter and the interrupt enable flag `TXCIE0`,
with every byte that was written to `UDR0` and the number of those whose
transmission was completed by an interrupt.
-/
structure Transmitter where
  buffer : Memory
  toTransmit : UInt8
  transmitted : UInt8
  ongoing : UInt8
  txcie : Bool
  written : List UInt8
  completed : Nat

namespace Transmitter

/-- `UDR0` is written. -/
def send
    (byte : UInt8)
    (transmitter : Transmitter) : Transmitter :=
  { transmitter with written := transmitter.written ++ [byte] }

/-- `serial_tx_reset` -/
def reset (transmitter : Transmitter) : Transmitter :=
  { transmitter with
    txcie := false
    toTransmit := 0
    transmitted := 0
    ongoing := 0 }

/-- `ISR(USART0_TX_vect)` -/
def isr (transmitter : Transmitter) : Transmitter :=
  let counted :=
    { transmitter with transmitted := transmitter.transmitted + 1 }
  if counted.transmitted < counted.toTransmit then
    counted.send (counted.buffer counted.transmitted.toNat)
  else
    counted.reset

/-- The index that the interrupt handler reads `tx_buffer` at. -/
def fetched (transmitter : Transmitter) : Option Nat :=
  if transmitter.transmitted + 1 < transmitter.toTransmit then
    some (transmitter.transmitted + 1).toNat
  else
    none

/-- A byte has been transmitted, and the interrupt is taken. -/
def interrupt (transmitter : Transmitter) : Transmitter :=
  { transmitter with completed := transmitter.completed + 1 }.isr

/-- There is one interrupt for every byte, as long as it is enabled. -/
def Interruptible (transmitter : Transmitter) : Prop :=
  transmitter.txcie = true ∧
    transmitter.completed < transmitter.written.length

instance (transmitter : Transmitter) :
    Decidable transmitter.Interruptible :=
  inferInstanceAs (Decidable (_ ∧ _))

end Transmitter

/-- The statement of `serial_tx` that comes next. -/
inductive TxPlace where
  | outside
  | waiting (buf : Memory) (size : UInt8)
  | claim (buf : Memory) (size : UInt8)
  | count (buf : Memory) (size : UInt8)
  | restart (buf : Memory) (size : UInt8)
  | copy (buf : Memory) (size : UInt8) (i : Nat)
  | enable (buf : Memory) (size : UInt8)
  | first (buf : Memory) (size : UInt8)

/--
The program and its transmitter, with the arguments of all calls so far and what
they returned.
-/
structure TxSystem where
  transmitter : Transmitter
  place : TxPlace
  calls : List (Option Memory × UInt8)
  returned : List UInt8

namespace TxSystem

/-- `serial_tx` is called; it begins with the test of its parameters. -/
def call
    (buf : Option Memory)
    (size : UInt8)
    (system : TxSystem) : TxSystem :=
  let called := { system with calls := system.calls ++ [(buf, size)] }
  match buf with
  | none => { called with returned := called.returned ++ [1] }
  | some buf =>
      if size = 0 ∨ size.toNat > txBufferSize then
        { called with returned := called.returned ++ [1] }
      else
        { called with place := .waiting buf size }

/-- The next statement of `serial_tx` is executed. -/
def statement (system : TxSystem) : TxSystem :=
  let transmitter := system.transmitter
  match system.place with
  | .outside => system
  | .waiting buf size =>
      if transmitter.ongoing ≠ 0 then
        system
      else
        { system with place := .claim buf size }
  | .claim buf size =>
      { system with
        transmitter := { transmitter with ongoing := 1 }
        place := .count buf size }
  | .count buf size =>
      { system with
        transmitter := { transmitter with toTransmit := size }
        place := .restart buf size }
  | .restart buf size =>
      { system with
        transmitter := { transmitter with transmitted := 0 }
        place := .copy buf size 0 }
  | .copy buf size i =>
      if i < size.toNat then
        { system with
          transmitter :=
            { transmitter with
              buffer := transmitter.buffer.store i [buf i] }
          place := .copy buf size (i + 1) }
      else
        { system with place := .enable buf size }
  | .enable buf size =>
      { system with
        transmitter := { transmitter with txcie := true }
        place := .first buf size }
  | .first _ _ =>
      { system with
        transmitter := transmitter.send (transmitter.buffer 0)
        place := .outside
        returned := system.returned ++ [0] }

/-- The interrupt is taken, wherever the program is. -/
def interrupt (system : TxSystem) : TxSystem :=
  { system with transmitter := system.transmitter.interrupt }

/-- Before the first call; the static variables are zero. -/
def start : TxSystem where
  transmitter :=
    { buffer := fun _ => 0
      toTransmit := 0
      transmitted := 0
      ongoing := 0
      txcie := false
      written := []
      completed := 0 }
  place := .outside
  calls := []
  returned := []

/-- Any calls, with the interrupts wherever they may occur. -/
inductive Reachable : TxSystem → Prop where
  | start : Reachable start
  | call
      {system : TxSystem}
      (reached : Reachable system)
      (outside : system.place = .outside)
      (buf : Option Memory)
      (size : UInt8) :
      Reachable (system.call buf size)
  | statement
      {system : TxSystem}
      (reached : Reachable system) :
      Reachable system.statement
  | interrupt
      {system : TxSystem}
      (reached : Reachable system)
      (interruptible : system.transmitter.Interruptible) :
      Reachable system.interrupt

end TxSystem

/-- The bytes that a call is to send; a refused call sends none. -/
def acceptedBytes : Option Memory × UInt8 → List UInt8
  | (none, _) => []
  | (some buf, size) =>
      if size = 0 ∨ size.toNat > txBufferSize then
        []
      else
        buf.bytes 0 size.toNat

/-- The buffers of all accepted calls, one after the other. -/
def TxSystem.accepted (system : TxSystem) : List UInt8 :=
  system.calls.flatMap acceptedBytes

/-! ## The invariant -/

/-- The transmitter is free: all bytes that it has taken are transmitted. -/
structure Transmitter.Free
    (transmitter : Transmitter)
    (taken : List UInt8) : Prop where
  ongoing : transmitter.ongoing = 0
  disabled : transmitter.txcie = false
  written : transmitter.written = taken
  completed : transmitter.completed = taken.length

/--
The transmitter is sending: a byte is under way, and the buffer holds the ones
behind it.
-/
structure Transmitter.Sending
    (transmitter : Transmitter)
    (taken : List UInt8) : Prop where
  ongoing : transmitter.ongoing = 1
  enabled : transmitter.txcie = true
  fits : transmitter.toTransmit.toNat ≤ txBufferSize
  inside : transmitter.transmitted.toNat < transmitter.toTransmit.toNat
  underway : transmitter.completed + 1 = transmitter.written.length
  behind :
    transmitter.written ++
        transmitter.buffer.bytes (transmitter.transmitted.toNat + 1)
          (transmitter.toTransmit.toNat -
            (transmitter.transmitted.toNat + 1)) =
      taken

/-- The transmitter belongs to a call that has not sent anything yet. -/
structure Transmitter.Claimed
    (transmitter : Transmitter)
    (taken data : List UInt8) : Prop where
  ongoing : transmitter.ongoing = 1
  completed : transmitter.completed = transmitter.written.length
  ahead : transmitter.written ++ data = taken

namespace Transmitter

variable {transmitter : Transmitter}
variable {taken : List UInt8}

/-- A byte was completed: the next one is sent, or the transmitter is free. -/
theorem Sending.interrupt
    (sending : transmitter.Sending taken) :
    transmitter.interrupt.Sending taken ∨
      transmitter.interrupt.Free taken := by
  have inside := sending.inside
  have bound := transmitter.toTransmit.toNat_lt
  have one : (1 : UInt8).toNat = 1 :=
    rfl
  have next :
      (transmitter.transmitted + 1).toNat =
        transmitter.transmitted.toNat + 1 := by
    rw [UInt8.toNat_add, one]
    omega
  have behind := sending.behind
  rw [Transmitter.interrupt, isr]
  simp only [UInt8.lt_iff_toNat_lt, next]
  split
  · rename_i more
    left
    refine
      ⟨sending.ongoing, sending.enabled, sending.fits, ?_, ?_, ?_⟩
    · change (transmitter.transmitted + 1).toNat < _
      rw [next]
      exact more
    · change _ = (transmitter.written ++ [_]).length
      rw [List.length_append, List.length_singleton, ← sending.underway]
      rfl
    · obtain ⟨rest, left⟩ :
          ∃ rest,
            transmitter.toTransmit.toNat -
              (transmitter.transmitted.toNat + 1) = rest + 1 :=
        ⟨transmitter.toTransmit.toNat -
            (transmitter.transmitted.toNat + 1) - 1, by omega⟩
      have later :
          transmitter.toTransmit.toNat -
              (transmitter.transmitted.toNat + 1 + 1) =
            rest := by
        omega
      rw [left, Memory.bytes_succ] at behind
      change
        (transmitter.written ++ [_]) ++
          transmitter.buffer.bytes
            ((transmitter.transmitted + 1).toNat + 1)
            (transmitter.toTransmit.toNat -
              ((transmitter.transmitted + 1).toNat + 1)) = _
      rw [next, later, List.append_assoc, List.singleton_append]
      exact behind
  · rename_i last
    right
    have nothing :
        transmitter.toTransmit.toNat -
            (transmitter.transmitted.toNat + 1) =
          0 := by
      omega
    rw [nothing, Memory.bytes_zero, List.append_nil] at behind
    refine ⟨rfl, rfl, behind, ?_⟩
    rw [← behind]
    exact sending.underway

/-- An interrupt sends one byte more, or it gives the transmitter free. -/
theorem interrupt_written
    (transmitter : Transmitter) :
    (∃ byte,
        transmitter.interrupt.written = transmitter.written ++ [byte]) ∨
      (transmitter.interrupt.written = transmitter.written ∧
        transmitter.interrupt.ongoing = 0) := by
  rw [Transmitter.interrupt, isr]
  simp only
  split
  · exact Or.inl ⟨_, rfl⟩
  · exact Or.inr ⟨rfl, rfl⟩

/-- A free transmitter is not interrupted. -/
theorem Free.not_interruptible
    (free : transmitter.Free taken) :
    ¬ transmitter.Interruptible := by
  rintro ⟨enabled, _⟩
  rw [free.disabled] at enabled
  cases enabled

/-- One that is sending can be. -/
theorem Sending.interruptible
    (sending : transmitter.Sending taken) :
    transmitter.Interruptible := by
  refine ⟨sending.enabled, ?_⟩
  rw [← sending.underway]
  exact Nat.lt_succ_self _

/-- A call that has not sent anything yet is not disturbed. -/
theorem Claimed.not_interruptible
    {data : List UInt8}
    (claimed : transmitter.Claimed taken data) :
    ¬ transmitter.Interruptible := by
  rintro ⟨_, earlier⟩
  rw [claimed.completed] at earlier
  exact absurd earlier (Nat.lt_irrefl _)

end Transmitter

/-- The sizes that `serial_tx` accepts. -/
def AcceptedSize (size : UInt8) : Prop :=
  size ≠ 0 ∧ size.toNat ≤ txBufferSize

/-- What holds at each statement, when the transmitter has taken some bytes. -/
inductive Stage (taken : List UInt8) : TxPlace → Transmitter → Prop where
  | outside
      {transmitter : Transmitter}
      (either : transmitter.Free taken ∨ transmitter.Sending taken) :
      Stage taken .outside transmitter
  | waiting
      {transmitter : Transmitter}
      {buf : Memory}
      {size : UInt8}
      (accepted : AcceptedSize size)
      (either : transmitter.Free taken ∨ transmitter.Sending taken) :
      Stage taken (.waiting buf size) transmitter
  | claim
      {transmitter : Transmitter}
      {buf : Memory}
      {size : UInt8}
      (accepted : AcceptedSize size)
      (free : transmitter.Free taken) :
      Stage taken (.claim buf size) transmitter
  | count
      {transmitter : Transmitter}
      {buf : Memory}
      {size : UInt8}
      (accepted : AcceptedSize size)
      (claimed : transmitter.Claimed taken (buf.bytes 0 size.toNat)) :
      Stage taken (.count buf size) transmitter
  | restart
      {transmitter : Transmitter}
      {buf : Memory}
      {size : UInt8}
      (accepted : AcceptedSize size)
      (claimed : transmitter.Claimed taken (buf.bytes 0 size.toNat))
      (toTransmit : transmitter.toTransmit = size) :
      Stage taken (.restart buf size) transmitter
  | copy
      {transmitter : Transmitter}
      {buf : Memory}
      {size : UInt8}
      {i : Nat}
      (accepted : AcceptedSize size)
      (claimed : transmitter.Claimed taken (buf.bytes 0 size.toNat))
      (toTransmit : transmitter.toTransmit = size)
      (transmitted : transmitter.transmitted = 0)
      (within : i ≤ size.toNat)
      (copied : transmitter.buffer.bytes 0 i = buf.bytes 0 i) :
      Stage taken (.copy buf size i) transmitter
  | enable
      {transmitter : Transmitter}
      {buf : Memory}
      {size : UInt8}
      (accepted : AcceptedSize size)
      (claimed :
        transmitter.Claimed taken (transmitter.buffer.bytes 0 size.toNat))
      (toTransmit : transmitter.toTransmit = size)
      (transmitted : transmitter.transmitted = 0) :
      Stage taken (.enable buf size) transmitter
  | first
      {transmitter : Transmitter}
      {buf : Memory}
      {size : UInt8}
      (accepted : AcceptedSize size)
      (claimed :
        transmitter.Claimed taken (transmitter.buffer.bytes 0 size.toNat))
      (toTransmit : transmitter.toTransmit = size)
      (transmitted : transmitter.transmitted = 0)
      (enabled : transmitter.txcie = true) :
      Stage taken (.first buf size) transmitter

/-- The bytes of a call that has not taken the transmitter yet. -/
def TxPlace.blocked : TxPlace → List UInt8
  | .waiting buf size | .claim buf size => buf.bytes 0 size.toNat
  | _ => []

/-- The invariant: what was accepted was taken, or belongs to a blocked call. -/
def TxSystem.Sound (system : TxSystem) : Prop :=
  ∃ taken,
    system.accepted = taken ++ system.place.blocked ∧
      Stage taken system.place system.transmitter

namespace TxSystem

/-- One more call. -/
theorem accepted_concat
    (calls : List (Option Memory × UInt8))
    (call : Option Memory × UInt8) :
    (calls ++ [call]).flatMap acceptedBytes =
      calls.flatMap acceptedBytes ++ acceptedBytes call := by
  rw [List.flatMap_append, List.flatMap_singleton]

/-- The parameters of a call are refused. -/
def Refused (buf : Option Memory) (size : UInt8) : Prop :=
  buf = none ∨ size = 0 ∨ size.toNat > txBufferSize

/-- A refused call returns 1 and does nothing else. -/
theorem call_of_refused
    {buf : Option Memory}
    {size : UInt8}
    (refused : Refused buf size)
    (system : TxSystem) :
    system.call buf size =
      { system with
        calls := system.calls ++ [(buf, size)]
        returned := system.returned ++ [1] } := by
  cases buf with
  | none => rfl
  | some buf =>
      have outOfRange : size = 0 ∨ size.toNat > txBufferSize := by
        rcases refused with missing | outOfRange
        · cases missing
        · exact outOfRange
      rw [call]
      simp only [if_pos outOfRange]

theorem acceptedBytes_of_refused
    {buf : Option Memory}
    {size : UInt8}
    (refused : Refused buf size) :
    acceptedBytes (buf, size) = [] := by
  cases buf with
  | none => rfl
  | some buf =>
      rcases refused with missing | outOfRange
      · cases missing
      · exact if_pos outOfRange

/-- A call keeps the invariant. -/
theorem Sound.call
    {system : TxSystem}
    (sound : system.Sound)
    (outside : system.place = .outside)
    (buf : Option Memory)
    (size : UInt8) :
    (system.call buf size).Sound := by
  obtain ⟨taken, accepted, stage⟩ := sound
  by_cases refused : Refused buf size
  · refine ⟨taken, ?_, ?_⟩
    · rw [call_of_refused refused, TxSystem.accepted, accepted_concat,
        acceptedBytes_of_refused refused, List.append_nil]
      exact accepted
    · rw [call_of_refused refused]
      exact stage
  · rw [Refused, not_or, not_or] at refused
    obtain ⟨present, nonempty, notLong⟩ := refused
    cases buf with
    | none => exact absurd rfl present
    | some buf =>
        have inRange : ¬ (size = 0 ∨ size.toNat > txBufferSize) :=
          not_or.mpr ⟨nonempty, notLong⟩
        have called :
            system.call (some buf) size =
              { system with
                calls := system.calls ++ [(some buf, size)]
                place := .waiting buf size } := by
          rw [TxSystem.call]
          simp only [if_neg inRange]
        have bytes :
            acceptedBytes (some buf, size) = buf.bytes 0 size.toNat :=
          if_neg inRange
        rw [outside] at accepted stage
        refine ⟨taken, ?_, ?_⟩
        · rw [called, TxSystem.accepted, accepted_concat, bytes]
          change system.accepted ++ _ = _
          rw [accepted, List.append_assoc]
          rfl
        · rw [called]
          cases stage with
          | outside either =>
              exact
                .waiting ⟨nonempty, Nat.not_lt.mp notLong⟩ either

/-- An interrupt keeps the invariant. -/
theorem Sound.interrupt
    {system : TxSystem}
    (sound : system.Sound)
    (interruptible : system.transmitter.Interruptible) :
    system.interrupt.Sound := by
  obtain ⟨taken, accepted, stage⟩ := sound
  obtain ⟨transmitter, place, calls, returned⟩ := system
  refine ⟨taken, accepted, ?_⟩
  have either :
      transmitter.Free taken ∨ transmitter.Sending taken →
        transmitter.interrupt.Free taken ∨
          transmitter.interrupt.Sending taken := by
    rintro (free | sending)
    · exact absurd interruptible free.not_interruptible
    · exact sending.interrupt.symm
  cases stage with
  | outside before => exact .outside (either before)
  | waiting fits before => exact .waiting fits (either before)
  | claim _ free => exact absurd interruptible free.not_interruptible
  | count _ claimed =>
      exact absurd interruptible claimed.not_interruptible
  | restart _ claimed =>
      exact absurd interruptible claimed.not_interruptible
  | copy _ claimed =>
      exact absurd interruptible claimed.not_interruptible
  | enable _ claimed =>
      exact absurd interruptible claimed.not_interruptible
  | first _ claimed =>
      exact absurd interruptible claimed.not_interruptible

/-- The loop of `serial_tx` copies one byte more. -/
theorem bytes_copied
    {buffer buf : Memory}
    {i : Nat}
    (copied : buffer.bytes 0 i = buf.bytes 0 i) :
    (buffer.store i [buf i]).bytes 0 (i + 1) = buf.bytes 0 (i + 1) := by
  have front :
      (buffer.store i [buf i]).bytes 0 i = buf.bytes 0 i := by
    rw [Memory.bytes_store_before _ _ (Nat.le_of_eq (Nat.zero_add i)),
      copied]
  have here : (buffer.store i [buf i]).bytes i 1 = [buf i] :=
    buffer.bytes_store_self i [buf i]
  rw [Memory.bytes_add, front, Nat.zero_add, here, Memory.bytes_add,
    Nat.zero_add]
  rfl

/-- The first byte is sent, and the interrupts send the others. -/
theorem sending_of_first
    {transmitter : Transmitter}
    {taken : List UInt8}
    {size : UInt8}
    (accepted : AcceptedSize size)
    (claimed :
      transmitter.Claimed taken (transmitter.buffer.bytes 0 size.toNat))
    (toTransmit : transmitter.toTransmit = size)
    (transmitted : transmitter.transmitted = 0)
    (enabled : transmitter.txcie = true) :
    (transmitter.send (transmitter.buffer 0)).Sending taken := by
  have positive : 0 < size.toNat :=
    Nat.pos_of_ne_zero fun zero => accepted.1 (UInt8.toNat_inj.mp zero)
  have zero : (0 : UInt8).toNat = 0 :=
    rfl
  obtain ⟨rest, length⟩ : ∃ rest, size.toNat = rest + 1 :=
    ⟨size.toNat - 1, by omega⟩
  have ahead := claimed.ahead
  rw [length, Memory.bytes_succ] at ahead
  refine ⟨claimed.ongoing, enabled, ?_, ?_, ?_, ?_⟩
  · change transmitter.toTransmit.toNat ≤ _
    rw [toTransmit]
    exact accepted.2
  · change transmitter.transmitted.toNat < transmitter.toTransmit.toNat
    rw [toTransmit, transmitted]
    exact positive
  · change transmitter.completed + 1 = (transmitter.written ++ [_]).length
    rw [List.length_append, List.length_singleton, claimed.completed]
  · change
      (transmitter.written ++ [_]) ++
        transmitter.buffer.bytes (transmitter.transmitted.toNat + 1)
          (transmitter.toTransmit.toNat -
            (transmitter.transmitted.toNat + 1)) = _
    rw [toTransmit, transmitted, zero, length, Nat.zero_add,
      Nat.add_sub_cancel, List.append_assoc, List.singleton_append]
    exact ahead

/-- A statement keeps the invariant. -/
theorem Sound.statement
    {system : TxSystem}
    (sound : system.Sound) :
    system.statement.Sound := by
  obtain ⟨taken, accepted, stage⟩ := sound
  obtain ⟨transmitter, place, calls, returned⟩ := system
  cases stage with
  | outside either => exact ⟨taken, accepted, .outside either⟩
  | waiting fits either =>
      rw [TxSystem.statement]
      simp only
      split
      · exact ⟨taken, accepted, .waiting fits either⟩
      · rename_i notOngoing
        have idle : transmitter.ongoing = 0 :=
          not_not.mp notOngoing
        rcases either with free | sending
        · exact ⟨taken, accepted, .claim fits free⟩
        · have busy := sending.ongoing
          rw [idle] at busy
          cases busy
  | @claim _ buf size fits free =>
      refine ⟨taken ++ buf.bytes 0 size.toNat, ?_, .count fits ?_⟩
      · exact accepted.trans (List.append_nil _).symm
      · refine ⟨rfl, ?_, ?_⟩
        · change transmitter.completed = transmitter.written.length
          rw [free.completed, free.written]
        · change transmitter.written ++ _ = _
          rw [free.written]
  | count fits claimed =>
      exact
        ⟨taken, accepted,
          .restart fits
            ⟨claimed.ongoing, claimed.completed, claimed.ahead⟩ rfl⟩
  | restart fits claimed toTransmit =>
      exact
        ⟨taken, accepted,
          .copy fits ⟨claimed.ongoing, claimed.completed, claimed.ahead⟩
            toTransmit rfl (Nat.zero_le _) rfl⟩
  | copy fits claimed toTransmit transmitted within copied =>
      rw [TxSystem.statement]
      simp only
      split
      · rename_i more
        exact
          ⟨taken, accepted,
            .copy fits
              ⟨claimed.ongoing, claimed.completed, claimed.ahead⟩
              toTransmit transmitted more (bytes_copied copied)⟩
      · rename_i done
        have all := Nat.le_antisymm within (Nat.not_lt.mp done)
        rw [all] at copied
        rw [← copied] at claimed
        exact
          ⟨taken, accepted, .enable fits claimed toTransmit transmitted⟩
  | enable fits claimed toTransmit transmitted =>
      exact
        ⟨taken, accepted,
          .first fits
            ⟨claimed.ongoing, claimed.completed, claimed.ahead⟩
            toTransmit transmitted rfl⟩
  | first fits claimed toTransmit transmitted enabled =>
      exact
        ⟨taken, accepted,
          .outside
            (Or.inr
              (sending_of_first fits claimed toTransmit transmitted
                enabled))⟩

/-- The invariant holds before the first call. -/
theorem sound_start : start.Sound :=
  ⟨[], rfl, .outside (Or.inl ⟨rfl, rfl, rfl, rfl⟩)⟩

/-- The invariant holds in every run. -/
theorem Reachable.sound
    {system : TxSystem}
    (reached : Reachable system) :
    system.Sound := by
  induction reached with
  | start => exact sound_start
  | call _ outside buf size inductionHypothesis =>
      exact inductionHypothesis.call outside buf size
  | statement _ inductionHypothesis =>
      exact inductionHypothesis.statement
  | interrupt _ interruptible inductionHypothesis =>
      exact inductionHypothesis.interrupt interruptible

end TxSystem

/-! ## What is transmitted -/

namespace Transmitter

variable {transmitter : Transmitter}
variable {taken data : List UInt8}

theorem Free.ongoing_iff (free : transmitter.Free taken) :
    transmitter.ongoing = 0 ↔ transmitter.completed = taken.length :=
  iff_of_true free.ongoing free.completed

theorem Sending.ongoing_iff (sending : transmitter.Sending taken) :
    transmitter.ongoing = 0 ↔ transmitter.completed = taken.length := by
  refine iff_of_false ?_ fun complete => ?_
  · rw [sending.ongoing]
    decide
  · have underway := sending.underway
    have behind := congrArg List.length sending.behind
    rw [List.length_append] at behind
    omega

theorem Claimed.ongoing_iff
    (claimed : transmitter.Claimed taken data)
    (positive : 0 < data.length) :
    transmitter.ongoing = 0 ↔ transmitter.completed = taken.length := by
  refine iff_of_false ?_ fun complete => ?_
  · rw [claimed.ongoing]
    decide
  · have ahead := congrArg List.length claimed.ahead
    have completed := claimed.completed
    rw [List.length_append] at ahead
    omega

end Transmitter

theorem AcceptedSize.positive
    {size : UInt8}
    (accepted : AcceptedSize size)
    (memory : Memory) :
    0 < (memory.bytes 0 size.toNat).length := by
  rw [Memory.length_bytes]
  exact
    Nat.pos_of_ne_zero fun zero => accepted.1 (UInt8.toNat_inj.mp zero)

namespace Stage

variable {taken : List UInt8}
variable {place : TxPlace}
variable {transmitter : Transmitter}

/-- The bytes that were sent are the first of those that were taken. -/
theorem written
    (stage : Stage taken place transmitter) :
    transmitter.written <+: taken := by
  have either :
      transmitter.Free taken ∨ transmitter.Sending taken →
        transmitter.written <+: taken := by
    rintro (free | sending)
    · exact free.written ▸ List.prefix_refl _
    · exact ⟨_, sending.behind⟩
  cases stage with
  | outside before => exact either before
  | waiting _ before => exact either before
  | claim _ free => exact either (Or.inl free)
  | count _ claimed => exact ⟨_, claimed.ahead⟩
  | restart _ claimed => exact ⟨_, claimed.ahead⟩
  | copy _ claimed => exact ⟨_, claimed.ahead⟩
  | enable _ claimed => exact ⟨_, claimed.ahead⟩
  | first _ claimed => exact ⟨_, claimed.ahead⟩

/-- `tx_ongoing` tells whether everything that was taken is transmitted. -/
theorem ongoing_iff
    (stage : Stage taken place transmitter) :
    transmitter.ongoing = 0 ↔ transmitter.completed = taken.length := by
  have either :
      transmitter.Free taken ∨ transmitter.Sending taken →
        (transmitter.ongoing = 0 ↔
          transmitter.completed = taken.length) := by
    rintro (free | sending)
    · exact free.ongoing_iff
    · exact sending.ongoing_iff
  cases stage with
  | outside before => exact either before
  | waiting _ before => exact either before
  | claim _ free => exact free.ongoing_iff
  | count fits claimed => exact claimed.ongoing_iff (fits.positive _)
  | restart fits claimed => exact claimed.ongoing_iff (fits.positive _)
  | copy fits claimed => exact claimed.ongoing_iff (fits.positive _)
  | enable fits claimed => exact claimed.ongoing_iff (fits.positive _)
  | first fits claimed => exact claimed.ongoing_iff (fits.positive _)

/-- An interrupt occurs only while the transmitter is sending. -/
theorem sending
    (stage : Stage taken place transmitter)
    (interruptible : transmitter.Interruptible) :
    transmitter.Sending taken := by
  have either :
      transmitter.Free taken ∨ transmitter.Sending taken →
        transmitter.Sending taken := fun before =>
    before.resolve_left fun free => free.not_interruptible interruptible
  cases stage with
  | outside before => exact either before
  | waiting _ before => exact either before
  | claim _ free => exact either (Or.inl free)
  | count _ claimed =>
      exact absurd interruptible claimed.not_interruptible
  | restart _ claimed =>
      exact absurd interruptible claimed.not_interruptible
  | copy _ claimed =>
      exact absurd interruptible claimed.not_interruptible
  | enable _ claimed =>
      exact absurd interruptible claimed.not_interruptible
  | first _ claimed =>
      exact absurd interruptible claimed.not_interruptible

/-- Between two calls the transmitter is free, or it can be interrupted. -/
theorem free_of_quiet
    (stage : Stage taken .outside transmitter)
    (quiet : ¬ transmitter.Interruptible) :
    transmitter.Free taken := by
  cases stage with
  | outside either =>
      exact
        either.resolve_right fun sending => quiet sending.interruptible

/-- A call waits only while the transmitter is sending. -/
theorem sending_of_waiting
    {buf : Memory}
    {size : UInt8}
    (stage : Stage taken (.waiting buf size) transmitter)
    (busy : transmitter.ongoing ≠ 0) :
    transmitter.Sending taken := by
  cases stage with
  | waiting _ either =>
      exact either.resolve_left fun free => busy free.ongoing

end Stage

/-! ## Progress -/

/-- The statements that a call has before it. -/
def TxPlace.rank : TxPlace → Nat
  | .outside => 0
  | .first _ _ => 1
  | .enable _ _ => 2
  | .copy _ size i => 3 + (size.toNat - i)
  | .restart _ size => 4 + size.toNat
  | .count _ size => 5 + size.toNat
  | .claim _ size => 6 + size.toNat
  | .waiting _ size => 7 + size.toNat

namespace TxSystem

/-- The statements and interrupts that are left of the calls so far. -/
def left (system : TxSystem) : Nat :=
  (system.accepted.length - system.transmitter.completed) +
    system.place.rank

/--
The system goes on: a statement that does something, or an interrupt.  In the
loop `while (tx_ongoing)` the program waits, and only an interrupt goes on.
-/
inductive Goes (system : TxSystem) : TxSystem → Prop where
  | statement
      (moves : system.statement ≠ system) :
      Goes system system.statement
  | interrupt
      (interruptible : system.transmitter.Interruptible) :
      Goes system system.interrupt

/-- No call is running, and everything that was accepted is transmitted. -/
structure Quiet (system : TxSystem) : Prop where
  outside : system.place = .outside
  transmitted : system.transmitter.written = system.accepted
  ongoing : system.transmitter.ongoing = 0
  still : ¬ system.transmitter.Interruptible

/-- The bytes that were sent are the first of those that were accepted. -/
theorem Reachable.inOrder
    {system : TxSystem}
    (reached : Reachable system) :
    system.transmitter.written <+: system.accepted := by
  obtain ⟨taken, accepted, stage⟩ := reached.sound
  rw [accepted]
  exact stage.written.trans (List.prefix_append _ _)

/-- A statement neither begins a call nor completes a transmission. -/
theorem statement_frame (system : TxSystem) :
    system.statement.calls = system.calls ∧
      system.statement.transmitter.completed =
        system.transmitter.completed := by
  obtain ⟨transmitter, place, calls, returned⟩ := system
  cases place with
  | waiting buf size =>
      rw [TxSystem.statement]
      simp only
      split
      · exact ⟨rfl, rfl⟩
      · exact ⟨rfl, rfl⟩
  | copy buf size i =>
      rw [TxSystem.statement]
      simp only
      split
      · exact ⟨rfl, rfl⟩
      · exact ⟨rfl, rfl⟩
  | _ => exact ⟨rfl, rfl⟩

/-- Neither a statement nor an interrupt calls `serial_tx`. -/
theorem Goes.calls
    {system next : TxSystem}
    (goes : Goes system next) :
    next.calls = system.calls := by
  cases goes with
  | statement moves => exact system.statement_frame.1
  | interrupt interruptible => rfl

theorem Goes.accepted
    {system next : TxSystem}
    (goes : Goes system next) :
    next.accepted = system.accepted :=
  congrArg (List.flatMap acceptedBytes) goes.calls

/-- A statement that does something leaves one statement less. -/
theorem statement_left
    {system : TxSystem}
    (moves : system.statement ≠ system) :
    system.statement.left < system.left := by
  have same := (Goes.statement moves).accepted
  have further : system.statement.place.rank < system.place.rank := by
    obtain ⟨transmitter, place, calls, returned⟩ := system
    cases place with
    | outside => exact absurd rfl moves
    | waiting buf size =>
        rw [TxSystem.statement] at moves ⊢
        simp only at moves ⊢
        split
        · rename_i busy
          rw [if_pos busy] at moves
          exact absurd rfl moves
        · simp only [TxPlace.rank]
          omega
    | copy buf size i =>
        rw [TxSystem.statement]
        simp only
        split
        · simp only [TxPlace.rank]
          omega
        · simp only [TxPlace.rank]
          omega
    | claim buf size =>
        simp only [TxSystem.statement, TxPlace.rank]
        omega
    | count buf size =>
        simp only [TxSystem.statement, TxPlace.rank]
        omega
    | restart buf size =>
        simp only [TxSystem.statement, TxPlace.rank]
        omega
    | enable buf size => exact Nat.lt_succ_self _
    | first buf size => exact Nat.lt_succ_self _
  rw [left, left, same, system.statement_frame.2]
  exact Nat.add_lt_add_left further _

/-- An interrupt leaves one byte less to transmit. -/
theorem interrupt_left
    {system : TxSystem}
    (reached : Reachable system)
    (interruptible : system.transmitter.Interruptible) :
    system.interrupt.left < system.left := by
  have same := (Goes.interrupt interruptible).accepted
  have completed :
      system.interrupt.transmitter.completed =
        system.transmitter.completed + 1 := by
    rw [TxSystem.interrupt, Transmitter.interrupt, Transmitter.isr]
    simp only
    split
    · rfl
    · rfl
  have place : system.interrupt.place = system.place :=
    rfl
  have room := reached.inOrder.length_le
  have earlier := interruptible.2
  rw [left, left, same, completed, place]
  omega

/-- Whatever goes on leaves less to do. -/
theorem Goes.left_lt
    {system next : TxSystem}
    (goes : Goes system next)
    (reached : Reachable system) :
    next.left < system.left := by
  cases goes with
  | statement moves => exact statement_left moves
  | interrupt interruptible => exact interrupt_left reached interruptible

theorem Goes.reachable
    {system next : TxSystem}
    (goes : Goes system next)
    (reached : Reachable system) :
    Reachable next := by
  cases goes with
  | statement moves => exact .statement reached
  | interrupt interruptible => exact .interrupt reached interruptible

/-- A statement does nothing only outside of calls, or where a call waits. -/
theorem waits_of_still
    {system : TxSystem}
    (still : system.statement = system) :
    system.place = .outside ∨
      ∃ buf size,
        system.place = .waiting buf size ∧
          system.transmitter.ongoing ≠ 0 := by
  obtain ⟨transmitter, place, calls, returned⟩ := system
  have placed := congrArg TxSystem.place still
  cases place with
  | outside => exact Or.inl rfl
  | waiting buf size =>
      right
      refine ⟨buf, size, rfl, fun idle => ?_⟩
      change transmitter.ongoing = 0 at idle
      simp only [TxSystem.statement, idle] at placed
      cases placed
  | copy buf size i =>
      simp only [TxSystem.statement] at placed
      split at placed
      · injection placed with _ _ later
        exact absurd later (Nat.succ_ne_self i)
      · cases placed
  | claim buf size => cases placed
  | count buf size => cases placed
  | restart buf size => cases placed
  | enable buf size => cases placed
  | first buf size => cases placed

/-- Where nothing goes on, everything is transmitted. -/
theorem quiet_of_stuck
    {system : TxSystem}
    (reached : Reachable system)
    (stuck : ∀ next, ¬ Goes system next) :
    system.Quiet := by
  obtain ⟨taken, accepted, stage⟩ := reached.sound
  have uninterrupted : ¬ system.transmitter.Interruptible :=
    fun interruptible => stuck _ (.interrupt interruptible)
  have still : system.statement = system :=
    not_not.mp fun moves => stuck _ (.statement moves)
  obtain ⟨transmitter, place, calls, returned⟩ := system
  rcases waits_of_still still with outside | ⟨buf, size, waiting, busy⟩
  · cases outside
    have free := stage.free_of_quiet uninterrupted
    refine ⟨rfl, ?_, free.ongoing, uninterrupted⟩
    rw [accepted]
    exact free.written.trans (List.append_nil _).symm
  · cases waiting
    exact
      absurd (stage.sending_of_waiting busy).interruptible uninterrupted

/-- The calls so far come to an end, in whatever order the system goes on. -/
theorem Reachable.finishes
    {system : TxSystem}
    (reached : Reachable system) :
    ∃ later,
      Relation.ReflTransGen Goes system later ∧
        later.calls = system.calls ∧ later.Quiet := by
  induction less : system.left using Nat.strongRecOn generalizing
    system with
  | _ left inductionHypothesis =>
      by_cases going : ∃ next, Goes system next
      · obtain ⟨next, goes⟩ := going
        obtain ⟨later, steps, same, quiet⟩ :=
          inductionHypothesis next.left (less ▸ goes.left_lt reached)
            (goes.reachable reached) rfl
        exact
          ⟨later, .head goes steps, same.trans goes.calls, quiet⟩
      · exact
          ⟨system, .refl, rfl,
            quiet_of_stuck reached fun next goes => going ⟨next, goes⟩⟩

/--
An interrupt sends the next accepted byte, or it gives the transmitter free, and
everything but the buffer of a blocked call is transmitted.
-/
theorem interrupted_of_reachable
    {system : TxSystem}
    (reached : Reachable system)
    (interruptible : system.transmitter.Interruptible) :
    (∃ byte,
        system.interrupt.transmitter.written =
            system.transmitter.written ++ [byte] ∧
          system.transmitter.written ++ [byte] <+: system.accepted) ∨
      (system.interrupt.transmitter.written =
          system.transmitter.written ∧
        system.transmitter.written ++ system.place.blocked =
            system.accepted ∧
          system.interrupt.transmitter.ongoing = 0) := by
  have later := Reachable.interrupt reached interruptible
  rcases system.transmitter.interrupt_written with
    ⟨byte, written⟩ | ⟨written, freed⟩
  · left
    refine ⟨byte, written, ?_⟩
    rw [← written]
    exact later.inOrder
  · right
    refine ⟨written, ?_, freed⟩
    obtain ⟨taken, accepted, stage⟩ := reached.sound
    rcases (stage.sending interruptible).interrupt with more | free
    · have busy := more.ongoing
      rw [freed] at busy
      cases busy
    · rw [← written, free.written, accepted]

/-- What the calls of `serial_tx` and the interrupts achieve together. -/
structure Faithful (system : TxSystem) : Prop where
  inOrder : system.transmitter.written <+: system.accepted
  finished :
    system.place = .outside → ¬ system.transmitter.Interruptible →
      system.transmitter.written = system.accepted
  ongoing :
    system.transmitter.ongoing = 0 ↔
      system.transmitter.completed + system.place.blocked.length =
        system.accepted.length
  unblocked :
    system.place.blocked ≠ [] → system.transmitter.ongoing ≠ 0 →
      system.transmitter.Interruptible
  inside :
    ∀ index, system.transmitter.Interruptible →
      system.transmitter.fetched = some index →
        index < system.transmitter.toTransmit.toNat ∧
          system.transmitter.toTransmit.toNat ≤ txBufferSize
  refused :
    ∀ buf size, Refused buf size →
      system.call buf size =
        { system with
          calls := system.calls ++ [(buf, size)]
          returned := system.returned ++ [1] }
  interrupted :
    system.transmitter.Interruptible →
      (∃ byte,
          system.interrupt.transmitter.written =
              system.transmitter.written ++ [byte] ∧
            system.transmitter.written ++ [byte] <+: system.accepted) ∨
        (system.interrupt.transmitter.written =
            system.transmitter.written ∧
          system.transmitter.written ++ system.place.blocked =
              system.accepted ∧
            system.interrupt.transmitter.ongoing = 0)
  advances : ∀ next, Goes system next → next.left < system.left
  settles : (∀ next, ¬ Goes system next) → system.Quiet
  finishes :
    ∃ later,
      Relation.ReflTransGen Goes system later ∧
        later.calls = system.calls ∧ later.Quiet

/--
In every run of calls and interrupts the bytes of the accepted buffers are sent
in order.  Each interrupt sends the next of them or gives the transmitter free,
every order of statements and interrupts comes to an end, and there all accepted
bytes are sent; `tx_ongoing` is zero exactly when no buffer is unfinished except
that of a call which still waits.
-/
theorem faithful_of_reachable
    (system : TxSystem)
    (reached : Reachable system) :
    system.Faithful := by
  obtain ⟨taken, accepted, stage⟩ := reached.sound
  refine
    ⟨reached.inOrder, ?_, ?_, ?_, ?_, ?_,
      interrupted_of_reachable reached,
      fun next goes => goes.left_lt reached, quiet_of_stuck reached,
      reached.finishes⟩
  · intro outside quiet
    obtain ⟨transmitter, place, calls, returned⟩ := system
    cases outside
    rw [accepted]
    exact
      (stage.free_of_quiet quiet).written.trans (List.append_nil _).symm
  · rw [stage.ongoing_iff, accepted, List.length_append]
    omega
  · intro blocked busy
    obtain ⟨transmitter, place, calls, returned⟩ := system
    cases place with
    | waiting buf size =>
        exact (stage.sending_of_waiting busy).interruptible
    | claim buf size =>
        cases stage with
        | claim _ free => exact absurd free.ongoing busy
    | _ => exact absurd rfl blocked
  · intro index interruptible fetched
    rw [Transmitter.fetched] at fetched
    split at fetched
    · rename_i more
      cases fetched
      exact
        ⟨UInt8.lt_iff_toNat_lt.mp more,
          (stage.sending interruptible).fits⟩
    · cases fetched
  · intro buf size refused
    exact call_of_refused refused system

/-- The statements of a call run without an interrupt. -/
theorem Reachable.statements
    {system : TxSystem}
    (reached : Reachable system)
    (count : Nat) :
    Reachable (TxSystem.statement^[count] system) := by
  induction count generalizing system with
  | zero =>
      exact reached
  | succ count inductionHypothesis =>
      exact inductionHypothesis reached.statement

/-- A call that is refused, and one that sends two bytes. -/
def sentTwo : TxSystem :=
  statement^[9]
    ((start.call none 1).call (some fun _ => 7) 2)

theorem sentTwo_faithful : sentTwo.interrupt.interrupt.Faithful := by
  have called : Reachable sentTwo :=
    Reachable.statements
      (.call (.call .start rfl none 1) rfl (some fun _ => 7) 2) 9
  have first : sentTwo.transmitter.Interruptible := by
    decide
  have second : sentTwo.interrupt.transmitter.Interruptible := by
    decide
  exact
    faithful_of_reachable sentTwo.interrupt.interrupt
      (.interrupt (.interrupt called first) second)

end TxSystem

end Ammc.Master
