import Ammc.CrcErrors
import Ammc.MasterStream
import Ammc.PacketRoundTrip

namespace Ammc.Crc

open ByteMemory ShiftRegister

/-!
# Packets with one inverted bit

The checksum detects a single inverted bit as long as the master checks the bytes
that the client has sent.  Which bytes it checks is decided by the header, and
the header may be what the bit has changed.
-/

/-- One bit of a message is inverted on the line. -/
def flipBit
    (position : Nat)
    (bit : Fin 8)
    (message : List UInt8) : List UInt8 :=
  message.modify position (· ^^^ 1 <<< UInt8.ofNat bit.val)

@[simp] theorem length_flipBit
    (position : Nat)
    (bit : Fin 8)
    (message : List UInt8) :
    (flipBit position bit message).length = message.length := by
  simp [flipBit]

/-- An error pattern with one byte that is not zero. -/
def spot
    (before after : Nat)
    (byte : UInt8) : List UInt8 :=
  List.replicate before 0 ++ byte :: List.replicate after 0

/-- A message is damaged by the pattern at the same place. -/
theorem corrupted_spot
    (front back : List UInt8)
    (byte mask : UInt8) :
    corrupted (front ++ byte :: back)
        (spot front.length back.length mask) =
      front ++ (byte ^^^ mask) :: back := by
  have unchanged (part : List UInt8) :
      corrupted part (List.replicate part.length 0) = part := by
    apply List.ext_getElem
    · simp [corrupted]
    · intro index _ _
      simp [corrupted]
  have front' := unchanged front
  have back' := unchanged back
  rw [corrupted] at front' back'
  rw [corrupted, spot, List.zipWith_append (by simp),
    List.zipWith_cons_cons, front', back']

theorem bits_append (first second : List UInt8) :
    bits (first ++ second) = bits first ++ bits second := by
  simp [bits]

theorem bits_replicate_zero (count : Nat) :
    bits (List.replicate count 0) = List.replicate (8 * count) false := by
  induction count with
  | zero => rfl
  | succ count inductionHypothesis =>
      have byte : byteBits 0 = List.replicate 8 false := by
        decide
      rw [List.replicate_succ, bits_cons, inductionHypothesis, byte,
        List.replicate_append_replicate, Nat.mul_succ, Nat.add_comm]

/-- One byte is a burst. -/
theorem confined_spot
    (before after : Nat)
    (byte : UInt8) :
    Confined (8 * before) 8 (bits (spot before after byte)) := by
  intro position set
  rw [spot, bits_append, bits_cons, bits_replicate_zero,
    bits_replicate_zero] at set
  have width : (byteBits byte).length = 8 :=
    rfl
  by_cases early : position < 8 * before
  · rw [List.getElem?_append_left (by simpa using early),
      List.getElem?_replicate] at set
    simp at set
  refine ⟨Nat.not_lt.mp early, ?_⟩
  by_contra late
  have behindFront :
      (List.replicate (8 * before) false).length ≤ position := by
    rw [List.length_replicate]
    exact Nat.not_lt.mp early
  have behindByte :
      (byteBits byte).length ≤
        position - (List.replicate (8 * before) false).length := by
    rw [width, List.length_replicate]
    omega
  rw [List.getElem?_append_right behindFront,
    List.getElem?_append_right behindByte,
    List.getElem?_replicate] at set
  simp at set

/-- An inverted bit is detected when all bytes are checked. -/
theorem crcFrom_flipBit_ne_zero
    {table : List UInt8}
    (divides : TableDivides table)
    {message : List UInt8}
    (intact : crcFrom table 0 message = 0)
    {position : Nat}
    (inside : position < message.length)
    (bit : Fin 8) :
    crcFrom table 0 (flipBit position bit message) ≠ 0 := by
  have set : 1 <<< UInt8.ofNat bit.val ≠ (0 : UInt8) := by
    revert bit
    decide
  obtain ⟨front, byte, back, split, _, flipped⟩ :=
    List.exists_of_modify (· ^^^ 1 <<< UInt8.ofNat bit.val) inside
  have pattern :=
    corrupted_spot front back byte (1 <<< UInt8.ofNat bit.val)
  rw [← flipped, ← split] at pattern
  rw [flipBit, ← pattern]
  refine
    (Detectable.burst _ (confined_spot _ _ _)).crcFrom_corrupted_ne_zero
      divides ?_ intact ⟨_, ?_, set⟩
  · rw [split]
    simp [spot]
  · simp [spot]

end Ammc.Crc

namespace Ammc.Master

open ByteMemory Serial Packet

/-! ## What the master makes of any bytes -/

/-- The header check refuses the header. -/
def HeaderRefused
    (globalId id type size : UInt8) : Prop :=
  (id ≠ globalId ∧ (type ≠ ComType.hnd.code ∨ id ≠ 0)) ∨
    size.toNat > packetSize

instance (globalId id type size : UInt8) :
    Decidable (HeaderRefused globalId id type size) :=
  inferInstanceAs (Decidable (_ ∨ _))

/--
The bytes have a valid packet where a receiver begins to read: at their start,
behind the four bytes of a refused header, or behind a packet that fails its
checks.  After a refusal the receiver expects the id 0.
-/
inductive ComesUpon : UInt8 → List UInt8 → Prop where
  | packet
      {globalId : UInt8}
      {packet : Datagram}
      (tail : List UInt8)
      (admitted : packet.Admitted globalId)
      (valid : packet.verdict = .success) :
      ComesUpon globalId (packet.bytes ++ tail)
  | header
      {globalId id type selector size : UInt8}
      {rest : List UInt8}
      (refused : HeaderRefused globalId id type size)
      (later : ComesUpon 0 rest) :
      ComesUpon globalId (id :: type :: selector :: size :: rest)
  | broken
      {globalId : UInt8}
      {packet : Datagram}
      {tail : List UInt8}
      (admitted : packet.Admitted globalId)
      (invalid : packet.verdict ≠ .success)
      (later : ComesUpon 0 tail) :
      ComesUpon globalId (packet.bytes ++ tail)

/-- The header check looks at nothing but the header. -/
theorem packetHeaderSanity_cons
    (globalId : UInt8)
    (rx : Memory)
    (id type selector size : UInt8)
    (rest : List UInt8) :
    packetHeaderSanity globalId
          (headed rx (id :: type :: selector :: size :: rest)) =
        .success ↔
      ¬ HeaderRefused globalId id type size := by
  have fields :
      packetHeaderSanity globalId
          (headed rx (id :: type :: selector :: size :: rest)) =
        if id ≠ globalId ∧ (type ≠ ComType.hnd.code ∨ id ≠ 0) then
          .idMismatch
        else if size.toNat > headerSize + bodyMaxLen + crcSize then
          .tooBig
        else
          .success :=
    rfl
  rw [fields, HeaderRefused]
  split
  · rename_i otherId
    exact
      ⟨fun same => absurd same (by decide), fun fits =>
        absurd (Or.inl otherId) fits⟩
  · rename_i sameId
    split
    · rename_i large
      exact
        ⟨fun same => absurd same (by decide), fun fits =>
          absurd (Or.inr large) fits⟩
    · rename_i small
      exact
        ⟨fun _ refused => refused.elim sameId small, fun _ => rfl⟩

/-- A datagram starts where a header passes that announces itself. -/
theorem exists_datagram_of_covers
    {globalId id type selector size : UInt8}
    {rest : List UInt8}
    (passed : ¬ HeaderRefused globalId id type size)
    (covers : 4 ≤ size.toNat)
    (arrived : (size - 4).toNat ≤ rest.length) :
    ∃ (packet : Datagram) (tail : List UInt8),
      packet.Admitted globalId ∧ packet.type = type ∧
        packet.size = size ∧
        id :: type :: selector :: size :: rest = packet.bytes ++ tail := by
  rw [HeaderRefused, not_or] at passed
  obtain ⟨sameId, small⟩ := passed
  have bound : size.toNat ≤ 37 := Nat.not_lt.mp small
  have wrapping : (size - 4).toNat = (256 - 4 + size.toNat) % 256 :=
    UInt8.toNat_sub size 4
  have count : (size - 4).toNat = size.toNat - 4 := by
    omega
  have taken :
      (rest.take (size - 4).toNat).length = size.toNat - 4 := by
    rw [List.length_take_of_le arrived, count]
  let packet : Datagram :=
    { id := id
      type := type
      selector := selector
      rest := rest.take (size - 4).toNat
      fits := by omega }
  have sameSize : packet.size = size := by
    apply UInt8.toNat_inj.mp
    rw [packet.size_toNat, taken]
    omega
  refine ⟨packet, rest.drop (size - 4).toNat, ?_, rfl, sameSize, ?_⟩
  · by_contra notAdmitted
    rw [Datagram.Admitted, not_or, not_and_or] at notAdmitted
    exact sameId notAdmitted
  · rw [Datagram.bytes, Datagram.header, sameSize]
    simp [packet]

/-- A datagram starts as many bytes as its size field announces. -/
theorem exists_datagram
    {globalId id type selector size : UInt8}
    {rest : List UInt8}
    (passed : ¬ HeaderRefused globalId id type size)
    (arrived : (size - 4).toNat ≤ rest.length)
    (short : rest.length < 252) :
    ∃ (packet : Datagram) (tail : List UInt8),
      packet.Admitted globalId ∧ packet.type = type ∧
        packet.size = size ∧
        id :: type :: selector :: size :: rest = packet.bytes ++ tail := by
  -- a size below four makes the master ask for 252 bytes and more
  have wrapping : (size - 4).toNat = (256 - 4 + size.toNat) % 256 :=
    UInt8.toNat_sub size 4
  have covers : 4 ≤ size.toNat := by
    have small := (not_or.mp passed).2
    have bound : size.toNat ≤ 37 := Nat.not_lt.mp small
    omega
  exact exists_datagram_of_covers passed covers arrived

section Refusing

variable {ε : Type}

/-- Nothing has been accepted, and nothing but refusals has been answered. -/
structure Unaccepted
    (before after : Port signature ε) : Prop where
  log :
    ∃ added, after.log = before.log ++ added ∧
      ∀ entry ∈ added, entry.event ≠ .received .success
  sent :
    ∃ buffers, after.sent = before.sent ++ buffers ∧
      ∀ buffer ∈ buffers,
        ∃ globalId error,
          buffer = packetImage globalId ComType.nak.code error []
  env : after.env = before.env

namespace Unaccepted

theorem refl (port : Port signature ε) : Unaccepted port port :=
  ⟨⟨[], (List.append_nil _).symm, fun _ member => nomatch member⟩,
    ⟨[], (List.append_nil _).symm, fun _ member => nomatch member⟩, rfl⟩

theorem trans
    {first second third : Port signature ε}
    (earlier : Unaccepted first second)
    (later : Unaccepted second third) :
    Unaccepted first third := by
  obtain ⟨earlyAdded, earlyLog, earlyEvents⟩ := earlier.log
  obtain ⟨lateAdded, lateLog, lateEvents⟩ := later.log
  obtain ⟨earlyBuffers, earlySent, earlyRefusals⟩ := earlier.sent
  obtain ⟨lateBuffers, lateSent, lateRefusals⟩ := later.sent
  refine ⟨⟨earlyAdded ++ lateAdded, ?_, ?_⟩,
    ⟨earlyBuffers ++ lateBuffers, ?_, ?_⟩,
    later.env.trans earlier.env⟩
  · rw [lateLog, earlyLog, List.append_assoc]
  · intro entry member
    rcases List.mem_append.mp member with early | late
    · exact earlyEvents entry early
    · exact lateEvents entry late
  · rw [lateSent, earlySent, List.append_assoc]
  · intro buffer member
    rcases List.mem_append.mp member with early | late
    · exact earlyRefusals buffer early
    · exact lateRefusals buffer late

end Unaccepted

/-- The handler will accept nothing of the bytes that are left. -/
def Refusing
    (handler : Handler)
    (input : List UInt8) : Prop :=
  (handler.state = .receiving ∧ ¬ ComesUpon handler.globalId input) ∨
    ((∃ error, handler.state = .nak error) ∧ ¬ ComesUpon 0 input)

theorem unaccepted_noted
    (port : Port signature ε)
    {event : Note}
    (harmless : event ≠ .received .success) :
    Unaccepted port (port.noted event) := by
  refine
    ⟨⟨[⟨event, port.read, port.written⟩], rfl, ?_⟩,
      ⟨[], (List.append_nil _).symm, fun _ member => nomatch member⟩,
      rfl⟩
  intro entry member
  rw [List.mem_singleton.mp member]
  exact harmless

theorem unaccepted_received
    (port : Port signature ε)
    (offset count : Nat) :
    Unaccepted port (port.received offset count) :=
  ⟨(Unaccepted.refl port).log, (Unaccepted.refl port).sent, rfl⟩

theorem unaccepted_waiting
    (port : Port signature ε)
    (offset count : Nat) :
    Unaccepted port (port.waiting offset count) :=
  ⟨(Unaccepted.refl port).log, (Unaccepted.refl port).sent, rfl⟩

/-- A turn that accepts nothing, and leaves nothing to be accepted. -/
structure Refuses
    (port : Port signature ε)
    (turned : Option Turn × Port signature ε) : Prop where
  unaccepted : Unaccepted port turned.2
  next :
    ∀ next, turned.1 = some (.again next) →
      Refusing next turned.2.input ∧
        turned.2.input.length ≤ port.input.length

/-- The read of a receiving turn may block. -/
theorem refuses_of_stuck
    {world : World signature ε}
    {globalId : UInt8}
    {rx : Memory}
    {port after : Port signature ε}
    (pending : port.input ≠ [])
    (stuck :
      exec world (communicationRecv globalId rx)
          (port.noted .receiving) =
        (none, after))
    (reading : Unaccepted (port.noted .receiving) after) :
    Refuses port
      (exec world
        (communicationHandlerTurn ⟨globalId, .receiving, rx⟩) port) := by
  have begun : Unaccepted port (port.noted .receiving) :=
    unaccepted_noted port (by rintro ⟨⟩)
  rw [exec_turn_of_stuck pending stuck]
  refine ⟨begun.trans reading, ?_⟩
  rintro next ⟨⟩

/-- A turn that ends with a refusal leaves the rest to the id 0. -/
theorem refuses_of_nak
    {port after : Port signature ε}
    {globalId : UInt8}
    {error : ComError}
    {received : Memory}
    (unaccepted : Unaccepted port after)
    (nothing : ¬ ComesUpon 0 after.input)
    (shorter : after.input.length ≤ port.input.length) :
    Refuses port
      (some (.again ⟨globalId, .nak error, received⟩), after) := by
  refine ⟨unaccepted, ?_⟩
  rintro next ⟨⟩
  exact ⟨Or.inr ⟨⟨error, rfl⟩, nothing⟩, shorter⟩

/-- A refused header is left after its four bytes. -/
theorem exec_turn_headerRefused
    (world : World signature ε)
    {globalId id type selector size : UInt8}
    {rest : List UInt8}
    (rx : Memory)
    {port : Port signature ε}
    (input : port.input = id :: type :: selector :: size :: rest)
    (refused : HeaderRefused globalId id type size) :
    ∃ error,
      error ≠ .success ∧
        exec world
            (communicationHandlerTurn ⟨globalId, .receiving, rx⟩)
            port =
          (some
            (.again ⟨globalId, .nak error, headed rx port.input⟩),
            ((port.noted .receiving).received 0 4).noted
              (.received error)) := by
  have pending : port.input ≠ [] := by
    rw [input]
    exact List.cons_ne_nil _ _
  have delivered : 4 ≤ (port.noted .receiving).input.length := by
    change 4 ≤ port.input.length
    rw [input]
    exact Nat.le_add_left 4 rest.length
  have insane :
      packetHeaderSanity globalId
          (headed rx (port.noted .receiving).input) ≠
        .success := by
    change packetHeaderSanity globalId (headed rx port.input) ≠ _
    rw [input]
    exact fun sane =>
      (packetHeaderSanity_cons globalId rx id type selector size
        rest).mp sane refused
  have turned :=
    exec_turn_of_recv pending
      (exec_communicationRecv_refused world (port.noted .receiving)
        delivered insane)
  rw [if_pos insane] at turned
  exact ⟨_, insane, turned⟩

variable (bus : Bus ε)

/-- A refused header is no packet, and none may follow it. -/
theorem refuses_header
    {globalId id type selector size : UInt8}
    {rest : List UInt8}
    (rx : Memory)
    {port : Port signature ε}
    (input : port.input = id :: type :: selector :: size :: rest)
    (refused : HeaderRefused globalId id type size)
    (nothing : ¬ ComesUpon globalId port.input) :
    Refuses port
      (exec bus.world
        (communicationHandlerTurn ⟨globalId, .receiving, rx⟩) port) := by
  obtain ⟨error, rejected, turned⟩ :=
    exec_turn_headerRefused bus.world rx input refused
  have begun : Unaccepted port (port.noted .receiving) :=
    unaccepted_noted port (by rintro ⟨⟩)
  have left :
      ((port.noted .receiving).received 0 4).input = rest := by
    simp [Port.received, Port.noted, input]
  rw [turned]
  refine refuses_of_nak ?_ ?_ ?_
  · exact
      (begun.trans (unaccepted_received _ 0 4)).trans
        (unaccepted_noted _ fun same =>
          rejected (Note.received.inj same))
  · change ¬ ComesUpon 0 ((port.noted .receiving).received 0 4).input
    rw [left]
    rw [input] at nothing
    exact fun later => nothing (.header refused later)
  · change ((port.noted .receiving).received 0 4).input.length ≤ _
    rw [left, input]
    exact Nat.le_add_right rest.length 4

/-- Neither is a packet that fails its checks. -/
theorem refuses_datagram
    {packet : Datagram}
    {globalId : UInt8}
    {tail : List UInt8}
    (rx : Memory)
    {port : Port signature ε}
    (input : port.input = packet.bytes ++ tail)
    (admitted : packet.Admitted globalId)
    (nothing : ¬ ComesUpon globalId port.input) :
    Refuses port
      (exec bus.world
        (communicationHandlerTurn ⟨globalId, .receiving, rx⟩) port) := by
  rw [input] at nothing
  have invalid : packet.verdict ≠ .success := fun valid =>
    nothing (.packet tail admitted valid)
  have begun : Unaccepted port (port.noted .receiving) :=
    unaccepted_noted port (by rintro ⟨⟩)
  have left := packet.input_portJudged input
  rw [exec_receiving bus.world packet rx port input admitted,
    if_pos invalid]
  refine refuses_of_nak ?_ ?_ ?_
  · exact
      ((begun.trans (unaccepted_received _ 0 4)).trans
        (unaccepted_received _ headerSize packet.rest.length)).trans
        (unaccepted_noted _ fun same =>
          invalid (Note.received.inj same))
  · rw [left]
    exact fun later => nothing (.broken admitted invalid later)
  · rw [left, input, List.length_append]
    exact Nat.le_add_left _ _

/-- Of fewer than four bytes the header read waits for the others. -/
theorem refuses_short
    {globalId : UInt8}
    (rx : Memory)
    {port : Port signature ε}
    (pending : port.input ≠ [])
    (few : port.input.length < 4) :
    Refuses port
      (exec bus.world
        (communicationHandlerTurn ⟨globalId, .receiving, rx⟩) port) :=
  refuses_of_stuck pending
    (exec_communicationRecv_short bus.world globalId rx
      (port.noted .receiving) few)
    (unaccepted_waiting _ 0 4)

/-- Behind an admitted header the body read waits for missing bytes. -/
theorem refuses_missing
    {globalId id type selector size : UInt8}
    {rest : List UInt8}
    (rx : Memory)
    {port : Port signature ε}
    (input : port.input = id :: type :: selector :: size :: rest)
    (passed : ¬ HeaderRefused globalId id type size)
    (missing : rest.length < (size - 4).toNat) :
    Refuses port
      (exec bus.world
        (communicationHandlerTurn ⟨globalId, .receiving, rx⟩) port) := by
  have pending : port.input ≠ [] := by
    rw [input]
    exact List.cons_ne_nil _ _
  have delivered : 4 ≤ (port.noted .receiving).input.length := by
    change 4 ≤ port.input.length
    rw [input]
    exact Nat.le_add_left 4 rest.length
  have sane :
      packetHeaderSanity globalId
          (headed rx (port.noted .receiving).input) =
        .success := by
    change packetHeaderSanity globalId (headed rx port.input) = _
    rw [input]
    exact
      (packetHeaderSanity_cons globalId rx id type selector size
        rest).mpr passed
  have short :
      (port.noted .receiving).input.length - 4 <
        bodyRequest (headed rx (port.noted .receiving).input) := by
    change port.input.length - 4 < bodyRequest (headed rx port.input)
    rw [input]
    exact missing
  exact
    refuses_of_stuck pending
      (exec_communicationRecv_stuck bus.world (port.noted .receiving)
        delivered sane short)
      ((unaccepted_received _ 0 4).trans (unaccepted_waiting _ _ _))

/-- A receiving turn accepts nothing when there is nothing to come upon. -/
theorem refuses_receiving
    {globalId : UInt8}
    (rx : Memory)
    {port : Port signature ε}
    (nothing : ¬ ComesUpon globalId port.input)
    (short : port.input.length < 256) :
    Refuses port
      (exec bus.world
        (communicationHandlerTurn ⟨globalId, .receiving, rx⟩) port) := by
  by_cases pending : port.input = []
  · have returned :
        exec bus.world
            (communicationHandlerTurn ⟨globalId, .receiving, rx⟩) port =
          (some (.returned ⟨globalId, .receiving, rx⟩), port) := by
      simp only [communicationHandlerTurn, serialRxAvailable]
      rw [exec_bind_of_done (exec_pending port)]
      simp [pending, Bus.world]
    rw [returned]
    refine ⟨Unaccepted.refl port, ?_⟩
    rintro next ⟨⟩
  by_cases few : port.input.length < 4
  · exact refuses_short bus rx pending few
  obtain ⟨id, type, selector, size, rest, input⟩ :=
    exists_header (Nat.not_lt.mp few)
  rw [input, List.length_cons, List.length_cons, List.length_cons,
    List.length_cons] at short
  by_cases refused : HeaderRefused globalId id type size
  · exact refuses_header bus rx input refused nothing
  by_cases missing : rest.length < (size - 4).toNat
  · exact refuses_missing bus rx input refused missing
  obtain ⟨packet, tail, admitted, _, _, split⟩ :=
    exists_datagram refused (Nat.not_lt.mp missing) (by omega)
  exact refuses_datagram bus rx (input.trans split) admitted nothing

/-- A refusal is answered, and nothing else happens. -/
theorem refuses_nak
    (globalId : UInt8)
    (error : ComError)
    (rx : Memory)
    {port : Port signature ε}
    (nothing : ¬ ComesUpon 0 port.input) :
    Refuses port
      (exec bus.world
        (communicationHandlerTurn ⟨globalId, .nak error, rx⟩) port) := by
  rw [exec_nak]
  refine ⟨⟨⟨[], (List.append_nil _).symm, ?_⟩, ⟨_, rfl, ?_⟩, rfl⟩, ?_⟩
  · exact fun _ member => nomatch member
  · intro buffer member
    exact ⟨globalId, error.code, List.mem_singleton.mp member⟩
  · rintro next ⟨⟩
    exact ⟨Or.inl ⟨rfl, nothing⟩, Nat.le_refl _⟩

/-- The handler goes on refusing. -/
theorem refuses_turn
    {handler : Handler}
    {port : Port signature ε}
    (refusing : Refusing handler port.input)
    (short : port.input.length < 256) :
    Refuses port
      (exec bus.world (communicationHandlerTurn handler) port) := by
  obtain ⟨globalId, state, rx⟩ := handler
  rcases refusing with ⟨rfl, nothing⟩ | ⟨⟨error, rfl⟩, nothing⟩
  · exact refuses_receiving bus rx nothing short
  · exact refuses_nak bus globalId error rx nothing

/-- However many turns it takes, nothing is accepted. -/
theorem unaccepted_handler
    (turns : Nat)
    {handler : Handler}
    {port : Port signature ε}
    (refusing : Refusing handler port.input)
    (short : port.input.length < 256)
    (performed : Bool) :
    Unaccepted port
      (exec bus.world (communicationHandler turns performed handler)
        port).2 := by
  induction turns generalizing handler port performed with
  | zero => exact Unaccepted.refl port
  | succ turns inductionHypothesis =>
      obtain ⟨unaccepted, further⟩ := refuses_turn bus refusing short
      rcases turned :
          exec bus.world (communicationHandlerTurn handler) port with
        ⟨_ | (next | handler), after⟩
      · rw [communicationHandler, exec_bind_of_stuck turned]
        rw [turned] at unaccepted
        exact unaccepted
      · rw [exec_communicationHandler_again turned]
        rw [turned] at unaccepted further
        obtain ⟨refusing, shorter⟩ := further next rfl
        exact
          unaccepted.trans
            (inductionHypothesis refusing
              (Nat.lt_of_le_of_lt shorter short) _)
      · rw [communicationHandler, exec_bind_of_done turned]
        rw [turned] at unaccepted
        exact unaccepted

/-- A packet has been accepted. -/
def Accepted (port : Port signature ε) : Prop :=
  ∃ entry ∈ port.log, entry.event = .received .success

/-- After a refusal the handler reads on behind it. -/
theorem accepted_after_refusal
    {globalId : UInt8}
    {error : ComError}
    {rx received : Memory}
    {port after : Port signature ε}
    (turned :
      exec bus.world
          (communicationHandlerTurn ⟨globalId, .receiving, rx⟩) port =
        (some (.again ⟨globalId, .nak error, received⟩), after))
    (later :
      ∀ (next : Port signature ε) (performed : Bool),
        next.input = after.input →
          ∃ turns,
            Accepted
              (exec bus.world
                (communicationHandler turns performed
                  ⟨0, .receiving, received⟩) next).2)
    (performed : Bool) :
    ∃ turns,
      Accepted
        (exec bus.world
          (communicationHandler turns performed
            ⟨globalId, .receiving, rx⟩) port).2 := by
  obtain ⟨turns, accepted⟩ := later (sentPort after _ _) _ rfl
  refine ⟨turns + 2, ?_⟩
  rw [exec_communicationHandler_again turned,
    exec_communicationHandler_again (exec_nak bus globalId _ _ _)]
  exact accepted

/-- A packet that is come upon is accepted after some turns. -/
theorem accepted_handler
    {globalId : UInt8}
    {input : List UInt8}
    (upon : ComesUpon globalId input)
    (rx : Memory)
    {port : Port signature ε}
    (arrived : port.input = input)
    (performed : Bool) :
    ∃ turns,
      Accepted
        (exec bus.world
          (communicationHandler turns performed
            ⟨globalId, .receiving, rx⟩) port).2 := by
  induction upon generalizing rx port performed with
  | @packet globalId packet tail admitted valid =>
      have turned :=
        exec_receiving bus.world packet rx port arrived admitted
      refine ⟨1, ?_⟩
      rw [exec_communicationHandler_again turned]
      refine
        ⟨⟨.received packet.verdict, _, _⟩,
          List.mem_append_right _ (List.mem_singleton_self _), ?_⟩
      rw [valid]
  | @header globalId id type selector size rest refused later
      inductionHypothesis =>
      obtain ⟨error, _, turned⟩ :=
        exec_turn_headerRefused bus.world rx arrived refused
      refine
        accepted_after_refusal bus turned
          (fun next performed left => inductionHypothesis _ ?_ performed)
          performed
      rw [left]
      simp [Port.noted, Port.received, arrived]
  | @broken globalId packet tail admitted invalid later
      inductionHypothesis =>
      have turned :=
        exec_receiving bus.world packet rx port arrived admitted
      rw [if_pos invalid] at turned
      refine
        accepted_after_refusal bus turned
          (fun next performed left => inductionHypothesis _ ?_ performed)
          performed
      rw [left]
      exact packet.input_portJudged arrived

/-- Whatever arrives: nothing is accepted when nothing is come upon. -/
theorem unaccepted_iff
    (globalId : UInt8)
    (rx : Memory)
    (env : ε)
    {input : List UInt8}
    (short : input.length < 256) :
    (∀ turns,
        Unaccepted (Port.start input env)
          (exec bus.world
            (communicationHandler turns false
              ⟨globalId, .receiving, rx⟩) (Port.start input env)).2) ↔
      ¬ ComesUpon globalId input := by
  constructor
  · intro unaccepted upon
    have arrived : (Port.start input env : Port signature ε).input = input :=
      rfl
    obtain ⟨turns, entry, member, accepted⟩ :=
      accepted_handler bus upon rx arrived false
    obtain ⟨added, log, events⟩ := (unaccepted turns).log
    rw [log] at member
    exact events entry member accepted
  · intro nothing turns
    exact
      unaccepted_handler bus turns (Or.inl ⟨rfl, nothing⟩) short false

end Refusing

/-! ## One inverted bit -/

/--
The header makes a receiver take something else than all of the bytes for one
packet.  It is refused, and a valid packet lies in the bytes behind it; or its
size field announces fewer bytes than there are, and these are valid or followed
by something valid.
-/
def Misread
    (globalId : UInt8) : List UInt8 → Prop
  | id :: type :: selector :: size :: rest =>
      let input := id :: type :: selector :: size :: rest
      if HeaderRefused globalId id type size then
        ComesUpon 0 rest
      else
        4 ≤ size.toNat ∧ size.toNat < input.length ∧
          ((type < ComType.limit.code ∧
              crcCheck (input.take size.toNat) = 0) ∨
            ComesUpon 0 (input.drop size.toNat))
  | _ => False

/-- There is nothing to come upon in no bytes. -/
theorem not_comesUpon_nil (globalId : UInt8) :
    ¬ ComesUpon globalId [] := by
  generalize empty : ([] : List UInt8) = input
  rintro (@⟨_, packet, tail, _, _⟩ | _ | @⟨_, packet, tail, _, _, _⟩)
  · cases empty
  · cases empty
  · cases empty

theorem verdict_eq_success_iff (packet : Datagram) :
    packet.verdict = .success ↔
      packet.type < ComType.limit.code ∧ crcCheck packet.bytes = 0 := by
  rw [Datagram.verdict]
  split
  · rename_i unknown
    exact
      ⟨fun same => absurd same (by decide), fun known =>
        absurd known.1 (UInt8.not_lt.mpr unknown)⟩
  · rename_i known
    split
    · rename_i corrupted
      exact
        ⟨fun same => absurd same (by decide), fun valid =>
          absurd valid.2 corrupted⟩
    · rename_i intact
      exact ⟨fun _ => ⟨UInt8.not_le.mp known, not_not.mp intact⟩,
        fun _ => rfl⟩

/-- An admitted datagram is not refused for its header. -/
theorem not_headerRefused
    {globalId : UInt8}
    {packet : Datagram}
    (admitted : packet.Admitted globalId) :
    ¬ HeaderRefused globalId packet.id packet.type packet.size := by
  have sane :=
    packet.packetHeaderSanity_withHeader globalId (fun _ => 0)
  rw [if_pos admitted] at sane
  exact
    (packetHeaderSanity_cons globalId (fun _ => 0) packet.id packet.type
      packet.selector packet.size packet.rest).mp sane

/-- A shorter packet at the start of the bytes, and what follows it. -/
theorem misread_of_tail
    {globalId : UInt8}
    {packet : Datagram}
    {tail : List UInt8}
    (admitted : packet.Admitted globalId)
    (more : tail ≠ [])
    (upon : packet.verdict = .success ∨ ComesUpon 0 tail) :
    Misread globalId (packet.bytes ++ tail) := by
  have length : packet.bytes.length = packet.size.toNat := by
    rw [packet.length_bytes, packet.size_toNat]
  have nonempty := List.length_pos_iff.mpr more
  have taken :
      (packet.bytes ++ tail).take packet.size.toNat = packet.bytes := by
    rw [← length, List.take_left]
  have dropped :
      (packet.bytes ++ tail).drop packet.size.toNat = tail := by
    rw [← length, List.drop_left]
  change
    if HeaderRefused globalId packet.id packet.type packet.size then _
    else
      4 ≤ packet.size.toNat ∧
        packet.size.toNat < (packet.bytes ++ tail).length ∧
          ((packet.type < ComType.limit.code ∧
              crcCheck
                ((packet.bytes ++ tail).take packet.size.toNat) = 0) ∨
            ComesUpon 0 ((packet.bytes ++ tail).drop packet.size.toNat))
  rw [if_neg (not_headerRefused admitted), taken, dropped,
    List.length_append, length, ← verdict_eq_success_iff,
    packet.size_toNat]
  exact ⟨Nat.le_add_left _ _, Nat.lt_add_of_pos_right nonempty, upon⟩

/-- Bytes that fail the checksum as a whole are accepted only if misread. -/
theorem comesUpon_iff_misread
    {globalId : UInt8}
    {input : List UInt8}
    (damaged : crcCheck input ≠ 0)
    (short : input.length < 256) :
    ComesUpon globalId input ↔ Misread globalId input := by
  constructor
  · intro upon
    cases upon with
    | @packet _ packet tail admitted valid =>
        have more : tail ≠ [] := by
          rintro rfl
          rw [List.append_nil] at damaged
          exact damaged ((verdict_eq_success_iff packet).mp valid).2
        exact misread_of_tail admitted more (Or.inl valid)
    | header refused later =>
        rw [Misread, if_pos refused]
        exact later
    | @broken _ packet tail admitted invalid later =>
        have more : tail ≠ [] := by
          rintro rfl
          exact not_comesUpon_nil 0 later
        exact misread_of_tail admitted more (Or.inr later)
  · intro misread
    match input with
    | id :: type :: selector :: size :: rest =>
        by_cases refused : HeaderRefused globalId id type size
        · rw [Misread, if_pos refused] at misread
          exact .header refused misread
        · rw [Misread, if_neg refused] at misread
          obtain ⟨covers, shorter, upon⟩ := misread
          simp only [List.length_cons] at shorter short
          have count : (size - 4).toNat = (256 - 4 + size.toNat) % 256 :=
            UInt8.toNat_sub size 4
          have arrived : (size - 4).toNat ≤ rest.length := by
            omega
          obtain ⟨packet, tail, admitted, sameType, sameSize, split⟩ :=
            exists_datagram refused arrived (by omega)
          have length : packet.bytes.length = size.toNat := by
            rw [packet.length_bytes, ← packet.size_toNat, sameSize]
          rw [split] at upon ⊢
          rw [← length, List.take_left, List.drop_left, ← sameType,
            ← verdict_eq_success_iff] at upon
          by_cases valid : packet.verdict = .success
          · exact .packet tail admitted valid
          · exact .broken admitted valid (upon.resolve_left valid)
    | [] | [_] | [_, _] | [_, _, _] => exact absurd misread id

/-- The bytes that the client sends for a packet that it has crafted. -/
def craftedBytes
    (p : Memory)
    (id type selector : UInt8)
    (body : Option Memory)
    (bodySize : UInt8) : List UInt8 :=
  let packet := (Client.packetCraft p id type selector body bodySize).2
  packet.bytes 0 (packetGetSize packet).toNat

theorem craftedBytes_eq_image
    (p : Memory)
    (id selector : UInt8)
    {type bodySize : UInt8}
    {body : Option Memory}
    (craftable : Craftable type body bodySize) :
    craftedBytes p id type selector body bodySize =
      image Client.crc id type selector (bodyBytes body bodySize) := by
  obtain ⟨crafted, craftedOk, _, bytes⟩ :=
    craft_of_craftable Client.crc p id selector craftable
  rw [craftedBytes, Client.packetCraft, craftedOk]
  exact bytes

section Flipping

variable {ε : Type}
variable (bus : Bus ε)

/--
With one bit of a crafted packet inverted, the master accepts nothing and
performs no operation exactly when the header does not make it take something
else than the whole packet for one.
-/
theorem flippedBit_unaccepted_iff
    {type bodySize : UInt8}
    {body : Option Memory}
    (craftable : Craftable type body bodySize)
    (p : Memory)
    (id selector globalId : UInt8)
    (rx : Memory)
    (env : ε)
    {position : Nat}
    (inside :
      position < (craftedBytes p id type selector body bodySize).length)
    (bit : Fin 8) :
    (∀ turns,
        let start :=
          Port.start
            (Crc.flipBit position bit
              (craftedBytes p id type selector body bodySize)) env
        Unaccepted start
          (exec bus.world
            (communicationHandler turns false
              ⟨globalId, .receiving, rx⟩) start).2) ↔
      ¬ Misread globalId
          (Crc.flipBit position bit
            (craftedBytes p id type selector body bodySize)) := by
  have image := craftedBytes_eq_image p id selector craftable
  have intact :
      crcCheck (craftedBytes p id type selector body bodySize) = 0 := by
    rw [image, Packet.image, crcCheck_concat]
    exact Crc.client_crc_eq_master_crc _
  have damaged :=
    Crc.crcFrom_flipBit_ne_zero Crc.masterTable_divides intact inside bit
  have short :
      (Crc.flipBit position bit
        (craftedBytes p id type selector body bodySize)).length <
          256 := by
    have fits := craftable.bodyBytes_fit
    rw [Crc.length_flipBit, image, length_image]
    simp only [bodyMaxLen] at fits
    omega
  rw [← comesUpon_iff_misread damaged short]
  exact unaccepted_iff bus globalId rx env short

end Flipping

/-- A packet without a body, with a bit of its type inverted. -/
theorem flippedApply_unaccepted_iff :
    (∀ turns,
        let start :=
          Port.start
            (Crc.flipBit 1 3
              (craftedBytes (fun _ => 0) 0 ComType.apply.code 0 none 0))
            ()
        Unaccepted start
          (exec idleBus.world
            (communicationHandler turns false
              ⟨0, .receiving, fun _ => 0⟩) start).2) ↔
      ¬ Misread 0
          (Crc.flipBit 1 3
            (craftedBytes (fun _ => 0) 0 ComType.apply.code 0 none 0)) :=
  flippedBit_unaccepted_iff idleBus (craftable_of_none (by decide))
    (fun _ => 0) 0 0 0 (fun _ => 0) () (by decide) 3

/-- The bytes of an `APPLY` packet, as the text of an `ECHO` packet. -/
def echoedApply : List UInt8 :=
  craftedBytes (fun _ => 0) 0 ComType.echo.code 0
    (some
      (Memory.store (fun _ => 0) 0
        (craftedBytes (fun _ => 0) 0 ComType.apply.code 0 none 0)))
    5

/-- With the lowest bit of its id inverted, the text is executed. -/
theorem flippedId_executes_text :
    ¬ ∀ turns,
        let start := Port.start (Crc.flipBit 0 0 echoedApply) ()
        Unaccepted start
          (exec idleBus.world
            (communicationHandler turns false
              ⟨0, .receiving, fun _ => 0⟩) start).2 := by
  intro unaccepted
  obtain ⟨added, log, events⟩ := (unaccepted 3).log
  have accepted :
      Note.received .success ∈
        (exec idleBus.world
            (communicationHandler 3 false
              ⟨0, .receiving, fun _ => 0⟩)
            (Port.start (Crc.flipBit 0 0 echoedApply) ())).2.log.map
          fun entry => entry.event := by
    decide
  rw [log] at accepted
  obtain ⟨entry, member, event⟩ := List.mem_map.mp accepted
  exact events entry member event

end Ammc.Master
