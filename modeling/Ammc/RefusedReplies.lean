import Ammc.DamagedPackets

namespace Ammc.Master

open ByteMemory Serial Packet

/-!
# Damaged acknowledgements at the master

An endpoint discards a corrupted `ACK` or `NAK` packet, says the README.  The
master's handler does not look at the type on its error path: whatever it
refuses, it answers with a `NAK` packet, and then it starts again with id 0.
-/

/-- The packets that are answers themselves. -/
def IsAcknowledgement (type : UInt8) : Prop :=
  type = ComType.ack.code ∨ type = ComType.nak.code

instance (type : UInt8) : Decidable (IsAcknowledgement type) :=
  inferInstanceAs (Decidable (_ ∨ _))

/--
The bytes of a packet that the master receives and that fails a check: the
header check, which is the id check and the size limit, or past it the checksum
over as many bytes as the size field announces.
-/
inductive Failing
    (globalId : UInt8) : (type : UInt8) → List UInt8 → Prop where
  | header
      {id type selector size : UInt8}
      (rest : List UInt8)
      (refused : HeaderRefused globalId id type size) :
      Failing globalId type (id :: type :: selector :: size :: rest)
  | checksum
      {id type selector size : UInt8}
      {rest : List UInt8}
      (passed : ¬ HeaderRefused globalId id type size)
      (arrived : (size - 4).toNat ≤ rest.length)
      (damaged :
        crcCheck
            ((id :: type :: selector :: size :: rest).take size.toNat) ≠
          0) :
      Failing globalId type (id :: type :: selector :: size :: rest)

/-- An `ACK` or `NAK` packet that fails a check. -/
def DamagedAcknowledgement
    (globalId : UInt8)
    (input : List UInt8) : Prop :=
  ∃ type, IsAcknowledgement type ∧ Failing globalId type input

section Reacting

variable {ε : Type}

/--
What the handler does about a packet: the turns of its loop from one
`STATE_RECEIVING` until it is there again.
-/
inductive Reaction (world : World signature ε) :
    Handler → Port signature ε → Handler → Port signature ε → Prop where
  | ready
      {handler next : Handler}
      {port after : Port signature ε}
      (turned :
        exec world (communicationHandlerTurn handler) port =
          (some (.again next), after))
      (receiving : next.state = .receiving) :
      Reaction world handler port next after
  | turn
      {handler middle next : Handler}
      {port between after : Port signature ε}
      (turned :
        exec world (communicationHandlerTurn handler) port =
          (some (.again middle), between))
      (busy : middle.state ≠ .receiving)
      (rest : Reaction world middle between next after) :
      Reaction world handler port next after

variable (bus : Bus ε)

/-- A packet is discarded: nothing is transmitted, and the id is kept. -/
def Discards
    (globalId : UInt8)
    (rx : Memory)
    (port : Port signature ε) : Prop :=
  ∀ next after,
    Reaction bus.world ⟨globalId, .receiving, rx⟩ port next after →
      after.sent = port.sent ∧ next.globalId = globalId

/-- The packet object after both reads starts with the bytes received. -/
theorem bytes_whole
    (rx : Memory)
    (id type selector size : UInt8)
    {rest : List UInt8}
    (arrived : (size - 4).toNat ≤ rest.length) :
    ((headed rx (id :: type :: selector :: size :: rest)).store headerSize
          (rest.take (size - 4).toNat)).bytes 0 size.toNat =
      (id :: type :: selector :: size :: rest).take size.toNat := by
  have stored :=
    rx.bytes_store_store [id, type, selector, size]
      (rest.take (size - 4).toNat)
  have taken :
      (rest.take (size - 4).toNat).length = (size - 4).toNat :=
    List.length_take_of_le arrived
  -- the count behind the header wraps for sizes below four
  have wrapping : (size - 4).toNat = (256 - 4 + size.toNat) % 256 :=
    UInt8.toNat_sub size 4
  have sizeLimit : size.toNat < 256 :=
    size.toNat_lt
  obtain ⟨more, covered⟩ :
      ∃ more, 4 + (size - 4).toNat = size.toNat + more :=
    ⟨4 + (size - 4).toNat - size.toNat, by omega⟩
  rw [taken, List.length_cons, List.length_cons, List.length_cons,
    List.length_cons, List.length_nil, covered, Memory.bytes_add]
    at stored
  have front := congrArg (List.take size.toNat) stored
  rw [List.take_left' (by simp)] at front
  refine front.trans ?_
  have whole :
      [id, type, selector, size] ++ rest.take (size - 4).toNat =
        (id :: type :: selector :: size :: rest).take
          (4 + (size - 4).toNat) := by
    rw [Nat.add_comm]
    rfl
  rw [whole, List.take_take, covered, Nat.min_eq_left (by omega)]

/-- A damaged packet does not pass the checks. -/
theorem packetSanity_ne_success
    {p : Memory}
    (damaged : crcCheck (p.bytes 0 (packetGetSize p).toNat) ≠ 0) :
    packetSanity p ≠ .success := by
  rw [packetSanity, if_pos damaged]
  split
  · decide
  · decide

/-- A packet whose checksum does not fit is not sane. -/
theorem packetSanity_damaged
    (rx : Memory)
    (id type selector size : UInt8)
    {rest : List UInt8}
    (arrived : (size - 4).toNat ≤ rest.length)
    (damaged :
      crcCheck
          ((id :: type :: selector :: size :: rest).take size.toNat) ≠
        0) :
    packetSanity
        ((headed rx (id :: type :: selector :: size :: rest)).store
          headerSize (rest.take (size - 4).toNat)) ≠
      .success := by
  apply packetSanity_ne_success
  have sizeField :
      packetGetSize
          ((headed rx (id :: type :: selector :: size :: rest)).store
            headerSize (rest.take (size - 4).toNat)) =
        size :=
    Memory.store_before _ _ (by decide)
  rw [sizeField, bytes_whole rx id type selector size arrived]
  exact damaged

/-- `communication_recv` on a packet that has arrived and passes its header. -/
theorem exec_communicationRecv_cons
    (world : World signature ε)
    (rx : Memory)
    {port : Port signature ε}
    {globalId id type selector size : UInt8}
    {rest : List UInt8}
    (shape : port.input = id :: type :: selector :: size :: rest)
    (passed : ¬ HeaderRefused globalId id type size)
    (arrived : (size - 4).toNat ≤ rest.length) :
    ∃ after,
      exec world (communicationRecv globalId rx) port =
        (some
          (packetSanity
            ((headed rx (id :: type :: selector :: size :: rest)).store
              headerSize (rest.take (size - 4).toNat)),
            (headed rx (id :: type :: selector :: size :: rest)).store
              headerSize (rest.take (size - 4).toNat)),
          after) ∧
        after.sent = port.sent := by
  have header :
      headed rx port.input =
        headed rx (id :: type :: selector :: size :: rest) :=
    congrArg (headed rx) shape
  have sane :
      packetHeaderSanity globalId (headed rx port.input) = .success := by
    rw [header]
    exact
      (packetHeaderSanity_cons globalId rx id type selector size
        rest).mpr passed
  have request :
      bodyRequest (headed rx port.input) = (size - 4).toNat := by
    rw [header]
    rfl
  have length : port.input.length = rest.length + 4 := by
    rw [shape]
    rfl
  have delivered : 4 ≤ port.input.length := by
    omega
  have whole :
      bodyRequest (headed rx port.input) ≤ port.input.length - 4 := by
    rw [request]
    omega
  have recv := exec_communicationRecv_whole world port delivered sane whole
  have body :
      (port.input.drop 4).take (size - 4).toNat =
        rest.take (size - 4).toNat := by
    rw [shape]
    rfl
  rw [request, body, header] at recv
  exact ⟨_, recv, rfl⟩

/-- A turn that takes a failing packet ends in `STATE_NAK`. -/
theorem exec_turn_failing
    {world : World signature ε}
    {globalId type : UInt8}
    (rx : Memory)
    {port : Port signature ε}
    (failing : Failing globalId type port.input) :
    ∃ error received after,
      exec world
          (communicationHandlerTurn ⟨globalId, .receiving, rx⟩) port =
        (some (.again ⟨globalId, .nak error, received⟩), after) ∧
        after.sent = port.sent := by
  generalize inputShape : port.input = input at failing
  cases failing with
  | header rest refused =>
      obtain ⟨error, _, turned⟩ :=
        exec_turn_headerRefused world rx inputShape refused
      exact ⟨error, _, _, turned, rfl⟩
  | @checksum id _ selector size rest passed arrived damaged =>
      have pending : port.input ≠ [] := by
        rw [inputShape]
        exact List.cons_ne_nil _ _
      have noted :
          (port.noted .receiving).input =
            id :: type :: selector :: size :: rest :=
        inputShape
      obtain ⟨after, recv, silent⟩ :=
        exec_communicationRecv_cons world rx noted passed arrived
      have turned := exec_turn_of_recv pending recv
      rw [if_pos (packetSanity_damaged rx id type selector size arrived
        damaged)] at turned
      exact ⟨_, _, _, turned, silent⟩

/-- The handler answers a failing packet with a refusal and resets its id. -/
theorem reaction_failing
    {globalId type : UInt8}
    (rx : Memory)
    {port : Port signature ε}
    (failing : Failing globalId type port.input) :
    ∃ (error : ComError) (received : Memory) (after : Port signature ε),
      Reaction bus.world ⟨globalId, .receiving, rx⟩ port
          ⟨0, .receiving, received⟩ after ∧
        after.sent =
          port.sent ++
            [packetImage globalId ComType.nak.code error.code []] := by
  obtain ⟨error, received, between, turned, silent⟩ :=
    @exec_turn_failing ε bus.world globalId type rx port failing
  have refused := exec_nak bus globalId error received between
  refine
    ⟨error, received, _,
      .turn turned (by rintro ⟨⟩) (.ready refused rfl), ?_⟩
  rw [← silent]
  rfl

/-- What is answered is not discarded. -/
theorem not_discards_of_failing
    {globalId type : UInt8}
    (rx : Memory)
    {port : Port signature ε}
    (failing : Failing globalId type port.input) :
    ¬ Discards bus globalId rx port := by
  intro discards
  obtain ⟨error, received, after, reaction, sent⟩ :=
    reaction_failing bus rx failing
  have silent := (discards _ _ reaction).1
  rw [sent] at silent
  simp at silent

/--
No acknowledgement that fails a check is discarded, in no state of the master
and of its surroundings: it is answered with a `NAK` packet.
-/
theorem acknowledgement_not_discarded
    (globalId : UInt8)
    (rx : Memory)
    (port : Port signature ε)
    (damaged : DamagedAcknowledgement globalId port.input) :
    ¬ Discards bus globalId rx port := by
  obtain ⟨type, _, failing⟩ := damaged
  exact not_discards_of_failing bus rx failing

end Reacting

/-- An `ACK` packet whose lowest id bit was inverted on the line. -/
def flippedAck : List UInt8 :=
  Crc.flipBit 0 0 (image Client.crc 0 ComType.ack.code 0 [])

theorem flippedAck_damaged : DamagedAcknowledgement 0 flippedAck := by
  have refused : HeaderRefused 0 1 ComType.ack.code 5 :=
    Or.inl ⟨by decide, by decide⟩
  exact
    ⟨ComType.ack.code, Or.inl rfl,
      .header [Client.crc [0, ComType.ack.code, 0, 5]] refused⟩

/-- An `ACK` packet with one inverted bit is not discarded. -/
theorem flippedAck_not_discarded :
    ¬ Discards idleBus 0 (fun _ => 0) (Port.start flippedAck ()) :=
  acknowledgement_not_discarded idleBus 0 (fun _ => 0)
    (Port.start flippedAck ()) flippedAck_damaged

/-- The handler does not discard every damaged acknowledgement. -/
theorem acknowledgements_answered :
    ¬ ∀ (globalId : UInt8) (rx : Memory) (port : Port signature Unit),
        DamagedAcknowledgement globalId port.input →
          Discards idleBus globalId rx port := by
  intro discarded
  obtain ⟨type, _, failing⟩ := flippedAck_damaged
  exact
    not_discards_of_failing idleBus (fun _ => 0) failing
      (discarded 0 (fun _ => 0) (Port.start flippedAck ())
        flippedAck_damaged)

end Ammc.Master
