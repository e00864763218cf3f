import Ammc.MasterCommunication
import Ammc.Datagram

namespace Ammc.Master

open ByteMemory Serial Packet

/-!
# Receiving one packet in the master

`communication_recv` reads the header, refuses it or reads as many further bytes
as the size field announces, and then checks the whole packet.  This module says
what one call does on every input: which memory it writes to, and which byte
sequences it accepts.
-/

section Execution

variable {ε : Type}
variable (world : World signature ε)

/-- A read of delivered bytes stores them in the object. -/
theorem exec_serialRx
    (rx : Memory)
    (offset : Nat)
    {size : UInt8}
    (port : Port signature ε)
    (delivered : size.toNat ≤ port.input.length) :
    exec world (serialRx rx offset size) port =
      (some (rx.store offset (port.input.take size.toNat)),
        port.received offset size.toNat) := by
  rw [serialRx, exec_bind_of_done (exec_receive delivered), exec_pure]

/-- A read of bytes that do not arrive blocks. -/
theorem exec_serialRx_stuck
    (rx : Memory)
    (offset : Nat)
    {size : UInt8}
    (port : Port signature ε)
    (missing : port.input.length < size.toNat) :
    exec world (serialRx rx offset size) port =
      (none, port.waiting offset size.toNat) := by
  rw [serialRx, exec_bind_of_stuck (exec_receive_stuck missing)]

/-- The number of bytes that `recv_packet_body` asks for. -/
def bodyRequest (rx : Memory) : Nat :=
  (packetGetSize rx - 4).toNat

theorem exec_recvPacketHeader
    (rx : Memory)
    (port : Port signature ε)
    (delivered : 4 ≤ port.input.length) :
    exec world (recvPacketHeader rx) port =
      (some (headed rx port.input), port.received 0 4) :=
  exec_serialRx world rx 0 port delivered

/-- Without a whole header the call blocks in its first read. -/
theorem exec_communicationRecv_short
    (globalId : UInt8)
    (rx : Memory)
    (port : Port signature ε)
    (short : port.input.length < 4) :
    exec world (communicationRecv globalId rx) port =
      (none, port.waiting 0 4) :=
  exec_bind_of_stuck (exec_serialRx_stuck world rx 0 port short)

/-- A refused header is reported without reading on. -/
theorem exec_communicationRecv_refused
    {globalId : UInt8}
    {rx : Memory}
    (port : Port signature ε)
    (delivered : 4 ≤ port.input.length)
    (refused :
      packetHeaderSanity globalId (headed rx port.input) ≠ .success) :
    exec world (communicationRecv globalId rx) port =
      (some
        (packetHeaderSanity globalId (headed rx port.input),
          headed rx port.input),
        port.received 0 4) := by
  rw [communicationRecv,
    exec_bind_of_done (exec_recvPacketHeader world rx port delivered)]
  simp only [refused, ne_eq, not_false_eq_true, ↓reduceIte, exec_pure]

/-- Past the header check, a body that does not arrive blocks the call. -/
theorem exec_communicationRecv_stuck
    {globalId : UInt8}
    {rx : Memory}
    (port : Port signature ε)
    (delivered : 4 ≤ port.input.length)
    (passed :
      packetHeaderSanity globalId (headed rx port.input) = .success)
    (missing :
      port.input.length - 4 < bodyRequest (headed rx port.input)) :
    exec world (communicationRecv globalId rx) port =
      (none,
        (port.received 0 4).waiting headerSize
          (bodyRequest (headed rx port.input))) := by
  have blocked :=
    exec_serialRx_stuck world (headed rx port.input)
      headerSize (port.received 0 4)
      (by simpa [Port.received, bodyRequest] using missing)
  rw [communicationRecv,
    exec_bind_of_done (exec_recvPacketHeader world rx port delivered)]
  simp only [passed, ne_eq, not_true_eq_false, ↓reduceIte]
  exact exec_bind_of_stuck blocked

/-- Past the header check, a body that has arrived is checked as a whole. -/
theorem exec_communicationRecv_whole
    {globalId : UInt8}
    {rx : Memory}
    (port : Port signature ε)
    (delivered : 4 ≤ port.input.length)
    (passed :
      packetHeaderSanity globalId (headed rx port.input) = .success)
    (arrived :
      bodyRequest (headed rx port.input) ≤ port.input.length - 4) :
    exec world (communicationRecv globalId rx) port =
      (some
        (packetSanity
          ((headed rx port.input).store headerSize
            ((port.input.drop 4).take
              (bodyRequest (headed rx port.input)))),
          (headed rx port.input).store headerSize
            ((port.input.drop 4).take
              (bodyRequest (headed rx port.input)))),
        (port.received 0 4).received headerSize
          (bodyRequest (headed rx port.input))) := by
  have stored :=
    exec_serialRx world (headed rx port.input)
      headerSize (port.received 0 4)
      (by simpa [Port.received, bodyRequest] using arrived)
  rw [communicationRecv,
    exec_bind_of_done (exec_recvPacketHeader world rx port delivered)]
  simp only [passed, ne_eq, not_true_eq_false, ↓reduceIte]
  rw [recvPacketBody, exec_bind_of_done stored]
  rfl

end Execution

/-! ## Memory written by one call -/

/-- The header check bounds the size field from above. -/
theorem size_le_of_packetHeaderSanity
    {globalId : UInt8}
    {rx : Memory}
    (passed : packetHeaderSanity globalId rx = .success) :
    (packetGetSize rx).toNat ≤ packetSize := by
  simp only [packetHeaderSanity] at passed
  split at passed
  · cases passed
  · split at passed
    · cases passed
    · next small =>
        exact Nat.not_lt.mp small

/-- The wrapping body count fits behind the header for sizes from 4 to 37. -/
theorem bodyRequest_inside_iff
    {rx : Memory}
    (bounded : (packetGetSize rx).toNat ≤ packetSize) :
    headerSize + bodyRequest rx ≤ packetSize ↔
      4 ≤ packetGetSize rx := by
  have sizeLimit : (packetGetSize rx).toNat < 256 :=
    (packetGetSize rx).toNat_lt
  simp only [bodyRequest, headerSize, packetSize, bodyMaxLen, crcSize,
    UInt8.le_iff_toNat_le, UInt8.toNat_sub, UInt8.reduceToNat]
    at bounded ⊢
  omega

/--
A header that passes the check announces at least its own four bytes.  The code
does not test this.
-/
def SizeCoversHeader
    (globalId : UInt8)
    (rx : Memory)
    (arrived : List UInt8) : Prop :=
  4 ≤ arrived.length →
    packetHeaderSanity globalId (headed rx arrived) = .success →
    4 ≤ packetGetSize (headed rx arrived)

/--
The byte counts that `communication_recv` passes to `serial_rx` keep all stores
inside the packet object exactly when no header with a size below four passes
the header check.
-/
theorem communicationRecv_requestsInside_iff
    (world : World signature ε)
    (globalId : UInt8)
    (rx : Memory)
    (arrived : List UInt8)
    (env : ε) :
    (exec world (communicationRecv globalId rx)
        (Port.start arrived env)).2.RequestsInside packetSize ↔
      SizeCoversHeader globalId rx arrived := by
  have headerInside : 0 + 4 ≤ packetSize := by
    decide
  by_cases delivered : 4 ≤ arrived.length
  · by_cases passed :
        packetHeaderSanity globalId (headed rx arrived) = .success
    · have bodyInside :=
        bodyRequest_inside_iff (size_le_of_packetHeaderSanity passed)
      have requested :
          (exec world (communicationRecv globalId rx)
              (Port.start arrived env)).2.requests =
            [(0, 4), (headerSize, bodyRequest (headed rx arrived))] := by
        by_cases bodyArrived :
            bodyRequest (headed rx arrived) ≤ arrived.length - 4
        · rw [exec_communicationRecv_whole world
            (Port.start arrived env) delivered passed bodyArrived]
          rfl
        · rw [exec_communicationRecv_stuck world
            (Port.start arrived env) delivered passed
            (Nat.not_le.mp bodyArrived)]
          rfl
      simp [Port.RequestsInside, requested, headerInside,
        SizeCoversHeader, delivered, passed, bodyInside]
    · rw [exec_communicationRecv_refused world
        (Port.start arrived env) delivered passed]
      simp [Port.RequestsInside, Port.received, Port.start,
        headerInside, SizeCoversHeader, passed]
  · rw [exec_communicationRecv_short world globalId rx
      (Port.start arrived env) (Nat.not_le.mp delivered)]
    simp [Port.RequestsInside, Port.waiting, Port.start,
      headerInside, SizeCoversHeader, delivered]

/-- Surroundings for a call that neither sends nor asks anything. -/
def closedWorld : World signature Unit where
  answer query env :=
    match query with
    | .twiSend _ _ => ((), env)
    | .twiRecv _ _ => (⟨[], Nat.zero_le _⟩, env)
    | .uninitialised => (fun _ => 0, env)
  react _ env := some ([], env)
  expecting := false
  flushable := false

/--
An acknowledgement header with size field 3 makes the master ask for 255 bytes
behind the header.
-/
theorem communicationRecv_requests_outside :
    ¬ (exec closedWorld (communicationRecv 0 fun _ => 0)
        (Port.start [0, 2, 0, 3] ())).2.RequestsInside packetSize := by
  intro inside
  have requested :
      (4, 255) ∈
        (exec closedWorld (communicationRecv 0 fun _ => 0)
          (Port.start [0, 2, 0, 3] ())).2.requests := by
    decide
  exact absurd (inside _ requested) (by decide)

end Ammc.Master

namespace Ammc.Packet.Datagram

open ByteMemory Serial Master

/-! ## Packets read whole -/

/-- The id check lets the datagram through. -/
def Admitted
    (packet : Datagram)
    (globalId : UInt8) : Prop :=
  packet.id = globalId ∨
    (packet.type = ComType.hnd.code ∧ packet.id = 0)

instance (packet : Datagram) (globalId : UInt8) :
    Decidable (packet.Admitted globalId) :=
  inferInstanceAs (Decidable (_ ∨ _))

/-- What the checks on the whole packet say about a datagram. -/
def verdict (packet : Datagram) : ComError :=
  if packet.type ≥ ComType.limit.code then
    .wrongType
  else if crcCheck packet.bytes ≠ 0 then
    .corruptedChecksum
  else
    .success

/-- The header check is the id check: every datagram is short enough. -/
theorem packetHeaderSanity_withHeader
    (packet : Datagram)
    (globalId : UInt8)
    (rx : Memory) :
    packetHeaderSanity globalId (packet.withHeader rx) =
      if packet.Admitted globalId then .success else .idMismatch := by
  have fits := packet.fits
  have bounded :
      ¬ packet.size.toNat > headerSize + bodyMaxLen + crcSize := by
    rw [size_toNat]
    simp only [headerSize, bodyMaxLen, crcSize]
    omega
  change
    (if packet.id ≠ globalId ∧
        (packet.type ≠ ComType.hnd.code ∨ packet.id ≠ 0) then
      ComError.idMismatch
    else if packet.size.toNat > headerSize + bodyMaxLen + crcSize then
      ComError.tooBig
    else
      ComError.success) = _
  rw [if_neg bounded]
  by_cases admitted : packet.Admitted globalId
  · rw [if_pos admitted, if_neg]
    rintro ⟨otherId, notHandshake⟩
    rcases admitted with sameId | ⟨handshake, zeroId⟩
    · exact otherId sameId
    · rcases notHandshake with otherType | nonzeroId
      · exact otherType handshake
      · exact nonzeroId zeroId
  · rw [if_neg admitted, if_pos]
    refine ⟨fun sameId => admitted (Or.inl sameId), ?_⟩
    by_contra handshake
    simp only [ne_eq, not_or, not_not] at handshake
    exact admitted (Or.inr handshake)

/-- The second read asks for what follows the header. -/
theorem bodyRequest_withHeader
    (packet : Datagram)
    (rx : Memory) :
    bodyRequest (packet.withHeader rx) = packet.rest.length := by
  have sizeValue := packet.size_toNat
  have fits := packet.fits
  have sizeField :
      packetGetSize (packet.withHeader rx) = packet.size :=
    rfl
  simp only [bodyRequest, sizeField, UInt8.toNat_sub, sizeValue,
    UInt8.reduceToNat]
  omega

/-- The packet checks judge the datagram's bytes. -/
theorem packetSanity_landed
    (packet : Datagram)
    (rx : Memory) :
    packetSanity (packet.landed rx) = packet.verdict := by
  have typeField : packetGetType (packet.landed rx) = packet.type :=
    packet.landed_header rx (by decide)
  have sizeField : packetGetSize (packet.landed rx) = packet.size :=
    packet.landed_header rx (by decide)
  rw [packetSanity, verdict, typeField, sizeField, bytes_landed]

end Ammc.Packet.Datagram

namespace Ammc.Master

open ByteMemory Serial Packet

/-- The port has at least the datagram's bytes delivered. -/
theorem length_le_of_input
    (packet : Datagram)
    {port : Port signature ε}
    {tail : List UInt8}
    (input : port.input = packet.bytes ++ tail) :
    packet.rest.length + 4 ≤ port.input.length := by
  rw [input, List.length_append, packet.length_bytes]
  exact Nat.le_add_right _ _

/-- `communication_recv` on a datagram that the id check refuses. -/
theorem exec_communicationRecv_datagram_refused
    (world : World signature ε)
    {globalId : UInt8}
    (rx : Memory)
    (packet : Datagram)
    {tail : List UInt8}
    (port : Port signature ε)
    (input : port.input = packet.bytes ++ tail)
    (refused : ¬ packet.Admitted globalId) :
    exec world (communicationRecv globalId rx) port =
      (some (.idMismatch, packet.withHeader rx), port.received 0 4) := by
  have sane := packet.packetHeaderSanity_withHeader globalId rx
  rw [if_neg refused] at sane
  have header : headed rx port.input = packet.withHeader rx := by
    rw [input, packet.headed_bytes]
  have delivered := length_le_of_input packet input
  rw [exec_communicationRecv_refused world port
    (by omega) (by simp [header, sane]), header, sane]

/-- `communication_recv` on a datagram that the id check lets through. -/
theorem exec_communicationRecv_datagram
    (world : World signature ε)
    {globalId : UInt8}
    (rx : Memory)
    (packet : Datagram)
    {tail : List UInt8}
    (port : Port signature ε)
    (input : port.input = packet.bytes ++ tail)
    (admitted : packet.Admitted globalId) :
    exec world (communicationRecv globalId rx) port =
      (some (packet.verdict, packet.landed rx),
        (port.received 0 4).received headerSize packet.rest.length) := by
  have sane := packet.packetHeaderSanity_withHeader globalId rx
  rw [if_pos admitted] at sane
  have header : headed rx port.input = packet.withHeader rx := by
    rw [input, packet.headed_bytes]
  have requested := packet.bodyRequest_withHeader rx
  have body :
      (port.input.drop 4).take packet.rest.length = packet.rest := by
    simp [input, Datagram.bytes, Datagram.header]
  have delivered := length_le_of_input packet input
  rw [exec_communicationRecv_whole world port (by omega)
    (by rw [header, sane]) (by rw [header, requested]; omega),
    header, requested, body]
  exact congrArg
    (fun verdict =>
      (some (verdict, packet.landed rx),
        (port.received 0 4).received headerSize packet.rest.length))
    (packet.packetSanity_landed rx)

/-! ## The accepted byte sequences -/

/--
The bytes are what `packet_craft` writes for some known type and some body,
under an id that the receiver expects.
-/
def IsCraftedImage
    (globalId : UInt8)
    (received : List UInt8) : Prop :=
  ∃ (p : Memory) (id type selector bodySize : UInt8)
      (body crafted : Memory),
    type < ComType.limit.code ∧
      bodySize.toNat ≤ bodyMaxLen ∧
      packetCraft p id type selector bodySize (some body) =
        (0, crafted) ∧
      received = crafted.bytes 0 (packetGetSize crafted).toNat ∧
      (id = globalId ∨ (type = ComType.hnd.code ∧ id = 0))

/-- The encoder's output, in terms of the bytes of the body. -/
theorem isCraftedImage_iff
    {globalId : UInt8}
    {received : List UInt8} :
    IsCraftedImage globalId received ↔
      ∃ (id type selector : UInt8) (content : List UInt8),
        type < ComType.limit.code ∧
          content.length ≤ bodyMaxLen ∧
          received = packetImage id type selector content ∧
          (id = globalId ∨ (type = ComType.hnd.code ∧ id = 0)) := by
  constructor
  · rintro ⟨p, id, type, selector, bodySize, body, crafted,
      knownType, fits, craftedOk, received, expected⟩
    obtain ⟨written, writtenOk, _, writtenBytes⟩ :=
      craft_of_craftable crc p id selector
        (craftable_of_body body fits knownType)
    have same : written = crafted := by
      have pairs := writtenOk.symm.trans craftedOk
      exact congrArg Prod.snd pairs
    subst written
    refine ⟨id, type, selector, body.bytes 0 bodySize.toNat,
      knownType, by simpa using fits, ?_, expected⟩
    rw [received, writtenBytes]
    rfl
  · rintro ⟨id, type, selector, content, knownType, fits,
      received, expected⟩
    have lengthByte :
        (UInt8.ofNat content.length).toNat = content.length := by
      simp only [bodyMaxLen] at fits
      simp only [UInt8.toNat_ofNat']
      omega
    have stored :
        (Memory.store (fun _ => 0) 0 content).bytes 0
            (UInt8.ofNat content.length).toNat = content := by
      rw [lengthByte, Memory.bytes_store_self]
    obtain ⟨crafted, craftedOk, _, craftedBytes⟩ :=
      craft_of_craftable crc (fun _ => 0) id selector
        (craftable_of_body (Memory.store (fun _ => 0) 0 content)
          (show (UInt8.ofNat content.length).toNat ≤ bodyMaxLen by
            rw [lengthByte]; exact fits)
          knownType)
    refine ⟨fun _ => 0, id, type, selector,
      UInt8.ofNat content.length,
      Memory.store (fun _ => 0) 0 content, crafted, knownType,
      by rw [lengthByte]; exact fits, craftedOk, ?_, expected⟩
    rw [received, craftedBytes, bodyBytes, stored]
    rfl

/-- `communication_recv` reports success for the bytes of a datagram. -/
def Accepts
    (world : World signature ε)
    (globalId : UInt8)
    (rx : Memory)
    (packet : Datagram)
    (env : ε) : Prop :=
  (exec world (communicationRecv globalId rx)
      (Port.start packet.bytes env)).1.map Prod.fst =
    some .success

/-- Acceptance is the id check, the type check and the checksum. -/
theorem accepts_iff
    (world : World signature ε)
    (globalId : UInt8)
    (rx : Memory)
    (packet : Datagram)
    (env : ε) :
    Accepts world globalId rx packet env ↔
      packet.Admitted globalId ∧
        packet.type < ComType.limit.code ∧
        crcCheck packet.bytes = 0 := by
  have input :
      (Port.start packet.bytes env : Port signature ε).input =
        packet.bytes ++ [] :=
    (List.append_nil _).symm
  by_cases admitted : packet.Admitted globalId
  · rw [Accepts, exec_communicationRecv_datagram world rx packet
      _ input admitted]
    by_cases knownType : packet.type < ComType.limit.code
    · have notAbove : ¬ packet.type ≥ ComType.limit.code :=
        UInt8.not_le.mpr knownType
      by_cases intact : crcCheck packet.bytes = 0
      · simp [Datagram.verdict, admitted, knownType, notAbove, intact]
      · simp [Datagram.verdict, intact, notAbove]
    · have above : packet.type ≥ ComType.limit.code :=
        UInt8.not_lt.mp knownType
      simp [Datagram.verdict, knownType, above]
  · rw [Accepts, exec_communicationRecv_datagram_refused world rx packet
      _ input admitted]
    simp [admitted]

/-- Comparing a datagram with an encoded packet, field by field. -/
theorem bytes_eq_packetImage_iff
    (packet : Datagram)
    (id type selector : UInt8)
    (content : List UInt8) :
    packet.bytes = packetImage id type selector content ↔
      packet.id = id ∧ packet.type = type ∧
        packet.selector = selector ∧
        ∃ checksum,
          packet.rest = content ++ [checksum] ∧
            crcCheck packet.bytes = 0 := by
  constructor
  · intro same
    have intact : crcCheck packet.bytes = 0 := by
      rw [same, packetImage, image, crcCheck_concat]
    simp only [Datagram.bytes, Datagram.header, packetImage, image,
      List.cons_append, List.nil_append, List.cons.injEq] at same
    exact ⟨same.1, same.2.1, same.2.2.1, _, same.2.2.2.2, intact⟩
  · rintro ⟨rfl, rfl, rfl, checksum, rest, intact⟩
    have sizeByte :
        packet.size = UInt8.ofNat (content.length + 5) := by
      rw [Datagram.size, rest, List.length_append]
      rfl
    have split :
        packet.bytes =
          ([packet.id, packet.type, packet.selector, packet.size] ++
            content) ++ [checksum] := by
      rw [Datagram.bytes, rest, List.append_assoc]
      rfl
    rw [split, crcCheck_concat] at intact
    rw [split, intact, packetImage, image, sizeByte]

/-- A bare header is too short to be an encoded packet. -/
theorem not_isCraftedImage_of_bare
    {globalId : UInt8}
    {packet : Datagram}
    (bare : packet.rest = []) :
    ¬ IsCraftedImage globalId packet.bytes := by
  rw [isCraftedImage_iff]
  rintro ⟨id, type, selector, content, _, _, same, _⟩
  have lengths := congrArg List.length same
  rw [packet.length_bytes, bare, packetImage, length_image] at lengths
  simp at lengths

/--
A header of four bytes with nothing behind it passes all checks: its own size
byte happens to be the checksum of the three bytes before it.
-/
def BareHeaderPasses
    (packet : Datagram)
    (globalId : UInt8) : Prop :=
  packet.rest = [] ∧
    packet.Admitted globalId ∧
    packet.type < ComType.limit.code ∧
    crcCheck packet.header = 0

/--
On a byte sequence that is read whole, `communication_recv` succeeds on the
encoder's output and nothing else, exactly when the sequence is not a bare
header that passes the checks.
-/
theorem communicationRecv_accepts_images_iff
    (world : World signature ε)
    (globalId : UInt8)
    (rx : Memory)
    (packet : Datagram)
    (env : ε) :
    (Accepts world globalId rx packet env ↔
        IsCraftedImage globalId packet.bytes) ↔
      ¬ BareHeaderPasses packet globalId := by
  rw [accepts_iff]
  rcases List.eq_nil_or_concat packet.rest with
    bare | ⟨content, checksum, rest⟩
  · have bareIff :
        BareHeaderPasses packet globalId ↔
          packet.Admitted globalId ∧
            packet.type < ComType.limit.code ∧
            crcCheck packet.bytes = 0 := by
      simp [BareHeaderPasses, bare, Datagram.bytes]
    rw [bareIff]
    exact iff_false_right (not_isCraftedImage_of_bare bare)
  · rw [List.concat_eq_append] at rest
    have fits : content.length ≤ bodyMaxLen := by
      have packetFits := packet.fits
      rw [rest, List.length_append, List.length_singleton] at packetFits
      exact Nat.le_of_succ_le_succ packetFits
    have notBare : ¬ BareHeaderPasses packet globalId := by
      rintro ⟨bare, _⟩
      simp [rest] at bare
    refine iff_of_true ?_ notBare
    rw [isCraftedImage_iff]
    constructor
    · rintro ⟨admitted, knownType, intact⟩
      exact ⟨packet.id, packet.type, packet.selector, content,
        knownType, fits,
        (bytes_eq_packetImage_iff packet _ _ _ _).mpr
          ⟨rfl, rfl, rfl, checksum, rest, intact⟩,
        admitted⟩
    · rintro ⟨id, type, selector, encoded, knownType, _, same, expected⟩
      obtain ⟨rfl, rfl, rfl, _, _, intact⟩ :=
        (bytes_eq_packetImage_iff packet _ _ _ _).mp same
      exact ⟨expected, knownType, intact⟩

/-- An `APPLY` header whose size byte 4 is the checksum of the other three. -/
def bareApply : Datagram where
  id := 0
  type := ComType.apply.code
  selector := 85
  rest := []
  fits := by decide

/-- The four bytes of `bareApply` are accepted although no encoder writes them. -/
theorem bareApply_accepted :
    ¬ (Accepts closedWorld 0 (fun _ => 0) bareApply () ↔
        IsCraftedImage 0 bareApply.bytes) := by
  intro same
  have accepted : Accepts closedWorld 0 (fun _ => 0) bareApply () :=
    (accepts_iff _ _ _ _ _).mpr
      ⟨Or.inl rfl, by decide, by decide⟩
  exact not_isCraftedImage_of_bare rfl (same.mp accepted)

end Ammc.Master
