import Ammc.ClientFrames
import Ammc.MasterReceive

namespace Ammc.Packet

open ByteMemory

/-!
# Packets from one encoder to the other decoder

Client and master have an encoder and a decoder each.  What one side crafts is
what the other side accepts, and the packet object that the receiver fills holds
the fields and the body that the sender was given.
-/

/-- The packet object holds the given type, selector and body. -/
structure Carries
    (type selector bodySize : UInt8)
    (body : Option Memory)
    (p : Memory) : Prop where
  sameType : packetGetType p = type
  sameSelector : packetGetSelector p = selector
  sameBodySize : packetGetBodySize p = bodySize
  sameBody :
    (packetBody p).bytes 0 bodySize.toNat = bodyBytes body bodySize

/-- The body behind the header of an encoded packet is the body given. -/
theorem bytes_packetBody_imageFrame
    (crc : List UInt8 → UInt8)
    (id type selector : UInt8)
    {content : List UInt8}
    (fits : content.length ≤ bodyMaxLen)
    (rx : Memory) :
    (packetBody
        ((imageFrame crc id type selector content fits).landed rx)).bytes 0
          content.length =
      content := by
  have inRest :
      content.length ≤
        (imageFrame crc id type selector content fits).rest.length := by
    rw [imageFrame, List.length_append]
    exact Nat.le_add_right _ _
  rw [Datagram.bytes_packetBody_landed _ _ inRest]
  exact List.take_left

namespace Craftable

variable {type bodySize : UInt8} {body : Option Memory}

theorem bodyBytes_fit
    (craftable : Craftable type body bodySize) :
    (bodyBytes body bodySize).length ≤ bodyMaxLen := by
  rw [craftable.length_bodyBytes]
  exact craftable.fits

/-- The packet that an encoder writes for craftable arguments. -/
def frame
    (craftable : Craftable type body bodySize)
    (crc : List UInt8 → UInt8)
    (id selector : UInt8) : Frame :=
  imageFrame crc id type selector (bodyBytes body bodySize)
    craftable.bodyBytes_fit

/-- A receiver that stores the packet has the sender's fields. -/
theorem carries_landed
    (craftable : Craftable type body bodySize)
    (crc : List UInt8 → UInt8)
    (id selector : UInt8)
    (rx : Memory) :
    Carries type selector bodySize body
      ((craftable.frame crc id selector).landed rx) where
  sameType :=
    (craftable.frame crc id selector).landed_header rx (by decide)
  sameSelector :=
    (craftable.frame crc id selector).landed_header rx (by decide)
  sameBodySize := by
    apply UInt8.toNat_inj.mp
    have length := craftable.length_bodyBytes
    rw [Frame.bodySize_landed, frame, imageFrame, List.length_append,
      List.length_singleton, Nat.add_sub_cancel, length]
  sameBody := by
    have read :=
      bytes_packetBody_imageFrame crc id type selector
        craftable.bodyBytes_fit rx
    have count :=
      congrArg
        ((packetBody
          ((craftable.frame crc id selector).landed rx)).bytes 0)
        craftable.length_bodyBytes
    exact count.symm.trans read

end Craftable

end Ammc.Packet

namespace Ammc.Exchange

open ByteMemory Serial Packet

/-- The master's verdict on a packet that the client has crafted. -/
theorem verdict_imageFrame
    (id selector : UInt8)
    {type : UInt8}
    (knownType : type < ComType.limit.code)
    {body : List UInt8}
    (fits : body.length ≤ bodyMaxLen) :
    (imageFrame Client.crc id type selector body fits).verdict =
      .success := by
  have known :
      ¬ (imageFrame Client.crc id type selector body fits).type ≥
        ComType.limit.code :=
    UInt8.not_le.mpr knownType
  have intact :
      Master.crcCheck
        (imageFrame Client.crc id type selector body fits).bytes = 0 := by
    rw [bytes_imageFrame, image, Master.crcCheck_concat]
    exact Crc.client_crc_eq_master_crc _
  rw [Datagram.verdict, if_neg known, intact]
  rfl

/-- The client's judgement of a packet that the master has crafted. -/
theorem datagramResult_masterFrame
    (id type selector : UInt8)
    {body : List UInt8}
    (fits : body.length ≤ bodyMaxLen) :
    Client.datagramResult
        (imageFrame Master.crc id type selector body fits).toDatagram =
      .success := by
  have intact :
      Client.crcCheck
        (imageFrame Master.crc id type selector body fits).bytes = 0 := by
    rw [bytes_imageFrame, image, Client.crcCheck_concat]
    exact (Crc.client_crc_eq_master_crc _).symm
  rw [Client.datagramResult, intact]
  rfl

/--
The master's `communication_recv` accepts the bytes from any line on which they
come next, and leaves a packet object of which `holds` is true.
-/
def MasterAccepts
    (globalId : UInt8)
    (bytes : List UInt8)
    (holds : Memory → Prop) : Prop :=
  ∀ (ε : Type) (world : World Master.signature ε) (rx : Memory)
      (port : Port Master.signature ε) (tail : List UInt8),
    port.input = bytes ++ tail →
      ∃ received after,
        exec world (Master.communicationRecv globalId rx) port =
            (some (.success, received), after) ∧
          after.input = tail ∧ holds received

/--
The client's `_recv_attempt` accepts the bytes from any line on which they come
next, and leaves a packet object of which `holds` is true.
-/
def ClientAccepts
    (globalId : UInt8)
    (bytes : List UInt8)
    (holds : Memory → Prop) : Prop :=
  ∀ (ε : Type) (world : World Client.signature ε) (fd : Int)
      (p : Memory) (port : Port Client.signature ε)
      (tail : List UInt8),
    Client.Connected world fd →
      port.input = bytes ++ tail →
        ∃ received after,
          exec world (Client.recvAttempt globalId fd p) port =
              (some (.success, received), after) ∧
            after.input = tail ∧ holds received

section RoundTrip

variable {type bodySize : UInt8} {body : Option Memory}

/-- What the client crafts is accepted by a master that expects its id. -/
theorem masterAccepts_frame
    (craftable : Craftable type body bodySize)
    {globalId id : UInt8}
    (selector : UInt8)
    (expected : id = globalId ∨ (type = ComType.hnd.code ∧ id = 0)) :
    MasterAccepts globalId
      (craftable.frame Client.crc id selector).bytes
      (Carries type selector bodySize body) := by
  intro ε world rx port tail input
  have received :=
    Master.exec_communicationRecv_datagram world rx
      (craftable.frame Client.crc id selector).toDatagram port input
      expected
  have verdict :
      (craftable.frame Client.crc id selector).verdict = .success :=
    verdict_imageFrame id selector craftable.knownType _
  rw [verdict] at received
  refine
    ⟨_, _, received, ?_,
      craftable.carries_landed Client.crc id selector rx⟩
  simp [Port.received, input, Datagram.bytes, Datagram.header]

/-- What the master crafts is accepted by a client that expects its id. -/
theorem clientAccepts_frame
    (craftable : Craftable type body bodySize)
    (id selector : UInt8) :
    ClientAccepts id
      (craftable.frame Master.crc id selector).bytes
      (Carries type selector bodySize body) := by
  intro ε world fd p port tail connected input
  have received :=
    Client.exec_recvAttempt_datagram connected
      (craftable.frame Master.crc id selector).toDatagram p input
  have judged :
      Client.datagramResult
          (craftable.frame Master.crc id selector).toDatagram =
        .success :=
    datagramResult_masterFrame id type selector _
  rw [judged] at received
  exact
    ⟨_, _, received, rfl,
      craftable.carries_landed Master.crc id selector p⟩

/-- The two encoders are the same function. -/
theorem packetCraft_client_eq_master
    (p : Memory)
    (id type selector : UInt8)
    (body : Option Memory)
    (bodySize : UInt8) :
    Client.packetCraft p id type selector body bodySize =
      Master.packetCraft p id type selector bodySize body := by
  have sameChecksum : Client.crc = Master.crc :=
    funext Crc.client_crc_eq_master_crc
  rw [Client.packetCraft, Master.packetCraft, sameChecksum]

/-- An encoder refuses exactly the arguments that are not craftable. -/
theorem craft_code_eq_zero_iff
    (crc : List UInt8 → UInt8)
    (p : Memory)
    (id type selector : UInt8)
    (body : Option Memory)
    (bodySize : UInt8) :
    (craft crc p id type selector body bodySize).1 = 0 ↔
      Craftable type body bodySize := by
  constructor
  · intro crafted
    rw [craft] at crafted
    split at crafted
    · cases crafted
    · rename_i admitted
      rw [not_or, not_or] at admitted
      obtain ⟨fits, given, known⟩ := admitted
      refine
        ⟨Nat.not_lt.mp fits, fun missing => ?_, UInt8.not_le.mp known⟩
      by_contra nonzero
      exact given ⟨by rw [missing]; rfl, nonzero⟩
  · intro craftable
    obtain ⟨_, crafted, _⟩ :=
      craft_of_craftable crc p id selector craftable
    rw [crafted]

/--
The encoders agree on every argument: they refuse the same ones and write the
same bytes for the others.  What the client writes is accepted by a master that
expects the id, or by any master when it is a handshake with id 0; what the
master writes is accepted by a client that expects the id.  The receiver ends up
with the type, the selector, the body size and the body of the sender.
-/
theorem packetCraft_round_trip
    (p : Memory)
    (id type selector : UInt8)
    (body : Option Memory)
    (bodySize : UInt8) :
    Client.packetCraft p id type selector body bodySize =
        Master.packetCraft p id type selector bodySize body ∧
      ((Client.packetCraft p id type selector body bodySize).1 = 0 ↔
        Craftable type body bodySize) ∧
      (Craftable type body bodySize →
        ∃ crafted,
          Client.packetCraft p id type selector body bodySize =
              (0, crafted) ∧
            (∀ globalId,
              id = globalId ∨ (type = ComType.hnd.code ∧ id = 0) →
                MasterAccepts globalId
                  (crafted.bytes 0 (packetGetSize crafted).toNat)
                  (Carries type selector bodySize body)) ∧
            ClientAccepts id
              (crafted.bytes 0 (packetGetSize crafted).toNat)
              (Carries type selector bodySize body)) := by
  refine
    ⟨packetCraft_client_eq_master p id type selector body bodySize,
      craft_code_eq_zero_iff Client.crc p id type selector body bodySize,
      fun craftable => ?_⟩
  obtain ⟨crafted, written, _, bytes⟩ :=
    craft_of_craftable Client.crc p id selector craftable
  have sameChecksum : Client.crc = Master.crc :=
    funext Crc.client_crc_eq_master_crc
  have fromClient :
      crafted.bytes 0 (packetGetSize crafted).toNat =
        (craftable.frame Client.crc id selector).bytes := by
    rw [bytes, Craftable.frame, bytes_imageFrame]
  have fromMaster :
      crafted.bytes 0 (packetGetSize crafted).toNat =
        (craftable.frame Master.crc id selector).bytes := by
    rw [fromClient, sameChecksum]
  refine ⟨crafted, written, fun globalId expected => ?_, ?_⟩
  · rw [fromClient]
    exact masterAccepts_frame craftable selector expected
  · rw [fromMaster]
    exact clientAccepts_frame craftable id selector

end RoundTrip

end Ammc.Exchange
