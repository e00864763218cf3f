import Ammc.ByteMemory
import Ammc.Crc

namespace Ammc.Packet

open ByteMemory

/-!
# Packets

The packet layout, the packet types and the error codes shared by client and
master, the header getters, and the encoder.  The two `packet_craft` functions
differ in the order of their arguments and in the checksum copy they call;
`craft` is their common body.
-/

/-- `BODY_MAX_LEN` -/
def bodyMaxLen : Nat := 32

/-- `sizeof(header_t)` -/
def headerSize : Nat := 4

/-- `sizeof(crc_t)` -/
def crcSize : Nat := 1

/-- `PACKET_MIN_SIZE` -/
def packetMinSize : Nat := headerSize + crcSize

/-- `sizeof(packet_t)` -/
def packetSize : Nat := headerSize + (bodyMaxLen + crcSize)

/-- A speed fits into a body. -/
theorem two_le_bodyMaxLen : 2 ≤ bodyMaxLen := by
  decide

/-- Four delivered bytes are a header. -/
theorem exists_header
    {arrived : List UInt8}
    (delivered : headerSize ≤ arrived.length) :
    ∃ id type selector size rest,
      arrived = id :: type :: selector :: size :: rest := by
  match arrived, delivered with
  | id :: type :: selector :: size :: rest, _ =>
      exact ⟨id, type, selector, size, rest, rfl⟩

/-- `com_type_t` -/
inductive ComType where
  | null
  | hnd
  | ack
  | nak
  | echo
  | ping
  | getSpeed
  | setSpeed
  | apply
  | dat
  | setSlaveAddr
  | limit
  deriving Repr, DecidableEq

/-- The byte that stands for a packet type. -/
def ComType.code : ComType → UInt8
  | .null => 0x00
  | .hnd => 0x01
  | .ack => 0x02
  | .nak => 0x03
  | .echo => 0x04
  | .ping => 0x05
  | .getSpeed => 0x06
  | .setSpeed => 0x07
  | .apply => 0x08
  | .dat => 0x09
  | .setSlaveAddr => 0x0A
  | .limit => 0x0B

/-- `com_error_t` -/
inductive ComError where
  | success
  | idMismatch
  | corruptedChecksum
  | wrongType
  | tooBig
  | slaveNotFound
  deriving Repr, DecidableEq

/-- The byte that stands for an error code. -/
def ComError.code : ComError → UInt8
  | .success => 0
  | .idMismatch => 1
  | .corruptedChecksum => 2
  | .wrongType => 3
  | .tooBig => 4
  | .slaveNotFound => 5

/-- `packet_get_id` -/
def packetGetId (p : Memory) : UInt8 := p 0

/-- `packet_get_type` -/
def packetGetType (p : Memory) : UInt8 := p 1

/-- `packet_get_selector` -/
def packetGetSelector (p : Memory) : UInt8 := p 2

/-- `packet_get_size` -/
def packetGetSize (p : Memory) : UInt8 := p 3

/-- `packet_get_body_size`, whose result is narrowed to eight bits. -/
def packetGetBodySize (p : Memory) : UInt8 :=
  packetGetSize p - 4 - 1

/-- `p->body` -/
def packetBody (p : Memory) : Memory :=
  p.shift headerSize

/-- `packet_header` -/
def packetHeader
    (p : Memory)
    (id type selector size : UInt8) : Memory :=
  p.store 0 [id, type, selector, size]

/-- The packet object once the first four delivered bytes are stored in it. -/
def headed
    (p : Memory)
    (input : List UInt8) : Memory :=
  p.store 0 (input.take headerSize)

/--
The common body of the two `packet_craft` functions.  A null body is `none`;
the result is the return code and the memory of the packet.
-/
def craft
    (crc : List UInt8 → UInt8)
    (p : Memory)
    (id type selector : UInt8)
    (body : Option Memory)
    (bodySize : UInt8) : UInt8 × Memory :=
  if bodySize.toNat > bodyMaxLen ∨
      (body.isNone ∧ bodySize ≠ 0) ∨
      type ≥ ComType.limit.code then
    (1, p)
  else
    let size := 4 + bodySize + 1
    let headed := packetHeader p id type selector size
    let filled :=
      match body with
      | some source =>
          headed.store headerSize (source.bytes 0 bodySize.toNat)
      | none => headed
    let cksum :=
      crc (filled.bytes 0 ((packetGetSize filled).toNat - crcSize))
    (0, filled.store (headerSize + bodySize.toNat) [cksum])

/-- The bytes of a packet with the given fields, checksum included. -/
def image
    (crc : List UInt8 → UInt8)
    (id type selector : UInt8)
    (body : List UInt8) : List UInt8 :=
  [id, type, selector, UInt8.ofNat (body.length + 5)] ++ body ++
    [crc ([id, type, selector, UInt8.ofNat (body.length + 5)] ++ body)]

@[simp] theorem length_image
    (crc : List UInt8 → UInt8)
    (id type selector : UInt8)
    (body : List UInt8) :
    (image crc id type selector body).length = body.length + 5 := by
  simp [image]

/-- The arguments that `packet_craft` does not refuse. -/
structure Craftable
    (type : UInt8)
    (body : Option Memory)
    (bodySize : UInt8) : Prop where
  fits : bodySize.toNat ≤ bodyMaxLen
  bodyGiven : body = none → bodySize = 0
  knownType : type < ComType.limit.code

/-- The bytes that a body pointer and a size stand for. -/
def bodyBytes
    (body : Option Memory)
    (bodySize : UInt8) : List UInt8 :=
  match body with
  | some source => source.bytes 0 bodySize.toNat
  | none => []

/-- The size byte of a craftable packet does not overflow. -/
theorem Craftable.size_toNat
    {type : UInt8}
    {body : Option Memory}
    {bodySize : UInt8}
    (craftable : Craftable type body bodySize) :
    (4 + bodySize + 1).toNat = bodySize.toNat + 5 := by
  have fits : bodySize.toNat ≤ 32 := craftable.fits
  simp only [UInt8.toNat_add, UInt8.reduceToNat]
  omega

theorem Craftable.length_bodyBytes
    {type : UInt8}
    {body : Option Memory}
    {bodySize : UInt8}
    (craftable : Craftable type body bodySize) :
    (bodyBytes body bodySize).length = bodySize.toNat := by
  cases body with
  | some source =>
      simp [bodyBytes]
  | none =>
      simp [bodyBytes, craftable.bodyGiven rfl]

/-- A craftable packet is not refused. -/
theorem Craftable.not_refused
    {type : UInt8}
    {body : Option Memory}
    {bodySize : UInt8}
    (craftable : Craftable type body bodySize) :
    ¬ (bodySize.toNat > bodyMaxLen ∨
      (body.isNone ∧ bodySize ≠ 0) ∨
      type ≥ ComType.limit.code) := by
  rintro (tooLong | ⟨missing, nonzero⟩ | unknown)
  · exact Nat.not_lt.mpr craftable.fits tooLong
  · exact nonzero (craftable.bodyGiven (by simpa using missing))
  · exact absurd craftable.knownType (UInt8.not_lt.mpr unknown)

/-- The header and the body of a packet as `craft` lays them out. -/
private def filledWith
    (p : Memory)
    (header : List UInt8)
    (body : Option Memory)
    (bodySize : UInt8) : Memory :=
  match body with
  | some source =>
      (p.store 0 header).store headerSize
        (source.bytes 0 bodySize.toNat)
  | none => p.store 0 header

/-- The laid out memory starts with the header and the body. -/
private theorem bytes_filledWith
    (p : Memory)
    (header : List UInt8)
    {type : UInt8}
    {body : Option Memory}
    {bodySize : UInt8}
    (headerLength : header.length = headerSize)
    (craftable : Craftable type body bodySize) :
    (filledWith p header body bodySize).bytes 0
        (headerSize + bodySize.toNat) =
      header ++ bodyBytes body bodySize := by
  cases body with
  | some source =>
      have stored :=
        p.bytes_store_store header (source.bytes 0 bodySize.toNat)
      rw [headerLength, Memory.length_bytes] at stored
      exact stored
  | none =>
      have noBody : bodySize = 0 := craftable.bodyGiven rfl
      subst bodySize
      simp only [filledWith, bodyBytes, List.append_nil,
        ← headerLength, UInt8.toNat_zero, Nat.add_zero]
      exact p.bytes_store_self 0 header

/-- A craftable packet is written out as the image of its fields. -/
theorem craft_of_craftable
    (crc : List UInt8 → UInt8)
    (p : Memory)
    (id selector : UInt8)
    {type : UInt8}
    {body : Option Memory}
    {bodySize : UInt8}
    (craftable : Craftable type body bodySize) :
    ∃ crafted,
      craft crc p id type selector body bodySize = (0, crafted) ∧
        (packetGetSize crafted).toNat = bodySize.toNat + 5 ∧
        crafted.bytes 0 (packetGetSize crafted).toNat =
          image crc id type selector (bodyBytes body bodySize) := by
  have sizeValue := craftable.size_toNat
  have sizeByte :
      4 + bodySize + 1 =
        UInt8.ofNat ((bodyBytes body bodySize).length + 5) := by
    rw [craftable.length_bodyBytes, ← sizeValue, UInt8.ofNat_toNat]
  have laidOut :=
    bytes_filledWith p [id, type, selector, 4 + bodySize + 1]
      rfl craftable
  have sizeAt :
      filledWith p [id, type, selector, 4 + bodySize + 1]
        body bodySize 3 = 4 + bodySize + 1 := by
    cases body with
    | some source =>
        exact Memory.store_before _ _ (by decide)
    | none =>
        rfl
  have crafted :
      craft crc p id type selector body bodySize =
        (0,
          (filledWith p [id, type, selector, 4 + bodySize + 1]
            body bodySize).store (headerSize + bodySize.toNat)
            [crc ([id, type, selector, 4 + bodySize + 1] ++
              bodyBytes body bodySize)]) := by
    rw [craft, if_neg craftable.not_refused, ← laidOut]
    have covered :
        (packetGetSize
            (filledWith p [id, type, selector, 4 + bodySize + 1]
              body bodySize)).toNat - crcSize =
          headerSize + bodySize.toNat := by
      simp only [packetGetSize, sizeAt, sizeValue,
        headerSize, crcSize]
      omega
    rw [← covered]
    cases body <;> rfl
  have sizeKept :
      packetGetSize
          ((filledWith p [id, type, selector, 4 + bodySize + 1]
            body bodySize).store (headerSize + bodySize.toNat)
            [crc ([id, type, selector, 4 + bodySize + 1] ++
              bodyBytes body bodySize)]) =
        4 + bodySize + 1 := by
    rw [packetGetSize,
      Memory.store_before _ _ (by simp only [headerSize]; omega)]
    exact sizeAt
  refine ⟨_, crafted, ?_, ?_⟩
  · rw [sizeKept, sizeValue]
  · have split :
        bodySize.toNat + 5 =
          headerSize + bodySize.toNat + [crc
            ([id, type, selector, 4 + bodySize + 1] ++
              bodyBytes body bodySize)].length := by
      simp only [headerSize, List.length_singleton]
      omega
    rw [sizeKept, sizeValue, split, Memory.bytes_add,
      Memory.bytes_store_before _ _ (by omega), laidOut,
      Nat.zero_add, Memory.bytes_store_self, image, sizeByte]

/-- A given body of at most `BODY_MAX_LEN` bytes is craftable. -/
theorem craftable_of_body
    {type bodySize : UInt8}
    (source : Memory)
    (fits : bodySize.toNat ≤ bodyMaxLen)
    (knownType : type < ComType.limit.code) :
    Craftable type (some source) bodySize where
  fits := fits
  bodyGiven missing := by cases missing
  knownType := knownType

/-- A packet without a body is craftable. -/
theorem craftable_of_none
    {type : UInt8}
    (knownType : type < ComType.limit.code) :
    Craftable type none 0 where
  fits := Nat.zero_le _
  bodyGiven _ := rfl
  knownType := knownType

end Ammc.Packet
