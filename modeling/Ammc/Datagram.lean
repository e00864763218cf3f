import Ammc.Packet

namespace Ammc.Packet

open ByteMemory

/-!
# Whole packets on the wire

A datagram is a byte sequence that a receiver reads in two parts, the header and
as many further bytes as the size field announces.  It need not be a packet that
an encoder has written.
-/

/--
A byte sequence that is as long as its own size field says: the four header
bytes and at most 33 more.
-/
structure Datagram where
  id : UInt8
  type : UInt8
  selector : UInt8
  rest : List UInt8
  fits : rest.length ≤ 33

namespace Datagram

/-- The size field of a datagram. -/
def size (packet : Datagram) : UInt8 :=
  UInt8.ofNat (packet.rest.length + 4)

/-- The header bytes of a datagram. -/
def header (packet : Datagram) : List UInt8 :=
  [packet.id, packet.type, packet.selector, packet.size]

/-- All bytes of a datagram. -/
def bytes (packet : Datagram) : List UInt8 :=
  packet.header ++ packet.rest

/-- The packet object after the header of a datagram has been stored. -/
def withHeader
    (packet : Datagram)
    (rx : Memory) : Memory :=
  rx.store 0 packet.header

/-- The packet object after all of a datagram has been stored. -/
def landed
    (packet : Datagram)
    (rx : Memory) : Memory :=
  (packet.withHeader rx).store headerSize packet.rest

theorem size_toNat (packet : Datagram) :
    packet.size.toNat = packet.rest.length + 4 := by
  have fits := packet.fits
  simp only [size, UInt8.toNat_ofNat']
  omega

@[simp] theorem length_bytes (packet : Datagram) :
    packet.bytes.length = packet.rest.length + 4 := by
  simp [bytes, header]

/-- The header of a datagram is what the first read stores. -/
theorem headed_bytes
    (packet : Datagram)
    (rx : Memory)
    (tail : List UInt8) :
    headed rx (packet.bytes ++ tail) = packet.withHeader rx :=
  rfl

/-- Stores behind the header keep the header fields. -/
theorem landed_header
    (packet : Datagram)
    (rx : Memory)
    {position : Nat}
    (inHeader : position < 4) :
    packet.landed rx position = packet.withHeader rx position :=
  Memory.store_before _ _ inHeader

/-- The object holds the datagram's bytes. -/
theorem bytes_landed
    (packet : Datagram)
    (rx : Memory) :
    (packet.landed rx).bytes 0 packet.size.toNat = packet.bytes := by
  have stored := rx.bytes_store_store packet.header packet.rest
  rw [size_toNat, Nat.add_comm]
  exact stored

end Datagram

/-- The bytes behind the header are found in the packet's body. -/
theorem Datagram.bytes_packetBody_landed
    (packet : Datagram)
    (rx : Memory)
    {count : Nat}
    (inRest : count ≤ packet.rest.length) :
    (packetBody (packet.landed rx)).bytes 0 count =
      packet.rest.take count := by
  obtain ⟨left, split⟩ := Nat.exists_eq_add_of_le inRest
  have stored :=
    (packet.withHeader rx).bytes_store_self headerSize packet.rest
  rw [split, Memory.bytes_add] at stored
  rw [← stored]
  simp [packetBody, Datagram.landed]

/-- A complete packet: at least the checksum follows the header. -/
structure Frame extends Datagram where
  closed : rest ≠ []

/-- The body of a complete packet is what precedes its checksum. -/
theorem Frame.bodySize_landed
    (frame : Frame)
    (rx : Memory) :
    (packetGetBodySize (frame.landed rx)).toNat =
      frame.rest.length - 1 := by
  have sizeField : packetGetSize (frame.landed rx) = frame.size :=
    frame.landed_header rx (by decide)
  have sizeValue := frame.size_toNat
  have nonempty := List.length_pos_iff.mpr frame.closed
  have fits := frame.fits
  simp only [packetGetBodySize, sizeField, UInt8.toNat_sub,
    UInt8.reduceToNat, sizeValue]
  omega

/-- The complete packet that an encoder writes for the given fields. -/
def imageFrame
    (crc : List UInt8 → UInt8)
    (id type selector : UInt8)
    (body : List UInt8)
    (fits : body.length ≤ bodyMaxLen) : Frame where
  id := id
  type := type
  selector := selector
  rest :=
    body ++
      [crc ([id, type, selector, UInt8.ofNat (body.length + 5)] ++ body)]
  fits := by
    simp only [List.length_append, List.length_singleton]
    exact Nat.succ_le_succ fits
  closed := by
    simp

theorem bytes_imageFrame
    (crc : List UInt8 → UInt8)
    (id type selector : UInt8)
    {body : List UInt8}
    (fits : body.length ≤ bodyMaxLen) :
    (imageFrame crc id type selector body fits).bytes =
      image crc id type selector body := by
  have sizeByte :
      (imageFrame crc id type selector body fits).size =
        UInt8.ofNat (body.length + 5) := by
    simp only [imageFrame, Datagram.size, List.length_append,
      List.length_singleton]
  rw [Datagram.bytes, Datagram.header, sizeByte, image,
    List.append_assoc]
  rfl

end Ammc.Packet
