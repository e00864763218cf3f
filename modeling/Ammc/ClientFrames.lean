import Ammc.ClientReceive
import Ammc.Datagram

namespace Ammc.Client

open ByteMemory Serial Packet

/-!
# Whole packets in the client

What a receive attempt does when the bytes that arrive are a packet as long as
its own size field says.
-/

section Execution

variable {ε : Type}
variable {world : World signature ε}
variable {fd : Int}

/-- The subtraction of the header size does not wrap on a datagram. -/
theorem bodyCount_size (packet : Datagram) :
    bodyCount packet.size = packet.rest.length := by
  have fits := packet.fits
  rw [bodyCount, packet.size_toNat]
  omega

/-- The bytes of a datagram fill the packet object. -/
theorem filled_bytes
    (packet : Datagram)
    (p : Memory)
    (tail : List UInt8) :
    filled p (packet.bytes ++ tail) = packet.landed p := by
  have sizeField :
      packetGetSize (headed p (packet.bytes ++ tail)) = packet.size :=
    rfl
  rw [filled, sizeField, bodyCount_size, packet.headed_bytes]
  simp [Datagram.landed, Datagram.bytes, Datagram.header, headerSize]

/-- What the checksum test says about a datagram. -/
def datagramResult (packet : Datagram) : ComError :=
  if crcCheck packet.bytes ≠ 0 then .corruptedChecksum else .success

/-- The port once a datagram has been read and checked. -/
def portChecked
    (packet : Datagram)
    (tail : List UInt8)
    (port : Port signature ε) : Port signature ε :=
  { port with
    input := tail
    requests :=
      port.requests ++
        [(0, headerSize), (headerSize, packet.rest.length)]
    read := port.read + packet.bytes.length
    log :=
      port.log ++
        [⟨.checked (packet.rest.length + 4),
          port.read + packet.bytes.length, port.written⟩] }

/-- A datagram with the expected id is read whole and checked. -/
theorem exec_recvAttempt_datagram
    (connected : Connected world fd)
    (packet : Datagram)
    (p : Memory)
    {tail : List UInt8}
    {port : Port signature ε}
    (input : port.input = packet.bytes ++ tail) :
    exec world (recvAttempt packet.id fd p) port =
      (some (datagramResult packet, packet.landed p),
        portChecked packet tail port) := by
  have whole : packet.rest.length + 4 ≤ port.input.length := by
    rw [input, List.length_append, packet.length_bytes]
    exact Nat.le_add_right _ _
  have delivered : headerSize ≤ port.input.length := by
    simp only [headerSize]
    omega
  have sameId : packetGetId (headed p port.input) = packet.id := by
    rw [input]
    rfl
  have sizeField :
      packetGetSize (headed p port.input) = packet.size := by
    rw [input]
    rfl
  have arrived :
      bodyCount (packetGetSize (headed p port.input)) ≤
        port.input.length - headerSize := by
    rw [sizeField, bodyCount_size]
    simp only [headerSize]
    omega
  have landedSize :
      packetGetSize (packet.landed p) = packet.size :=
    packet.landed_header p (by decide)
  have checked :
      checksumResult (packet.landed p) = datagramResult packet := by
    rw [checksumResult, datagramResult, landedSize,
      packet.bytes_landed]
  rw [exec_recvAttempt_whole connected port delivered sameId arrived,
    sizeField, bodyCount_size, input, filled_bytes, checked, landedSize,
    packet.size_toNat]
  simp [portChecked, Port.noted, Port.received, input, Datagram.bytes,
    Datagram.header, headerSize, Nat.add_comm, Nat.add_left_comm]

/-- A datagram with another id is refused after its header. -/
theorem exec_recvAttempt_otherId
    (connected : Connected world fd)
    {globalId : UInt8}
    (packet : Datagram)
    (otherId : packet.id ≠ globalId)
    (p : Memory)
    {tail : List UInt8}
    {port : Port signature ε}
    (input : port.input = packet.bytes ++ tail) :
    exec world (recvAttempt globalId fd p) port =
      (some (.idMismatch, packet.withHeader p),
        port.received 0 headerSize) := by
  have delivered : headerSize ≤ port.input.length := by
    rw [input, List.length_append, packet.length_bytes]
    simp only [headerSize]
    omega
  have refused : packetGetId (headed p port.input) ≠ globalId := by
    rw [input]
    exact otherId
  rw [exec_recvAttempt_mismatch connected port delivered refused, input,
    packet.headed_bytes]

end Execution

end Ammc.Client
