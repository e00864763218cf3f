import Ammc.MasterSerial

namespace Ammc.Master

open ByteMemory Serial Packet

/-!
# The master's communication layer

`communication_send`, the packet checks and `communication_recv`.  The variable
`packet_global_id` is a parameter here; the handler owns it.
-/

/-- `packet_global_id_increment` -/
def packetGlobalIdIncrement (globalId : UInt8) : UInt8 :=
  UInt8.ofNat ((globalId.toNat + 1) % 0xFF)

/-- `communication_send` -/
def communicationSend
    (globalId type selector bodySize : UInt8)
    (body : Option Memory) : MasterProg Unit := do
  let uninitialised ← ask .uninitialised
  let p :=
    (packetCraft uninitialised globalId type selector bodySize body).2
  let _ ← serialTx p (packetGetSize p)

/-- `packet_header_sanity` -/
def packetHeaderSanity
    (globalId : UInt8)
    (p : Memory) : ComError :=
  let id := packetGetId p
  let type := packetGetType p
  let size := packetGetSize p
  if id ≠ globalId ∧ (type ≠ ComType.hnd.code ∨ id ≠ 0) then
    .idMismatch
  else if size.toNat > headerSize + bodyMaxLen + crcSize then
    .tooBig
  else
    .success

/-- `packet_sanity` -/
def packetSanity (p : Memory) : ComError :=
  if packetGetType p ≥ ComType.limit.code then
    .wrongType
  else if crcCheck (p.bytes 0 (packetGetSize p).toNat) ≠ 0 then
    .corruptedChecksum
  else
    .success

/-- `recv_packet_header` -/
def recvPacketHeader (rx : Memory) : MasterProg Memory :=
  serialRx rx 0 4

/-- `recv_packet_body`, whose byte count wraps below zero. -/
def recvPacketBody (rx : Memory) : MasterProg Memory :=
  let bodySize := packetGetSize rx - 4
  serialRx rx headerSize bodySize

/-- `communication_recv` -/
def communicationRecv
    (globalId : UInt8)
    (rx : Memory) : MasterProg (ComError × Memory) := do
  let rx ← recvPacketHeader rx
  let headerSanity := packetHeaderSanity globalId rx
  if headerSanity ≠ .success then
    return (headerSanity, rx)
  let rx ← recvPacketBody rx
  return (packetSanity rx, rx)

end Ammc.Master
