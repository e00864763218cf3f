import Mathlib.Algebra.Group.Nat.Defs
import Ammc.ClientSerial

namespace Ammc.Client

open ByteMemory Serial Packet

/-!
# The client's communication layer

The variable `packet_global_id` is passed in and returned with each result.
-/

/-- `packet_next_id` -/
def packetNextId (current : UInt8) : UInt8 :=
  UInt8.ofNat ((current.toNat + 1) % 0xFF)

/-- A return code, and `packet_global_id` at the return. -/
structure Outcome where
  code : Int
  globalId : UInt8
  deriving Repr, DecidableEq

/-- `size - sizeof(header_t)`, a `size_t` that wraps below zero. -/
def bodyCount (size : UInt8) : Nat :=
  (size.toNat + 2 ^ 64 - 4) % 2 ^ 64

/-- `_recv_attempt` -/
def recvAttempt
    (globalId : UInt8)
    (fd : Int)
    (p : Memory) : ClientProg (ComError × Memory) := do
  let (_, p) ← serialRx fd p 0 headerSize
  let id := packetGetId p
  let size := packetGetSize p
  if id ≠ globalId then
    return (.idMismatch, p)
  let (_, p) ← serialRx fd p headerSize (bodyCount size)
  let wrong ← packetCheckCrc p
  return (if wrong ≠ 0 then .corruptedChecksum else .success, p)

/-- `_transmit_packet` -/
def transmitPacket
    (fd : Int)
    (p : Memory) : ClientProg Unit := do
  serialRxFlush fd
  record .transmitting
  let _ ← serialTx fd p (packetGetSize p).toNat

/-- `communication_send` -/
def communicationSend
    (globalId : UInt8)
    (fd : Int)
    (p : Memory) : ClientProg Outcome := do
  let size := packetGetSize p
  if fd = 0 ∨ size = 0 ∨ size.toNat > packetSize then
    return { code := 1, globalId := globalId }
  transmitPacket fd p
  let response ← ask .uninitialised
  let (ret, response) ← recvAttempt globalId fd response
  record (.attempted ret)
  if ret = .success ∧ packetGetType response = ComType.ack.code then
    record (.returned 0)
    return { code := 0, globalId := packetNextId globalId }
  record (.returned 1)
  return { code := 1, globalId := 0 }

/-- `communication_recv`, with the packet object it leaves behind. -/
def communicationRecv
    (globalId : UInt8)
    (fd : Int)
    (p : Memory) : ClientProg (Outcome × Memory) := do
  if fd = 0 then
    return ({ code := 1, globalId := globalId }, p)
  let response ← ask .uninitialised
  let (ret, p) ← recvAttempt globalId fd p
  record (.attempted ret)
  match ret with
  | .success => do
      let response := (packetAck p response).2
      let _ ← serialTx fd response packetMinSize
      return ({ code := 0, globalId := packetNextId globalId }, p)
  | .idMismatch | .corruptedChecksum => do
      let response := (packetNak p response).2
      let _ ← serialTx fd response packetMinSize
      return ({ code := 1, globalId := globalId }, p)
  | _ =>
      return ({ code := 1, globalId := globalId }, p)

/-- `communication_craft_and_send` -/
def communicationCraftAndSend
    (globalId : UInt8)
    (fd : Int)
    (type selector : UInt8)
    (data : Option Memory)
    (dataSize : UInt8) : ClientProg Outcome := do
  let p ← ask .uninitialised
  let (ret, p) := packetCraft p globalId type selector data dataSize
  if ret ≠ 0 then
    return { code := 1, globalId := globalId }
  communicationSend globalId fd p

/-- `communication_connect` -/
def communicationConnect (fd : Int) : ClientProg Outcome := do
  let sent ← communicationCraftAndSend 0 fd ComType.hnd.code 0 none 0
  return { sent with code := if sent.code ≠ 0 then 1 else 0 }

end Ammc.Client
