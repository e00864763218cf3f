import Ammc.SerialProgram
import Ammc.Packet

namespace Ammc.Client

open ByteMemory Serial Packet

/-!
# The client's serial interface

The client reaches the device through a file descriptor.  Both transfer
functions check it first; a failed check leaves the buffer as it is.  A read
that fails before the requested number of bytes has arrived is a read of fewer
bytes.
-/

/-- What the client's program asks its surroundings. -/
inductive Query where
  | isatty (fd : Int)
  | openDevice (path : List UInt8)
  | close (fd : Int)
  | uninitialised
  deriving Repr, DecidableEq

/-- System calls answer with their result, a local variable with its contents. -/
abbrev Query.Answer : Query → Type
  | .isatty _ => Bool
  | .openDevice _ => Int
  | .close _ => Int
  | .uninitialised => Memory

/--
What the client does besides reading and writing: it starts to transmit a packet
and returns from sending it, judges a received packet, runs the checksum over a
number of bytes of it, and writes to the terminal or to the standard error.
-/
inductive Note where
  | transmitting
  | returned (code : Int)
  | attempted (error : ComError)
  | checked (count : Nat)
  | puts (text : List UInt8)
  | speed (motorId : UInt8) (rpm : Int16)
  | available (slaveId : UInt8)
  | unreachable (slaveId : UInt8)
  | unexpected (errCode : UInt8)
  | failed (code : Int) (message : String)
  | warned (message : String)
  deriving Repr, DecidableEq

/-- The calls of the client's program. -/
abbrev signature : Signature where
  Query := Query
  Answer := Query.Answer
  Note := Note

/-- A program of the client. -/
abbrev ClientProg := Prog signature

/-- Put a query of the client to its surroundings. -/
def ask (query : Query) : ClientProg query.Answer :=
  Prog.query (S := signature) query

/-- Leave a note of the client. -/
def record (event : Note) : ClientProg Unit :=
  Prog.record (S := signature) event

/-- `valid_dev` -/
def validDev (fd : Int) : ClientProg Bool :=
  if fd > 2 then
    ask (.isatty fd)
  else
    return false

/--
`serial_rx` into the object that `dest` points to, from `offset` on, with the
value it returns.
-/
def serialRx
    (fd : Int)
    (dest : Memory)
    (offset size : Nat) : ClientProg (Int × Memory) := do
  if ¬ (← validDev fd) then
    return (0, dest)
  let bytes ← Prog.receive offset size
  return (if bytes.length < size then -1 else size,
    dest.store offset bytes)

/-- `serial_tx` -/
def serialTx
    (fd : Int)
    (buf : Memory)
    (size : Nat) : ClientProg Int := do
  if ¬ (← validDev fd) then
    return -1
  Prog.transmit (buf.bytes 0 size)
  return size

/-- `serial_rx_flush`; other descriptors are not the serial line. -/
def serialRxFlush (fd : Int) : ClientProg Unit := do
  if ← validDev fd then
    Prog.discard

/-- `serial_open`, which ends by throwing away what the device has sent. -/
def serialOpen (dev : List UInt8) : ClientProg Int := do
  if dev = [] then
    return 1
  let devFd ← ask (.openDevice dev)
  if devFd < 0 then
    return -1
  serialRxFlush devFd
  return devFd

/-- `serial_close` -/
def serialClose (devFd : Int) : ClientProg Int := do
  if ¬ (← validDev devFd) then
    return 1
  ask (.close devFd)

/-- `packet_craft` in the client. -/
def packetCraft
    (p : Memory)
    (id type selector : UInt8)
    (body : Option Memory)
    (bodySize : UInt8) : UInt8 × Memory :=
  craft crc p id type selector body bodySize

/-- The bytes of a packet that the client crafts. -/
def packetImage
    (id type selector : UInt8)
    (body : List UInt8) : List UInt8 :=
  image crc id type selector body

/-- `packet_check_crc`, with a note of the bytes it looks at. -/
def packetCheckCrc (p : Memory) : ClientProg UInt8 := do
  record (.checked (packetGetSize p).toNat)
  return if crcCheck (p.bytes 0 (packetGetSize p).toNat) ≠ 0 then 1 else 0

/-- `packet_ack` -/
def packetAck (p response : Memory) : UInt8 × Memory :=
  packetCraft response (packetGetId p) ComType.ack.code 0 none 0

/-- `packet_nak` -/
def packetNak (p response : Memory) : UInt8 × Memory :=
  packetCraft response (packetGetId p) ComType.nak.code 0 none 0

end Ammc.Client
