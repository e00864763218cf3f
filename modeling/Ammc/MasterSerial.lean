import Ammc.SerialProgram
import Ammc.Packet

namespace Ammc.Master

open ByteMemory Serial Packet

/-!
# The master's serial interface

The master reads its receive ring buffer byte by byte and hands whole buffers to
the transmitter.  `serial_rx` blocks until all requested bytes have arrived;
`serial_tx` refuses what does not fit its transmit buffer.

Everything else the firmware depends on is a query: a TWI transaction, or the
contents of a local variable before its first assignment.
-/

/-- `RX_BUFFER_SIZE` -/
def rxBufferSize : Nat := 32

/-- `TX_BUFFER_SIZE` -/
def txBufferSize : Nat := 32

/-- What the master's program asks its surroundings. -/
inductive Query where
  | twiSend (addr : UInt8) (data : List UInt8)
  | twiRecv (addr : UInt8) (toRecv : Nat)
  | uninitialised
  deriving Repr, DecidableEq

/--
`twi_send` returns nothing its callers look at, `twi_recv` stores at most as
many bytes as it was asked for, and an uninitialised variable holds anything.
-/
abbrev Query.Answer : Query → Type
  | .twiSend _ _ => Unit
  | .twiRecv _ toRecv => { bytes : List UInt8 // bytes.length ≤ toRecv }
  | .uninitialised => Memory

/-- The master starts to receive a packet, or has received it with a result. -/
inductive Note where
  | receiving
  | received (error : ComError)
  deriving Repr, DecidableEq

/-- The calls of the master's program. -/
abbrev signature : Signature where
  Query := Query
  Answer := Query.Answer
  Note := Note

/-- A program of the master. -/
abbrev MasterProg := Prog signature

/-- Put a query of the master to its surroundings. -/
def ask (query : Query) : MasterProg query.Answer :=
  Prog.query (S := signature) query

/-- Leave a note of the master. -/
def record (event : Note) : MasterProg Unit :=
  Prog.record (S := signature) event

/-- `serial_rx` into the object that `rx` points to, from `offset` on. -/
def serialRx
    (rx : Memory)
    (offset : Nat)
    (size : UInt8) : MasterProg Memory := do
  let bytes ← Prog.receive offset size.toNat
  return rx.store offset bytes

/-- `serial_rx_available`, as the test its caller makes of it. -/
def serialRxAvailable : MasterProg Bool :=
  Prog.pending

/-- `serial_tx` -/
def serialTx
    (buf : Memory)
    (size : UInt8) : MasterProg UInt8 :=
  if size = 0 ∨ size.toNat > txBufferSize then
    return 1
  else do
    Prog.transmit (buf.bytes 0 size.toNat)
    return 0

/-- `packet_craft` in the master. -/
def packetCraft
    (p : Memory)
    (id type selector bodySize : UInt8)
    (body : Option Memory) : UInt8 × Memory :=
  craft crc p id type selector body bodySize

/-- The bytes of a packet that the master crafts. -/
def packetImage
    (id type selector : UInt8)
    (body : List UInt8) : List UInt8 :=
  image crc id type selector body

end Ammc.Master
