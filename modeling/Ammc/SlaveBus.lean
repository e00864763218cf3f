import Ammc.MasterServe
import Ammc.SlaveLoop

namespace Ammc.Slave

open ByteMemory Twi

/-!
# Slaves on the two-wire bus

A slave's hardware acknowledges its address or the general call exactly when
`TWEA` was set by the last write to `TWCR`; every event on the bus that concerns
the slave runs its interrupt handler once.  A transaction is the sequence of
events that the master's transfer causes at every slave.
-/

/-- The part that the hardware of a slave has in the current transaction. -/
inductive Phase where
  | released
  | receiver (general : Bool)
  | transmitter
  deriving Repr, DecidableEq

/-- A slave controller with its place in the current transaction. -/
structure Node where
  controller : Controller
  phase : Phase

namespace Node

/-- The interrupt handler runs. -/
def interrupt
    (status : Status)
    (node : Node) : Node :=
  { node with
    controller :=
      { node.controller with
        driver := node.controller.driver.isr status } }

/-- The address in `TWAR`. -/
def address (node : Node) : UInt8 :=
  node.controller.driver.twar >>> 1

/-- The slave acknowledges `SLA+W` for an address. -/
def acksWrite
    (addr : UInt8)
    (node : Node) : Bool :=
  node.controller.driver.twcr.twea &&
    if addr = 0 then
      node.controller.driver.twar &&& 1 = 1
    else
      addr = node.address

/-- The slave acknowledges `SLA+R` for an address. -/
def acksRead
    (addr : UInt8)
    (node : Node) : Bool :=
  node.controller.driver.twcr.twea && addr ≠ 0 && addr = node.address

/-- The master sends `SLA+W`. -/
def addressWrite
    (addr : UInt8)
    (node : Node) : Bool × Node :=
  if node.acksWrite addr then
    (true,
      { node with
        phase := .receiver (addr = 0) }.interrupt
          (if addr = 0 then .srGcallAck else .srSlaAck))
  else
    (false, node)

/-- A byte from the master arrives in `TWDR`. -/
def latch
    (byte : UInt8)
    (node : Node) : Node :=
  { node with
    controller :=
      { node.controller with
        driver := { node.controller.driver with twdr := byte } } }

/-- The master sends a data byte. -/
def writeByte
    (byte : UInt8)
    (node : Node) : Bool × Node :=
  match node.phase with
  | .receiver general =>
      if node.controller.driver.twcr.twea then
        (true,
          (node.latch byte).interrupt
            (if general then .srGcallDataAck else .srDataAck))
      else
        (false,
          { node.latch byte with
            phase := .released }.interrupt
              (if general then .srGcallDataNack else .srDataNack))
  | _ => (false, node)

/-- The master sends `STOP`. -/
def stop (node : Node) : Node :=
  match node.phase with
  | .receiver _ =>
      { node with phase := .released }.interrupt .srStop
  | _ => { node with phase := .released }

/-- The master sends `SLA+R`. -/
def addressRead
    (addr : UInt8)
    (node : Node) : Bool × Node :=
  if node.acksRead addr then
    (true, { node with phase := .transmitter }.interrupt .stSlaAck)
  else
    (false, node)

/-- The master reads a byte and acknowledges it, or does not. -/
def readByte
    (acked : Bool)
    (node : Node) : Option UInt8 × Node :=
  match node.phase with
  | .transmitter =>
      (some node.controller.driver.twdr,
        if acked then
          if node.controller.driver.twcr.twea then
            node.interrupt .stDataAck
          else
            { node with phase := .released }.interrupt .stLastData
        else
          { node with phase := .released }.interrupt .stDataNack)
  | _ => (none, node)

/-- The main loop runs until it waits for the bus. -/
def settle (node : Node) : Node :=
  { node with
    controller := mainStep (mainStep (mainStep node.controller)) }

end Node

/-- All slaves on the bus. -/
abbrev Network := List Node

namespace Network

/-- Every slave takes part in an event; one acknowledgement is enough. -/
def hear
    (event : Node → Bool × Node)
    (network : Network) : Bool × Network :=
  (network.any fun node => (event node).1,
    network.map fun node => (event node).2)

/-- The data bytes of a write, up to `STOP` or the first one refused. -/
def writeBytes : List UInt8 → Network → Network
  | [], network => network.map Node.stop
  | byte :: bytes, network =>
      match network.hear (Node.writeByte byte) with
      | (true, network) => writeBytes bytes network
      | (false, network) => network.map Node.stop

/-- A write of the master. -/
def write
    (addr : UInt8)
    (data : List UInt8)
    (network : Network) : Network :=
  match network.hear (Node.addressWrite addr) with
  | (true, network) => writeBytes data network
  | (false, network) => network.map Node.stop

/-- The byte that the slaves put on the bus; the idle bus is high. -/
def driven (bytes : List (Option UInt8)) : UInt8 :=
  bytes.foldl (fun line byte => line &&& byte.getD 0xFF) 0xFF

/-- The data bytes of a read; the last one is not acknowledged. -/
def readBytes : Nat → Network → List UInt8 × Network
  | 0, network => ([], network.map Node.stop)
  | left + 1, network =>
      let heard := network.map (Node.readByte (left ≠ 0))
      let rest := readBytes left (heard.map Prod.snd)
      (driven (heard.map Prod.fst) :: rest.1, rest.2)

/-- A read of the master, which asks for at least one byte. -/
def read
    (addr : UInt8)
    (count : Nat)
    (network : Network) : List UInt8 × Network :=
  match network.hear (Node.addressRead addr) with
  | (true, network) => readBytes count network
  | (false, network) => ([], network.map Node.stop)

theorem length_readBytes
    (count : Nat)
    (network : Network) :
    (readBytes count network).1.length = count := by
  induction count generalizing network with
  | zero =>
      rfl
  | succ left inductionHypothesis =>
      simp only [readBytes, List.length_cons, inductionHypothesis]

theorem length_read
    (addr : UInt8)
    (count : Nat)
    (network : Network) :
    (network.read addr count).1.length ≤ count := by
  rw [read]
  rcases network.hear (Node.addressRead addr) with ⟨_ | _, heard⟩
  · exact Nat.zero_le _
  · exact Nat.le_of_eq (length_readBytes count heard)

/--
The bus that the master's operations use: seven bits of the address go out, and
after every transaction the slaves have time to come to rest.
-/
def bus (uninitialised : Network → Memory) : Master.Bus Network where
  twiSend addr data network :=
    (network.write (addr &&& 0x7F) data).map Node.settle
  twiRecv addr toRecv network :=
    (⟨(network.read (addr &&& 0x7F) toRecv).1,
        network.length_read _ _⟩,
      (network.read (addr &&& 0x7F) toRecv).2.map Node.settle)
  uninitialised := uninitialised

end Network

/-- Seven bits hold every address of a slave. -/
theorem and_0x7F
    {addr : UInt8}
    (small : addr ≤ 126) :
    addr &&& 0x7F = addr := by
  have sevenBits :
      ∀ byte : UInt8, byte ≤ 126 → byte &&& 0x7F = byte :=
    forall_byte (by decide +kernel)
  exact sevenBits addr small

/-- What `twi_init` writes to `TWAR`. -/
theorem twar_bits
    {ownAddress : UInt8}
    (low : ownAddress ≤ 126) :
    ((ownAddress <<< (1 : UInt8)) ||| 1) >>> (1 : UInt8) = ownAddress ∧
      ((ownAddress <<< (1 : UInt8)) ||| 1) &&& 1 = 1 := by
  have everyByte :
      ∀ byte : UInt8, byte ≤ 126 →
        ((byte <<< (1 : UInt8)) ||| 1) >>> (1 : UInt8) = byte ∧
          ((byte <<< (1 : UInt8)) ||| 1) &&& 1 = 1 :=
    forall_byte (by decide +kernel)
  exact everyByte ownAddress low

end Ammc.Slave
