import Ammc.ByteMemory
import Ammc.TwiStatus

namespace Ammc.Master

open ByteMemory Twi

/-!
# The master's two-wire driver

The registers and static variables of the driver, and what its functions do to
them.  `twi_send` and `twi_recv` are split where they sleep until the driver is
ready.
-/

/-- `twi_addr_write` -/
def twiAddrWrite (addr : UInt8) : UInt8 :=
  (addr <<< 1) &&& 0xFE

/-- `twi_addr_read` -/
def twiAddrRead (addr : UInt8) : UInt8 :=
  (addr <<< 1) ||| 0x01

/-- `twi_mode_t` in the master. -/
inductive TwiMode where
  | ready
  | repeatedStart
  | initializing
  | transmitting
  | receiving
  deriving Repr, DecidableEq

/-- The lowest bit of an address byte tells the direction of a transfer. -/
theorem twiAddrWrite_bits (addr : UInt8) :
    twiAddrWrite addr &&& 1 = 0 ∧
      twiAddrWrite addr >>> 1 = addr &&& 0x7F := by
  have everyByte :
      ∀ byte : UInt8,
        twiAddrWrite byte &&& 1 = 0 ∧
          twiAddrWrite byte >>> 1 = byte &&& 0x7F :=
    forall_byte (by decide +kernel)
  exact everyByte addr

theorem twiAddrRead_bits (addr : UInt8) :
    ¬ twiAddrRead addr &&& 1 = 0 ∧
      twiAddrRead addr >>> 1 = addr &&& 0x7F := by
  have everyByte :
      ∀ byte : UInt8,
        ¬ twiAddrRead byte &&& 1 = 0 ∧
          twiAddrRead byte >>> 1 = byte &&& 0x7F :=
    forall_byte (by decide +kernel)
  exact everyByte addr

/-- `TW_RX_MAX_LEN` -/
def twRxMaxLen : Nat := 32

/-- `TW_TX_MAX_LEN` -/
def twTxMaxLen : Nat := 32

/--
The static variables of the driver and the registers that it uses.  `rxBuffer`
is the object that the pointer of that name points to.
-/
structure TwiDriver where
  mode : TwiMode
  error : UInt8
  repStart : Bool
  rxBuffer : Memory
  txBuffer : Memory
  rxIdx : Nat
  txIdx : Nat
  rxSize : Nat
  txSize : Nat
  twcr : Control
  twdr : UInt8

namespace TwiDriver

/-- `twi_start` -/
def start (driver : TwiDriver) : TwiDriver :=
  { driver with
    twcr := { allEnabled with twsta := true } }

/-- `twi_stop` -/
def stop (driver : TwiDriver) : TwiDriver :=
  { driver with
    twcr := { allEnabled with twsto := true } }

/-- `twi_transfer` -/
def transfer (driver : TwiDriver) : TwiDriver :=
  { driver with
    twcr := allEnabled }

/-- `twi_ack` -/
def ack (driver : TwiDriver) : TwiDriver :=
  { driver with
    twcr := { allEnabled with twea := true } }

/-- `twi_nak` -/
def nak (driver : TwiDriver) : TwiDriver :=
  { driver with
    twcr := allEnabled }

/-- `twi_isready` -/
def isReady (driver : TwiDriver) : Bool :=
  driver.mode = .ready || driver.mode = .repeatedStart

/-- `twi_successful` -/
def successful (driver : TwiDriver) : Bool :=
  driver.error = success

/-- `TWDR = tx_buffer[tx_idx++]` -/
def loadByte (driver : TwiDriver) : TwiDriver :=
  { driver with
    twdr := driver.txBuffer driver.txIdx
    txIdx := sizeSucc driver.txIdx }

/-- `rx_buffer[rx_idx++] = TWDR` -/
def storeByte (driver : TwiDriver) : TwiDriver :=
  { driver with
    rxBuffer := driver.rxBuffer.store driver.rxIdx [driver.twdr]
    rxIdx := sizeSucc driver.rxIdx }

/-- `_twi_send` -/
def sendRaw
    (size : Nat)
    (busLock : Bool)
    (driver : TwiDriver) : TwiDriver :=
  let prepared :=
    { driver with
      txSize := size
      txIdx := 0
      repStart := busLock }
  let begun :=
    if prepared.mode = .repeatedStart then
      prepared.loadByte.transfer
    else
      prepared.start
  { begun with mode := .initializing }

/-- On a free bus a transmission starts with `START`. -/
theorem sendRaw_ready
    {driver : TwiDriver}
    (ready : driver.mode = .ready)
    (size : Nat)
    (busLock : Bool) :
    driver.sendRaw size busLock =
      { ({ driver with
            txSize := size
            txIdx := 0
            repStart := busLock } : TwiDriver).start with
        mode := .initializing } := by
  have notKept : ¬ driver.mode = .repeatedStart := by
    rw [ready]
    rintro ⟨⟩
  simp only [sendRaw, if_neg notKept]

/-- On a bus that has been kept it starts with the address. -/
theorem sendRaw_repeatedStart
    {driver : TwiDriver}
    (kept : driver.mode = .repeatedStart)
    (size : Nat)
    (busLock : Bool) :
    driver.sendRaw size busLock =
      { ({ driver with
            txSize := size
            txIdx := 0
            repStart := busLock } : TwiDriver).loadByte.transfer with
        mode := .initializing } := by
  simp only [sendRaw, if_pos kept]

/-- `twi_send`, once the driver is ready; `none` is the return code 1. -/
def send
    (addr : UInt8)
    (data : List UInt8)
    (busLock : Bool)
    (driver : TwiDriver) : Option TwiDriver :=
  if data.length > twTxMaxLen then
    none
  else
    some
      (({ driver with
          txBuffer :=
            (driver.txBuffer.store 0 [twiAddrWrite addr]).store 1
              data }).sendRaw (data.length + 1) busLock)

/--
`twi_recv` up to its second sleep, once the driver is ready; `none` is the
return code 1.
-/
def recv
    (addr : UInt8)
    (buf : Memory)
    (toRecv : Nat)
    (busLock : Bool)
    (driver : TwiDriver) : Option TwiDriver :=
  if toRecv > twRxMaxLen then
    none
  else
    some
      (({ driver with
          rxBuffer := buf
          rxSize := toRecv
          rxIdx := 0
          txBuffer :=
            driver.txBuffer.store 0 [twiAddrRead addr] }).sendRaw 1
        busLock)

/-- `rx_size - 1`, a `size_t` of 16 bits that wraps below zero. -/
def lastIdx (driver : TwiDriver) : Nat :=
  (driver.rxSize + 2 ^ 16 - 1) % 2 ^ 16

theorem lastIdx_eq
    {driver : TwiDriver}
    {last : Nat}
    (size : last + 1 = driver.rxSize)
    (short : driver.rxSize < 2 ^ 16) :
    driver.lastIdx = last := by
  rw [lastIdx, ← size]
  omega

/-- The cases of `ISR(TWI_vect)` in which the master transmits. -/
def transmitNext (driver : TwiDriver) : TwiDriver :=
  if driver.txIdx < driver.txSize then
    ({ driver.loadByte with error := Status.noInfo.code }).transfer
  else if driver.repStart then
    ({ driver with error := success }).start
  else
    ({ driver with
      mode := .ready
      error := success }).stop

/-- A transmitter does not touch what the receiver uses. -/
theorem rx_transmitNext (driver : TwiDriver) :
    driver.transmitNext.rxBuffer = driver.rxBuffer ∧
      driver.transmitNext.rxIdx = driver.rxIdx ∧
      driver.transmitNext.rxSize = driver.rxSize := by
  rw [transmitNext]
  split
  · exact ⟨rfl, rfl, rfl⟩
  split
  · exact ⟨rfl, rfl, rfl⟩
  · exact ⟨rfl, rfl, rfl⟩

/-- The cases of `ISR(TWI_vect)` in which a further byte is fetched. -/
def receiveNext (driver : TwiDriver) : TwiDriver :=
  let receiving :=
    { driver with
      mode := .receiving
      error := Status.noInfo.code }
  if receiving.rxIdx < receiving.lastIdx then
    receiving.ack
  else
    receiving.nak

/-- A byte is acknowledged when it is not the last one. -/
theorem receiveNext_eq
    {driver : TwiDriver}
    {last : Nat}
    (size : last + 1 = driver.rxSize)
    (short : driver.rxSize < 2 ^ 16) :
    driver.receiveNext =
      { driver with
        mode := .receiving
        error := Status.noInfo.code
        twcr :=
          { allEnabled with twea := decide (driver.rxIdx < last) } } := by
  let receiving : TwiDriver :=
    { driver with
      mode := .receiving
      error := Status.noInfo.code }
  have bound : receiving.lastIdx = last := lastIdx_eq size short
  rw [receiveNext, bound]
  by_cases more : driver.rxIdx < last
  · rw [if_pos more, decide_eq_true more]
    rfl
  · rw [if_neg more, decide_eq_false more]
    rfl

/-- The end of a transmission; a locked bus is kept. -/
def finish (driver : TwiDriver) : TwiDriver :=
  if driver.repStart then
    driver.start
  else
    ({ driver with mode := .ready }).stop

theorem finish_unlocked
    {driver : TwiDriver}
    (unlocked : driver.repStart = false) :
    driver.finish = ({ driver with mode := .ready }).stop := by
  rw [finish, unlocked]
  rfl

@[simp] theorem rxIdx_finish (driver : TwiDriver) :
    driver.finish.rxIdx = driver.rxIdx := by
  rw [finish]
  split
  · rfl
  · rfl

@[simp] theorem rxBuffer_finish (driver : TwiDriver) :
    driver.finish.rxBuffer = driver.rxBuffer := by
  rw [finish]
  split
  · rfl
  · rfl

/-- `ISR(TWI_vect)` for a status code. -/
def isr
    (status : Status)
    (driver : TwiDriver) : TwiDriver :=
  match status with
  | .mtSlaAck =>
      -- falls through to the next case
      ({ driver with mode := .transmitting }).transmitNext
  | .start | .mtDataAck => driver.transmitNext
  | .mrDataAck =>
      -- falls through to the next case
      driver.storeByte.receiveNext
  | .mrSlaAck => driver.receiveNext
  | .mrDataNack =>
      ({ driver.storeByte with error := success }).finish
  | .mrSlaNack | .mtSlaNack | .mtDataNack | .arbLost =>
      ({ driver with error := status.code }).finish
  | .repStart => { driver with mode := .repeatedStart }
  | .busError =>
      ({ driver with
        error := Status.busError.code
        mode := .ready }).stop
  | _ => driver

theorem isr_mrSlaAck (driver : TwiDriver) :
    driver.isr .mrSlaAck = driver.receiveNext :=
  rfl

theorem isr_mrDataAck (driver : TwiDriver) :
    driver.isr .mrDataAck = driver.storeByte.receiveNext :=
  rfl

theorem isr_mrDataNack (driver : TwiDriver) :
    driver.isr .mrDataNack =
      ({ driver.storeByte with error := success }).finish :=
  rfl

end TwiDriver

end Ammc.Master
