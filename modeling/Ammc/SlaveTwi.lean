import Ammc.ByteMemory
import Ammc.TwiStatus

namespace Ammc.Slave

open ByteMemory Twi

/-!
# The slave's two-wire driver

The registers and static variables of the driver, and what its functions do to
them.  The functions that sleep until the driver is ready are split at the
sleep: `SlaveLoop` puts the parts together.
-/

/-- `twi_mode_t` in the slave. -/
inductive Mode where
  | ready
  | initializing
  | transmitting
  | receiving
  deriving Repr, DecidableEq

/-- `TW_RX_MAX_LEN` -/
def rxMaxLen : Nat := 32

/-- `TW_TX_MAX_LEN` -/
def txMaxLen : Nat := 32

/--
The static variables of the driver and the registers that it uses.  `rxBuffer`
is the object that the pointer of that name points to.
-/
structure Driver where
  mode : Mode
  error : UInt8
  rxBuffer : Memory
  txBuffer : Memory
  rxIdx : Nat
  txIdx : Nat
  rxSize : Nat
  txSize : Nat
  twcr : Control
  twdr : UInt8
  twar : UInt8

namespace Driver

/-- `twi_enable` -/
def enable (driver : Driver) : Driver :=
  { driver with
    twcr :=
      { twint := false
        twea := false
        twsta := false
        twsto := false
        twen := true
        twie := false } }

/-- `twi_release_bus` -/
def releaseBus (driver : Driver) : Driver :=
  { driver with
    twcr :=
      { twint := false
        twea := false
        twsta := false
        twsto := true
        twen := true
        twie := false } }

/-- `twi_ack` -/
def ack (driver : Driver) : Driver :=
  { driver with
    twcr := { allEnabled with twea := true } }

/-- `twi_init`; the bit rate and the pins are left out. -/
def init
    (slaveAddr : UInt8)
    (driver : Driver) : Driver :=
  ({ driver with
    twar := (slaveAddr <<< 1) ||| 1 }).enable

/-- `twi_isready` -/
def isReady (driver : Driver) : Bool :=
  driver.mode = .ready

/-- `twi_send`, once the driver is ready. -/
def armSend
    (data : List UInt8)
    (driver : Driver) : Driver :=
  ({ driver with
    mode := .initializing
    txBuffer := driver.txBuffer.store 0 data
    txSize := data.length
    txIdx := 0 }).ack

/-- `twi_recv`, once the driver is ready, into the same object as before. -/
def armRecv
    (toRecv : Nat)
    (driver : Driver) : Driver :=
  ({ driver with
    mode := .initializing
    rxSize := toRecv
    rxIdx := 0 }).ack

/-- A byte is taken from the transmit buffer to `TWDR`. -/
def loadByte (driver : Driver) : Driver :=
  ({ driver with
    error := success
    twdr := driver.txBuffer driver.txIdx
    txIdx := sizeSucc driver.txIdx }).ack

/-- `ISR(TWI_vect)` for a status code. -/
def isr
    (status : Status)
    (driver : Driver) : Driver :=
  match status with
  | .stSlaAck =>
      -- falls through to the next case
      ({ driver with mode := .transmitting }).loadByte
  | .stDataAck => driver.loadByte
  | .stDataNack =>
      ({ driver with
        error :=
          if driver.txIdx ≥ driver.txSize then success else status.code
        mode := .ready }).enable
  | .srSlaAck | .srGcallAck =>
      ({ driver with mode := .receiving }).ack
  | .srDataAck | .srGcallDataAck =>
      ({ driver with
        rxBuffer := driver.rxBuffer.store driver.rxIdx [driver.twdr]
        rxIdx := sizeSucc driver.rxIdx
        error := Status.noInfo.code }).ack
  | .srStop => ({ driver with mode := .ready }).enable
  | .stLastData | .srDataNack | .srGcallDataNack | .busError =>
      ({ driver with
        error := status.code
        mode := .ready }).releaseBus
  | .srArbLostSlaAck | .srArbLostGcallAck | .stArbLostSlaAck =>
      ({ driver with
        error := status.code
        mode := .ready }).enable
  | _ => driver

end Driver

end Ammc.Slave
