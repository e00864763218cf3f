import Ammc.MasterOperations
import Ammc.SlaveTwi

namespace Ammc.Slave

open ByteMemory Twi DcMotor

/-!
# The slave's main loop

The slave receives a command, executes it, and begins again.  The loop is cut at
the places where the program sleeps until its two-wire driver is ready; between
two of them the program is not disturbed, because the driver takes no interrupt
while it is ready.
-/

/-- `DC_MOTOR_MAX_RPM_SPEED` -/
def dcMotorMaxRpmSpeed : DcRpm := 125

/-- The static variables of the motor module that the commands use. -/
structure Motor where
  speedActual : DcRpm
  speedTarget : DcRpm
  speedNext : DcRpm
  deriving Repr, DecidableEq

/-- `compute_limited_speed` -/
def computeLimitedSpeed (speed : DcRpm) : DcRpm :=
  if speed ≥ 0 then
    if speed < dcMotorMaxRpmSpeed then speed else dcMotorMaxRpmSpeed
  else if speed > dcMotorMaxRpmSpeed then speed
  else dcMotorMaxRpmSpeed

/-- `dcmotor_get` -/
def dcmotorGet (motor : Motor) : DcRpm :=
  motor.speedActual

/-- `dcmotor_set` -/
def dcmotorSet
    (next : DcRpm)
    (motor : Motor) : Motor :=
  { motor with speedNext := computeLimitedSpeed next }

/-- `dcmotor_apply` -/
def dcmotorApply (motor : Motor) : Motor :=
  { motor with speedTarget := motor.speedNext }

/-- Where the main loop is. -/
inductive Place where
  | beforeRecv
  | inRecv
  | afterRecv (commandSize : UInt8)
  | beforeSend (response : List UInt8)
  deriving Repr, DecidableEq

/-- A slave controller. -/
structure Controller where
  driver : Driver
  motor : Motor
  ownAddress : UInt8
  ownAddressEeprom : UInt8
  place : Place

/--
The controller after `setup`: the static variables are zero, and the local
variable `command` of the main loop holds whatever it finds.
-/
def setup
    (ownAddressEeprom : UInt8)
    (command : Memory) : Controller where
  driver :=
    Driver.init ownAddressEeprom
      { mode := .ready
        error := success
        rxBuffer := command
        txBuffer := fun _ => 0
        rxIdx := 0
        txIdx := 0
        rxSize := 0
        txSize := 0
        twcr :=
          { twint := false
            twea := false
            twsta := false
            twsto := false
            twen := false
            twie := false }
        twdr := 0xFF
        twar := 0xFE }
  motor :=
    { speedActual := 0
      speedTarget := 0
      speedNext := 0 }
  ownAddress := ownAddressEeprom
  ownAddressEeprom := ownAddressEeprom
  place := .beforeRecv

/-- `change_twi_address_to` -/
def changeTwiAddressTo
    (newAddr : UInt8)
    (slave : Controller) : Controller :=
  { slave with
    ownAddressEeprom := newAddr
    ownAddress := newAddr
    driver := slave.driver.init newAddr }

/-- `command_isvalid` -/
def commandIsvalid
    (cmd : Memory)
    (cmdSize : UInt8) : Bool :=
  let id := cmd 0
  if id = Master.CommandId.getSpeed.code ∨
      id = Master.CommandId.applySpeed.code then
    cmdSize = 1
  else if id = Master.CommandId.setSpeed.code then
    cmdSize = 3
  else if id = Master.CommandId.ping.code then
    cmdSize = 2
  else if id = Master.CommandId.setAddr.code then
    let newAddr := cmd 1
    cmdSize = 2 && newAddr ≠ 0 && newAddr < 127
  else
    false

/-- The slave enters the `twi_send` of `command_respond`. -/
def commandRespond
    (response : List UInt8)
    (slave : Controller) : Controller :=
  if response.length > txMaxLen then
    { slave with place := .beforeRecv }
  else
    { slave with place := .beforeSend response }

/-- `execute_command`, up to the sleep in `twi_send` where there is one. -/
def executeCommand
    (cmd : Memory)
    (cmdSize : UInt8)
    (slave : Controller) : Controller :=
  let id := cmd 0
  let argument := cmd.shift 1
  let done := { slave with place := .beforeRecv }
  if ¬ commandIsvalid cmd cmdSize then
    done
  else if id = Master.CommandId.getSpeed.code then
    commandRespond (rpmBytes (dcmotorGet slave.motor)) slave
  else if id = Master.CommandId.setSpeed.code then
    { done with
      motor :=
        dcmotorSet (rpmOfBytes (argument 0) (argument 1)) slave.motor }
  else if id = Master.CommandId.applySpeed.code then
    { done with motor := dcmotorApply slave.motor }
  else if id = Master.CommandId.ping.code then
    commandRespond (argument.bytes 0 (cmdSize - 1).toNat) slave
  else if id = Master.CommandId.setAddr.code then
    changeTwiAddressTo (argument 0) done
  else
    done

/-- The main loop runs up to its next sleep; while it sleeps nothing happens. -/
def mainStep (slave : Controller) : Controller :=
  match slave.place with
  | .beforeRecv =>
      if slave.driver.isReady then
        { slave with
          driver := slave.driver.armRecv rxMaxLen
          place := .inRecv }
      else
        slave
  | .inRecv =>
      if slave.driver.isReady then
        { slave with
          -- `twi_recv` returns its `size_t` index as a byte
          place := .afterRecv (UInt8.ofNat slave.driver.rxIdx) }
      else
        slave
  | .afterRecv commandSize =>
      executeCommand slave.driver.rxBuffer commandSize slave
  | .beforeSend response =>
      if slave.driver.isReady then
        { slave with
          driver := slave.driver.armSend response
          place := .beforeRecv }
      else
        slave

end Ammc.Slave
