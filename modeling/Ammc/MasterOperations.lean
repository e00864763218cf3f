import Ammc.MasterCommunication
import Ammc.DcMotorSpeed

namespace Ammc.Master

open ByteMemory Serial Packet DcMotor

/-!
# The master's operations

The frames sent to the slaves, the motor functions built on them, and the table
that maps a packet type to its operation.  Every operation ends by handing the
handler back to its receiving state.
-/

/-- `master_command_id_t` -/
inductive CommandId where
  | getSpeed
  | setSpeed
  | applySpeed
  | ping
  | setAddr
  deriving Repr, DecidableEq

/-- The byte that stands for a slave command. -/
def CommandId.code : CommandId → UInt8
  | .getSpeed => 0x00
  | .setSpeed => 0x01
  | .applySpeed => 0x02
  | .ping => 0x03
  | .setAddr => 0x04

/-- `prepare_command` -/
def prepareCommand
    (command : Memory)
    (id : UInt8)
    (arg : Option Memory)
    (argSize : UInt8) : Memory :=
  let identified := command.store 0 [id]
  match arg with
  | some source => identified.store 1 (source.bytes 0 argSize.toNat)
  | none => identified

/-- `master_send_command` -/
def masterSendCommand
    (slaveId id : UInt8)
    (arg : Option Memory)
    (argSize : UInt8) : MasterProg Unit := do
  let command ← ask .uninitialised
  let command := prepareCommand command id arg argSize
  ask (.twiSend slaveId (command.bytes 0 (1 + argSize.toNat)))

/-- `master_send_bcast_command` -/
def masterSendBcastCommand
    (id : UInt8)
    (arg : Option Memory)
    (argSize : UInt8) : MasterProg Unit :=
  masterSendCommand 0x00 id arg argSize

/--
`master_recv_response`: the object that `buf` points to afterwards, and the
number of bytes received.
-/
def masterRecvResponse
    (slaveId : UInt8)
    (buf : Memory)
    (size : UInt8) : MasterProg (Nat × Memory) := do
  let received ← ask (.twiRecv slaveId size.toNat)
  return (received.val.length, buf.store 0 received.val)

/-- `dcmotor_get` -/
def dcmotorGet (slaveAddr : UInt8) : MasterProg DcRpm := do
  let speed ← ask .uninitialised
  masterSendCommand slaveAddr CommandId.getSpeed.code none 0
  let (_, speed) ← masterRecvResponse slaveAddr speed 2
  return rpmOfBytes (speed 0) (speed 1)

/-- `dcmotor_set` -/
def dcmotorSet
    (slaveAddr : UInt8)
    (speed : DcRpm) : MasterProg Unit :=
  masterSendCommand slaveAddr CommandId.setSpeed.code
    (some (Memory.store (fun _ => 0) 0 (rpmBytes speed))) 2

/-- `dcmotor_apply` -/
def dcmotorApply : MasterProg Unit :=
  masterSendBcastCommand CommandId.applySpeed.code none 0

/-- `dcmotor_change_id` -/
def dcmotorChangeId (actualAddr newAddr : UInt8) : MasterProg Unit :=
  masterSendCommand actualAddr CommandId.setAddr.code
    (some fun _ => newAddr) 1

/--
`state_t`.  The local variable `error` of the handler is read in `STATE_NAK`
only, so it is kept with that state.
-/
inductive HandlerState where
  | receiving
  | hnd
  | ack
  | nak (error : ComError)
  | execute
  deriving Repr, DecidableEq

/--
`DC_MOTOR_SEL_ALL`.  The two shifts are done in `int`, where they cancel; the
mask is narrowed when it meets the selector.
-/
def dcMotorSelAll : UInt8 :=
  UInt8.ofNat ((0xFF <<< (8 - 4)) >>> (8 - 4))

/-- `operation_f`, given the current `packet_global_id`. -/
abbrev Operation := UInt8 → Memory → MasterProg HandlerState

/-- `_op_echo` -/
def opEcho : Operation := fun globalId p => do
  communicationSend globalId ComType.dat.code 0
    (packetGetBodySize p) (some (packetBody p))
  return .receiving

/-- `_op_ping` -/
def opPing : Operation := fun globalId p => do
  let slaveId := packetGetSelector p
  if slaveId = 0 ∨ slaveId > 127 then
    communicationSend globalId ComType.dat.code
      ComError.slaveNotFound.code 0 none
    return .receiving
  masterSendCommand slaveId CommandId.ping.code
    (some fun _ => slaveId) 1
  let response ← ask .uninitialised
  let (recvd, response) ← masterRecvResponse slaveId response 1
  let errCode :=
    if recvd = 1 ∧ response 0 = slaveId then
      ComError.success
    else
      ComError.slaveNotFound
  communicationSend globalId ComType.dat.code errCode.code 0 none
  return .receiving

/-- `_op_get_speed` -/
def opGetSpeed : Operation := fun globalId p => do
  let motorId := packetGetSelector p &&& dcMotorSelAll
  let speed ← dcmotorGet motorId
  communicationSend globalId ComType.dat.code motorId 2
    (some (Memory.store (fun _ => 0) 0 (rpmBytes speed)))
  return .receiving

/-- `_op_set_speed` -/
def opSetSpeed : Operation := fun _ p => do
  let dcMotorId := packetGetSelector p &&& dcMotorSelAll
  let data := packetBody p
  dcmotorSet dcMotorId (rpmOfBytes (data 0) (data 1))
  return .receiving

/-- `_op_apply` -/
def opApply : Operation := fun _ _ => do
  dcmotorApply
  return .receiving

/-- `_op_set_slave_addr` -/
def opSetSlaveAddr : Operation := fun _ p => do
  dcmotorChangeId (packetGetSelector p) (packetBody p 0)
  return .receiving

/-- `com_operation_table` -/
def comOperationTable : List (Option Operation) :=
  [
    none, -- NULL
    none, -- HND
    none, -- ACK
    none, -- NAK
    some opEcho,
    some opPing,
    some opGetSpeed,
    some opSetSpeed,
    some opApply,
    none, -- DAT
    some opSetSlaveAddr
  ]

/-- The selector mask keeps every selector as it is. -/
@[simp] theorem and_dcMotorSelAll (selector : UInt8) :
    selector &&& dcMotorSelAll = selector := by
  have allOnes : dcMotorSelAll = -1 := by
    decide
  rw [allOnes, UInt8.and_neg_one]

end Ammc.Master
