import Ammc.MotorRequests
import Ammc.NetworkWrites

namespace Ammc.Slave

open ByteMemory Twi DcMotor

/-!
# The motor calls of the slaves

A slave calls its motor module when its main loop executes a command.  The calls
are recorded beside the slaves; the record does not influence them.
-/

/-- The call that the next step of the main loop makes. -/
def Node.stepCalls (node : Node) : List MotorCall :=
  match node.controller.place with
  | .afterRecv commandSize =>
      (callOfCommand node.controller.driver.rxBuffer
        commandSize).toList
  | _ => []

/-- The calls that the main loop makes until it waits for the bus. -/
def Node.settleCalls (node : Node) : List MotorCall :=
  node.stepCalls ++ node.mainStep.stepCalls ++
    node.mainStep.mainStep.stepCalls

/-- The motor after a number of calls. -/
def MotorCall.performAll
    (calls : List MotorCall)
    (motor : Motor) : Motor :=
  calls.foldl (fun motor call => call.perform motor) motor

/-- A step changes the motor through its calls. -/
theorem motor_mainStep (node : Node) :
    node.mainStep.controller.motor =
      MotorCall.performAll node.stepCalls node.controller.motor := by
  obtain ⟨controller, phase⟩ := node
  rw [Node.mainStep, mainStep, Node.stepCalls]
  rcases place : controller.place with _ | _ | commandSize | response
  · simp only
    split
    · rfl
    · rfl
  · simp only
    split
    · rfl
    · rfl
  · simp only
    rw [motor_executeCommand]
    cases callOfCommand controller.driver.rxBuffer commandSize with
    | none => rfl
    | some call => rfl
  · simp only
    split
    · rfl
    · rfl

/-- So does the main loop until it waits. -/
theorem motor_settle (node : Node) :
    node.settle.controller.motor =
      MotorCall.performAll node.settleCalls node.controller.motor := by
  change node.mainStep.mainStep.mainStep.controller.motor = _
  rw [motor_mainStep, motor_mainStep, motor_mainStep]
  simp [MotorCall.performAll, Node.settleCalls]

/-- A command with a call changes nothing but the motor and the place. -/
theorem executeCommand_of_call
    {cmd : Memory}
    {cmdSize : UInt8}
    {call : MotorCall}
    (called : callOfCommand cmd cmdSize = some call)
    (slave : Controller) :
    executeCommand cmd cmdSize slave =
      { slave with
        place := .beforeRecv
        motor := call.perform slave.motor } := by
  simp only [callOfCommand] at called
  split at called
  · cases called
  split at called
  · rename_i valid setSpeed
    cases called
    simp only [executeCommand, if_neg valid, setSpeed]
    rfl
  split at called
  · rename_i valid _ applySpeed
    cases called
    simp only [executeCommand, if_neg valid, applySpeed]
    rfl
  · cases called

/-- A command with a call is executed, and the slave waits for the next. -/
theorem Received.settle_of_call
    {frame : List UInt8}
    {node : Node}
    {call : MotorCall}
    (received : Received frame node)
    (called :
      callOfCommand node.controller.driver.rxBuffer
        (UInt8.ofNat frame.length) = some call) :
    Armed node.settle ∧ node.settleCalls = [call] ∧
      node.settle.controller.driver.twar =
        node.controller.driver.twar := by
  have executing := received.mainStep
  have buffer :
      node.mainStep.controller.driver = node.controller.driver := by
    rw [Node.mainStep, Slave.mainStep, received.place]
    simp only
    split
    · rfl
    · rfl
  have executed :
      node.mainStep.mainStep =
        { node.mainStep with
          controller :=
            { node.mainStep.controller with
              place := .beforeRecv
              motor := call.perform node.mainStep.controller.motor } } := by
    rw [← buffer] at called
    rw [Node.mainStep, Slave.mainStep, executing.place]
    simp only [executeCommand_of_call called]
  have resting : Resting node.mainStep.mainStep := by
    rw [executed]
    exact ⟨rfl, executing.phase, executing.mode, executing.twea⟩
  refine ⟨resting.mainStep, ?_, ?_⟩
  · have first : node.stepCalls = [] := by
      rw [Node.stepCalls, received.place]
    have second : node.mainStep.stepCalls = [call] := by
      rw [Node.stepCalls, executing.place]
      simp only [buffer, called, Option.toList_some]
    have third : node.mainStep.mainStep.stepCalls = [] := by
      rw [Node.stepCalls, resting.place]
    rw [Node.settleCalls, first, second, third]
    rfl
  · have kept :
        node.mainStep.mainStep.mainStep.kept =
          node.mainStep.mainStep.kept :=
      kept_mainStep fun commandSize => by
        rw [resting.place]
        rintro ⟨⟩
    have register := congrArg Prod.snd kept
    refine Eq.trans register ?_
    change node.mainStep.mainStep.controller.driver.twar = _
    rw [executed, ← buffer]

/-- The command frames that set and apply a speed. -/
def MotorCall.frame : MotorCall → List UInt8
  | .set next => Master.CommandId.setSpeed.code :: rpmBytes next
  | .apply => [Master.CommandId.applySpeed.code]

theorem MotorCall.short (call : MotorCall) :
    call.frame.length < 2 ^ 16 := by
  cases call with
  | set next =>
      rw [MotorCall.frame, List.length_cons, length_rpmBytes]
      decide
  | apply => decide

/-- The slave makes the call of the frame that it has received. -/
theorem callOfCommand_frame
    {call : MotorCall}
    {cmd : Memory}
    (stored : cmd.bytes 0 call.frame.length = call.frame) :
    callOfCommand cmd (UInt8.ofNat call.frame.length) = some call := by
  cases call with
  | set next =>
      simp only [MotorCall.frame, rpmBytes, List.length_cons,
        List.length_nil, Memory.bytes_succ, Memory.bytes_zero,
        List.cons.injEq, and_true] at stored
      obtain ⟨identified, low, high⟩ := stored
      simp [callOfCommand, commandIsvalid, identified, low, high,
        MotorCall.frame, Master.CommandId.code, rpmOfBytes_rpmBytes]
  | apply =>
      simp only [MotorCall.frame, List.length_cons, List.length_nil,
        Memory.bytes_succ, Memory.bytes_zero, List.cons.injEq,
        and_true] at stored
      simp [callOfCommand, commandIsvalid, stored, MotorCall.frame,
        Master.CommandId.code]

/-! ## Slaves with a record of their calls -/

/-- A slave with the motor calls that it has made. -/
structure Traced where
  node : Node
  calls : List MotorCall

namespace Traced

/-- The address of the slave. -/
def address (slave : Traced) : UInt8 :=
  slave.node.address

/-- The motor of the slave. -/
def motor (slave : Traced) : Motor :=
  slave.node.controller.motor

/-- The slave after an event on the bus. -/
def after
    (slave : Traced)
    (node : Node) : Traced :=
  { slave with node := node }

/-- The main loop runs until it waits for the bus. -/
def settle (slave : Traced) : Traced where
  node := slave.node.settle
  calls := slave.calls ++ slave.node.settleCalls

end Traced

/-- The slaves after a transaction. -/
def tracedAfter
    (slaves : List Traced)
    (network : Network) : List Traced :=
  (List.zipWith Traced.after slaves network).map Traced.settle

/-- `Network.bus`, with the calls of the slaves recorded. -/
def tracedBus
    (uninitialised : List Traced → Memory) :
    Master.Bus (List Traced) where
  twiSend addr data slaves :=
    tracedAfter slaves
      (Network.write (addr &&& 0x7F) data (slaves.map Traced.node))
  twiRecv addr toRecv slaves :=
    (⟨(Network.read (addr &&& 0x7F) toRecv
          (slaves.map Traced.node)).1,
        Network.length_read _ _ _⟩,
      tracedAfter slaves
        (Network.read (addr &&& 0x7F) toRecv
          (slaves.map Traced.node)).2)
  uninitialised := uninitialised

/-- Apart from the record, the slaves are those of the network. -/
theorem node_tracedAfter
    (slaves : List Traced)
    {network : Network}
    (sameLength : network.length = slaves.length) :
    (tracedAfter slaves network).map Traced.node =
      network.map Node.settle := by
  rw [tracedAfter, List.map_map, List.map_zipWith]
  apply List.ext_getElem
  · simp [sameLength]
  · intro index _ _
    simp [Traced.settle, Traced.after]

/-- The slave waits for a command, and listens to general calls. -/
structure Listening (slave : Traced) : Prop where
  armed : Armed slave.node
  general : slave.node.controller.driver.twar &&& 1 = 1
  low : slave.address ≤ 126

namespace Listening

variable {slave : Traced} {addr : UInt8}

/-- It acknowledges its own address and the general call. -/
theorem acksWrite_iff (listening : Listening slave) :
    slave.node.acksWrite addr = true ↔
      addr = 0 ∨ addr = slave.address := by
  rw [Node.acksWrite, listening.armed.twea, Bool.true_and]
  by_cases general : addr = 0
  · simp [general, listening.general]
  · simp [general, Traced.address]

theorem receptive
    (listening : Listening slave)
    (addr : UInt8) :
    Receptive addr slave.node := by
  by_cases acked : slave.node.acksWrite addr = true
  · exact Or.inl ⟨listening.armed, acked⟩
  · exact Or.inr ⟨listening.armed.phase, acked⟩

/-- A slave that is addressed makes the call. -/
theorem called
    (listening : Listening slave)
    (addressed : addr = 0 ∨ addr = slave.address)
    (call : MotorCall) :
    Listening (slave.after (slave.node.write addr call.frame)).settle ∧
      (slave.after (slave.node.write addr call.frame)).settle.calls =
        slave.calls ++ [call] ∧
      (slave.after (slave.node.write addr call.frame)).settle.address =
        slave.address ∧
      (slave.after (slave.node.write addr call.frame)).settle.motor =
        call.perform slave.motor := by
  obtain ⟨received, kept⟩ :=
    listening.armed.write (listening.acksWrite_iff.mpr addressed)
      call.frame call.short
  obtain ⟨armed, calls, register⟩ :=
    received.settle_of_call (callOfCommand_frame received.stored)
  have sameRegister :
      (slave.node.write addr call.frame).settle.controller.driver.twar =
        slave.node.controller.driver.twar :=
    register.trans (congrArg Prod.snd kept)
  have sameAddress :
      (slave.node.write addr call.frame).settle.address =
        slave.address :=
    congrArg (fun register => register >>> (1 : UInt8)) sameRegister
  refine ⟨⟨armed, ?_, ?_⟩, ?_, sameAddress, ?_⟩
  · exact
      (congrArg (fun register => register &&& (1 : UInt8))
        sameRegister).trans listening.general
  · change (slave.node.write addr call.frame).settle.address ≤ 126
    rw [sameAddress]
    exact listening.low
  · exact congrArg (slave.calls ++ ·) calls
  · have sameMotor :
        (slave.node.write addr call.frame).controller.motor =
          slave.motor :=
      congrArg Prod.fst kept
    change (slave.node.write addr call.frame).settle.controller.motor = _
    rw [motor_settle, calls, sameMotor]
    rfl

/-- A slave that is not addressed stays as it is. -/
theorem passed
    (listening : Listening slave)
    (other : ¬ (addr = 0 ∨ addr = slave.address))
    (data : List UInt8) :
    (slave.after (slave.node.write addr data)).settle = slave := by
  have armed := listening.armed
  have refused : ¬ slave.node.acksWrite addr = true := fun acked =>
    other (listening.acksWrite_iff.mp acked)
  rw [(write_refused armed.phase refused data).2]
  have noCalls : slave.node.settleCalls = [] := by
    rw [Node.settleCalls, armed.mainStep, armed.mainStep,
      Node.stepCalls, armed.place]
    rfl
  change
    Traced.mk slave.node.settle (slave.calls ++ slave.node.settleCalls) =
      slave
  rw [armed.settle, noCalls, List.append_nil]

end Listening

/-- A slave that has been set up, and waits for its first command. -/
def bootedSlave (ownAddressEeprom : UInt8) : Traced where
  node :=
    { controller := mainStep (setup ownAddressEeprom fun _ => 0)
      phase := .released }
  calls := []

theorem address_bootedSlave
    {ownAddress : UInt8}
    (low : ownAddress ≤ 126) :
    (bootedSlave ownAddress).address = ownAddress :=
  (twar_bits low).1

theorem listening_bootedSlave
    {ownAddress : UInt8}
    (low : ownAddress ≤ 126) :
    Listening (bootedSlave ownAddress) where
  armed := ⟨⟨rfl, rfl, rfl, rfl⟩, rfl⟩
  general := (twar_bits low).2
  low := by
    rw [address_bootedSlave low]
    exact low

/-- A write to listening slaves reaches each of them by itself. -/
theorem twiSend_listening
    (uninitialised : List Traced → Memory)
    {addr : UInt8}
    (low : addr ≤ 126)
    {slaves : List Traced}
    (listening : ∀ slave ∈ slaves, Listening slave)
    (data : List UInt8)
    (short : data.length < 2 ^ 16) :
    (tracedBus uninitialised).twiSend addr data slaves =
      slaves.map fun slave =>
        (slave.after (slave.node.write addr data)).settle := by
  have receptive :
      ∀ node ∈ slaves.map Traced.node, Receptive addr node := by
    intro node member
    obtain ⟨slave, inSlaves, rfl⟩ := List.mem_map.mp member
    exact (listening slave inSlaves).receptive addr
  change
    tracedAfter slaves
      (Network.write (addr &&& 0x7F) data (slaves.map Traced.node)) = _
  rw [and_0x7F low, write_map receptive short, tracedAfter,
    List.map_map, List.zipWith_map_right, List.zipWith_self,
    List.map_map]
  rfl

end Ammc.Slave
