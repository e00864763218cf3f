import Ammc.SlaveBus

namespace Ammc.Slave

open ByteMemory Twi DcMotor

/-!
# The stages of a slave

Between two arrivals of a command a slave goes through a few stages, which are
told apart by the place of its main loop, the mode of its driver, the last write
to `TWCR`, and its part in the current transaction.  Every step of the main loop
and every event on the bus leads from one stage to the next.
-/

/-- What tells the stages apart. -/
structure Standing
    (place : Place)
    (phase : Phase)
    (mode : Mode)
    (twea : Bool)
    (node : Node) : Prop where
  place : node.controller.place = place
  phase : node.phase = phase
  mode : node.controller.driver.mode = mode
  twea : node.controller.driver.twcr.twea = twea

/-- The slave waits in `twi_recv` for a command. -/
structure Armed (node : Node) : Prop
    extends Standing .inRecv .released .initializing true node where
  count : node.controller.driver.rxIdx = 0

/-- The slave has received the bytes `got` of a command. -/
structure Receiving
    (general : Bool)
    (got : List UInt8)
    (node : Node) : Prop
    extends Standing .inRecv (.receiver general) .receiving true node where
  count : node.controller.driver.rxIdx = got.length
  stored : node.controller.driver.rxBuffer.bytes 0 got.length = got

/-- A command has been received to its end. -/
structure Received
    (frame : List UInt8)
    (node : Node) : Prop
    extends Standing .inRecv .released .ready false node where
  count : node.controller.driver.rxIdx = frame.length
  stored : node.controller.driver.rxBuffer.bytes 0 frame.length = frame

/-- `twi_recv` has returned, and the command is about to be executed. -/
structure Executing
    (frame : List UInt8)
    (node : Node) : Prop
    extends Standing (.afterRecv (UInt8.ofNat frame.length)) .released
      .ready false node where
  stored : node.controller.driver.rxBuffer.bytes 0 frame.length = frame

/-- The slave is about to arm a reply. -/
structure Responding
    (reply : List UInt8)
    (node : Node) : Prop
    extends Standing (.beforeSend reply) .released .ready false node

/-- The slave waits until its reply is read. -/
structure Replying
    (reply : List UInt8)
    (node : Node) : Prop
    extends Standing .beforeRecv .released .initializing true node where
  count : node.controller.driver.txIdx = 0
  loaded : node.controller.driver.txBuffer.bytes 0 reply.length = reply

/-- The slave puts the byte `sent` of its reply on the bus. -/
structure Transmitting
    (reply : List UInt8)
    (sent : Nat)
    (node : Node) : Prop
    extends Standing .beforeRecv .transmitter .transmitting true node where
  count : node.controller.driver.txIdx = sent + 1
  loaded : node.controller.driver.txBuffer.bytes 0 reply.length = reply
  driving :
    node.controller.driver.twdr = node.controller.driver.txBuffer sent

/-- The slave is about to arm `twi_recv`. -/
structure Resting (node : Node) : Prop
    extends Standing .beforeRecv .released .ready false node

/-! ## Events on the bus -/

/-- The slave takes part in a write. -/
theorem Armed.addressWrite
    {node : Node}
    (armed : Armed node)
    {addr : UInt8}
    (acked : node.acksWrite addr = true) :
    (node.addressWrite addr).1 = true ∧
    Receiving (addr = 0) [] (node.addressWrite addr).2 := by
  rw [Node.addressWrite, if_pos acked]
  refine ⟨rfl, ?_⟩
  by_cases general : addr = 0
  · simp only [general, decide_true, ↓reduceIte]
    exact ⟨⟨armed.place, rfl, rfl, rfl⟩, armed.count, rfl⟩
  · simp only [general, decide_false, ↓reduceIte]
    exact ⟨⟨armed.place, rfl, rfl, rfl⟩, armed.count, rfl⟩

/-- A further byte is stored behind the others and acknowledged. -/
theorem Receiving.writeByte
    {general : Bool}
    {got : List UInt8}
    {node : Node}
    (receiving : Receiving general got node)
    (short : got.length < 2 ^ 16 - 1)
    (byte : UInt8) :
    (node.writeByte byte).1 = true ∧
    Receiving general (got ++ [byte]) (node.writeByte byte).2 := by
  have stored := receiving.stored
  rw [Node.writeByte, receiving.phase]
  simp only [receiving.twea, ↓reduceIte, true_and]
  have driver :
      ((node.latch byte).interrupt
          (if general then Status.srGcallDataAck else .srDataAck)).controller.driver =
        ((node.latch byte).controller.driver.isr .srDataAck) := by
    cases general
    · rfl
    · rfl
  refine ⟨⟨receiving.place, receiving.phase, ?_, ?_⟩, ?_, ?_⟩
  · rw [driver]
    exact receiving.mode
  · rw [driver]
    rfl
  · rw [driver]
    change sizeSucc node.controller.driver.rxIdx = _
    rw [receiving.count, sizeSucc_of_lt short, List.length_append,
      List.length_singleton]
  · rw [driver]
    change
      (node.controller.driver.rxBuffer.store
        node.controller.driver.rxIdx [byte]).bytes 0 _ = _
    have last :=
      node.controller.driver.rxBuffer.bytes_store_self got.length [byte]
    rw [List.length_singleton] at last
    rw [receiving.count, List.length_append, Memory.bytes_add,
      Memory.bytes_store_before _ _ (Nat.le_of_eq (Nat.zero_add _)),
      stored, Nat.zero_add, List.length_singleton, last]

/-- The end of a write completes the command. -/
theorem Receiving.stop
    {general : Bool}
    {got : List UInt8}
    {node : Node}
    (receiving : Receiving general got node) :
    Received got node.stop := by
  rw [Node.stop, receiving.phase]
  exact
    ⟨⟨receiving.place, rfl, rfl, rfl⟩, receiving.count,
      receiving.stored⟩

/-- A reply that is read begins with its first byte. -/
theorem Replying.addressRead
    {reply : List UInt8}
    {node : Node}
    (replying : Replying reply node)
    {addr : UInt8}
    (acked : node.acksRead addr = true) :
    (node.addressRead addr).1 = true ∧
    Transmitting reply 0 (node.addressRead addr).2 := by
  have begun := replying.count
  rw [Node.addressRead, if_pos acked]
  refine
    ⟨rfl, ⟨replying.place, rfl, rfl, rfl⟩, ?_, replying.loaded, ?_⟩
  · change sizeSucc node.controller.driver.txIdx = 1
    rw [begun]
    rfl
  · change
      node.controller.driver.txBuffer node.controller.driver.txIdx =
        node.controller.driver.txBuffer 0
    rw [begun]

/-- The byte on the bus belongs to the reply. -/
theorem Transmitting.driven
    {reply : List UInt8}
    {sent : Nat}
    {node : Node}
    (transmitting : Transmitting reply sent node)
    (inside : sent < reply.length)
    (acked : Bool) :
    (node.readByte acked).1 = some reply[sent] := by
  have loaded := transmitting.loaded
  have byte :
      node.controller.driver.txBuffer sent = reply[sent] := by
    have entry :
        (node.controller.driver.txBuffer.bytes 0 reply.length)[sent]? =
          reply[sent]? := by
      rw [loaded]
    simp only [Memory.bytes, List.getElem?_map,
      List.getElem?_range inside, Option.map_some, Nat.zero_add,
      List.getElem?_eq_getElem inside, Option.some.injEq] at entry
    exact entry
  rw [Node.readByte, transmitting.phase]
  simp only
  rw [transmitting.driving, byte]

/-- An acknowledged byte is followed by the next one. -/
theorem Transmitting.next
    {reply : List UInt8}
    {sent : Nat}
    {node : Node}
    (transmitting : Transmitting reply sent node)
    (short : sent + 1 < 2 ^ 16 - 1) :
    Transmitting reply (sent + 1) (node.readByte true).2 := by
  have count := transmitting.count
  rw [Node.readByte, transmitting.phase]
  simp only [transmitting.twea, ↓reduceIte]
  refine
    ⟨⟨transmitting.place, transmitting.phase, transmitting.mode, rfl⟩,
      ?_, transmitting.loaded, ?_⟩
  · change sizeSucc node.controller.driver.txIdx = _
    rw [count, sizeSucc_of_lt short]
  · change
      node.controller.driver.txBuffer node.controller.driver.txIdx =
        node.controller.driver.txBuffer (sent + 1)
    rw [count]

/-- A byte that is not acknowledged is the last one. -/
theorem Transmitting.last
    {reply : List UInt8}
    {sent : Nat}
    {node : Node}
    (transmitting : Transmitting reply sent node) :
    Resting (node.readByte false).2 := by
  rw [Node.readByte, transmitting.phase]
  exact ⟨transmitting.place, rfl, rfl, rfl⟩

/-! ## Steps of the main loop -/

/-- The slave on the bus makes a step of its main loop. -/
def Node.mainStep (node : Node) : Node :=
  { node with
    controller := Slave.mainStep node.controller }

/-- A slave whose driver is not ready sleeps. -/
theorem Armed.mainStep
    {node : Node}
    (armed : Armed node) :
    node.mainStep = node := by
  rw [Node.mainStep, Slave.mainStep, armed.place]
  simp [Driver.isReady, armed.mode]

theorem Receiving.mainStep
    {general : Bool}
    {got : List UInt8}
    {node : Node}
    (receiving : Receiving general got node) :
    node.mainStep = node := by
  rw [Node.mainStep, Slave.mainStep, receiving.place]
  simp [Driver.isReady, receiving.mode]

theorem Replying.mainStep
    {reply : List UInt8}
    {node : Node}
    (replying : Replying reply node) :
    node.mainStep = node := by
  rw [Node.mainStep, Slave.mainStep, replying.place]
  simp [Driver.isReady, replying.mode]

theorem Transmitting.mainStep
    {reply : List UInt8}
    {sent : Nat}
    {node : Node}
    (transmitting : Transmitting reply sent node) :
    node.mainStep = node := by
  rw [Node.mainStep, Slave.mainStep, transmitting.place]
  simp [Driver.isReady, transmitting.mode]

theorem Received.mainStep
    {frame : List UInt8}
    {node : Node}
    (received : Received frame node) :
    Executing frame node.mainStep := by
  rw [Node.mainStep, Slave.mainStep, received.place]
  simp only [Driver.isReady, received.mode, decide_true, ↓reduceIte]
  exact
    ⟨⟨by rw [received.count], received.phase, received.mode,
      received.twea⟩, received.stored⟩

theorem Responding.mainStep
    {reply : List UInt8}
    {node : Node}
    (responding : Responding reply node) :
    Replying reply node.mainStep := by
  rw [Node.mainStep, Slave.mainStep, responding.place]
  simp only [Driver.isReady, responding.mode, decide_true, ↓reduceIte]
  exact
    ⟨⟨rfl, responding.phase, rfl, rfl⟩, rfl,
      node.controller.driver.txBuffer.bytes_store_self 0 reply⟩

theorem Resting.mainStep
    {node : Node}
    (resting : Resting node) :
    Armed node.mainStep := by
  rw [Node.mainStep, Slave.mainStep, resting.place]
  simp only [Driver.isReady, resting.mode, decide_true, ↓reduceIte]
  exact ⟨⟨rfl, resting.phase, rfl, rfl⟩, rfl⟩

/-- A command leaves the driver ready, and the slave disarmed. -/
structure Executed (controller : Controller) : Prop where
  place :
    controller.place = .beforeRecv ∨
      ∃ response, controller.place = .beforeSend response
  mode : controller.driver.mode = .ready
  twea : controller.driver.twcr.twea = false

theorem executed_commandRespond
    (response : List UInt8)
    {controller : Controller}
    (mode : controller.driver.mode = .ready)
    (twea : controller.driver.twcr.twea = false) :
    Executed (commandRespond response controller) := by
  rw [commandRespond]
  split
  · exact ⟨Or.inl rfl, mode, twea⟩
  · exact ⟨Or.inr ⟨response, rfl⟩, mode, twea⟩

theorem executed_executeCommand
    (cmd : Memory)
    (cmdSize : UInt8)
    {controller : Controller}
    (mode : controller.driver.mode = .ready)
    (twea : controller.driver.twcr.twea = false) :
    Executed (executeCommand cmd cmdSize controller) := by
  simp only [executeCommand]
  split
  · exact ⟨Or.inl rfl, mode, twea⟩
  split
  · exact executed_commandRespond _ mode twea
  split
  · exact ⟨Or.inl rfl, mode, twea⟩
  split
  · exact ⟨Or.inl rfl, mode, twea⟩
  split
  · exact executed_commandRespond _ mode twea
  split
  · exact ⟨Or.inl rfl, mode, rfl⟩
  · exact ⟨Or.inl rfl, mode, twea⟩

/-- The reply that a slave is about to arm. -/
def Node.response (node : Node) : Option (List UInt8) :=
  match node.controller.place with
  | .beforeSend response => some response
  | _ => none

/-- A command is answered with a reply or with none. -/
theorem Executing.mainStep
    {frame : List UInt8}
    {node : Node}
    (executing : Executing frame node) :
    (∃ reply,
      node.mainStep.response = some reply ∧
        Responding reply node.mainStep) ∨
    (node.mainStep.response = none ∧ Resting node.mainStep) := by
  have executed :=
    executed_executeCommand node.controller.driver.rxBuffer
      (UInt8.ofNat frame.length) executing.mode executing.twea
  have step :
      node.mainStep =
        { node with
          controller :=
            executeCommand node.controller.driver.rxBuffer
              (UInt8.ofNat frame.length) node.controller } := by
    rw [Node.mainStep, Slave.mainStep, executing.place]
  rw [step]
  rcases executed.place with resting | ⟨reply, responding⟩
  · right
    refine
      ⟨?_, resting, executing.phase, executed.mode, executed.twea⟩
    simp only [Node.response, resting]
  · left
    refine
      ⟨reply, ?_, responding, executing.phase, executed.mode,
        executed.twea⟩
    simp only [Node.response, responding]

/-- A speed request is answered with the bytes of the sampled speed. -/
theorem Executing.response_getSpeed
    {node : Node}
    (executing : Executing [Master.CommandId.getSpeed.code] node) :
    node.mainStep.response =
      some (rpmBytes node.controller.motor.speedActual) := by
  have identified :
      node.controller.driver.rxBuffer 0 =
        Master.CommandId.getSpeed.code := by
    have stored := executing.stored
    simp only [List.length_singleton, Memory.bytes_succ,
      Memory.bytes_zero, List.cons.injEq, and_true] at stored
    exact stored
  rw [Node.mainStep, Slave.mainStep, executing.place]
  simp [executeCommand, commandIsvalid, identified, commandRespond, txMaxLen,
    Node.response, dcmotorGet]

/-- A ping is answered with its argument. -/
theorem Executing.response_ping
    {argument : UInt8}
    {node : Node}
    (executing :
      Executing [Master.CommandId.ping.code, argument] node) :
    node.mainStep.response = some [argument] := by
  have stored := executing.stored
  simp only [List.length_cons, List.length_nil, Memory.bytes_succ,
    Memory.bytes_zero, List.cons.injEq, and_true] at stored
  obtain ⟨identified, carried⟩ := stored
  rw [Node.mainStep, Slave.mainStep, executing.place]
  simp [executeCommand, commandIsvalid, identified, carried, commandRespond, txMaxLen,
    Node.response, Master.CommandId.code, Memory.bytes_succ]

/-! ## What the bus leaves alone -/

/-- The motor and the address register. -/
def Node.kept (node : Node) : Motor × UInt8 :=
  (node.controller.motor, node.controller.driver.twar)

@[simp] theorem kept_interrupt
    (status : Status)
    (node : Node) :
    (node.interrupt status).kept = node.kept := by
  cases status with
  | _ => rfl

@[simp] theorem kept_addressWrite
    (addr : UInt8)
    (node : Node) :
    (node.addressWrite addr).2.kept = node.kept := by
  rw [Node.addressWrite]
  split
  · exact kept_interrupt _ _
  · rfl

@[simp] theorem kept_writeByte
    (byte : UInt8)
    (node : Node) :
    (node.writeByte byte).2.kept = node.kept := by
  rw [Node.writeByte]
  split
  · split
    · exact kept_interrupt _ _
    · exact kept_interrupt _ _
  · rfl

@[simp] theorem kept_stop (node : Node) :
    node.stop.kept = node.kept := by
  rw [Node.stop]
  split
  · exact kept_interrupt _ _
  · rfl

/-- Only a command that is executed changes the motor or the address. -/
theorem kept_mainStep
    {node : Node}
    (waiting :
      ∀ commandSize, node.controller.place ≠ .afterRecv commandSize) :
    node.mainStep.kept = node.kept := by
  rw [Node.mainStep, Slave.mainStep]
  split
  · split
    · rfl
    · rfl
  · split
    · rfl
    · rfl
  · rename_i commandSize executing
    exact absurd executing (waiting commandSize)
  · split
    · rfl
    · rfl

/-- A command that is answered changes nothing but the place. -/
theorem executeCommand_of_response
    {cmd : Memory}
    {cmdSize : UInt8}
    {controller : Controller}
    {response : List UInt8} :
    (executeCommand cmd cmdSize controller).place =
        .beforeSend response →
      executeCommand cmd cmdSize controller =
        { controller with place := .beforeSend response } := by
  have responds :
      ∀ answer,
        (commandRespond answer controller).place =
            .beforeSend response →
          commandRespond answer controller =
            { controller with place := .beforeSend response } := by
    intro answer
    rw [commandRespond]
    split
    · rintro ⟨⟩
    · rintro ⟨⟩
      rfl
  simp only [executeCommand]
  split
  · rintro ⟨⟩
  split
  · exact responds _
  split
  · rintro ⟨⟩
  split
  · rintro ⟨⟩
  split
  · exact responds _
  split
  · rintro ⟨⟩
  · rintro ⟨⟩

theorem Executing.kept_mainStep
    {frame reply : List UInt8}
    {node : Node}
    (executing : Executing frame node)
    (response : node.mainStep.response = some reply) :
    node.mainStep.kept = node.kept := by
  rw [Node.mainStep, Slave.mainStep, executing.place] at response ⊢
  simp only [Node.response] at response
  split at response
  · rename_i answer place
    have unchanged := executeCommand_of_response place
    simp only [Node.kept, unchanged]
  · cases response

end Ammc.Slave
