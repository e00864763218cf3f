import Ammc.MasterTraffic
import Ammc.RelatedRuns

namespace Ammc.Master

open ByteMemory Serial Packet DcMotor

/-!
# Memory that nobody has written

The packet buffer keeps what lies behind a packet, and local variables start
with what they find.  Two runs of the handler on the same packet, with the same
answers of the slaves, are compared when all of this memory differs.
-/

/-- Both ports have nothing to read and the same traffic behind them. -/
structure Coupled
    (history : List Transaction)
    (port : Port signature (Recorded σ))
    (other : Port signature (Recorded τ)) : Prop where
  drained : port.input = []
  otherDrained : other.input = []
  sent : other.sent = port.sent
  traffic : port.env.history = history
  otherTraffic : other.env.history = history

section Alike

variable {σ τ α β γ ζ : Type}
variable (answers : Answers)
variable (stale : σ → Memory × σ) (other : τ → Memory × τ)

/-- From one history to another, both programs do the same to the outside. -/
def Alike
    (before : List Transaction)
    (first : MasterProg α)
    (second : MasterProg β)
    (results : α → β → Prop)
    (after : List Transaction) : Prop :=
  Together (recordingWorld answers stale) (recordingWorld answers other)
    (Coupled before) first second
    fun value result port otherPort =>
      results value result ∧ Coupled after port otherPort

variable {answers stale other}
variable {history between after : List Transaction}

theorem Alike.bind
    {first : MasterProg α}
    {second : MasterProg β}
    {next : α → MasterProg γ}
    {following : β → MasterProg ζ}
    {results : α → β → Prop}
    {last : γ → ζ → Prop}
    (starts :
      Alike answers stale other history first second results between)
    (continues :
      ∀ value result,
        results value result →
          Alike answers stale other between (next value)
            (following result) last after) :
    Alike answers stale other history (first >>= next)
      (second >>= following) last after :=
  Together.bind starts fun value result =>
    Together.assuming fun related => continues value result related

theorem Alike.done
    {value : α}
    {result : β}
    {results : α → β → Prop}
    (related : results value result) :
    Alike answers stale other history (pure value) (pure result)
      results history :=
  Together.done fun _ _ coupled => ⟨related, coupled⟩

/-- The contents of a variable without a first assignment are unrelated. -/
theorem alike_uninitialised :
    Alike answers stale other history (ask .uninitialised)
      (ask .uninitialised) (fun _ _ => True) history := by
  intro port otherPort coupled
  exact
    ⟨_, _, _, _, rfl, rfl, trivial, coupled.drained,
      coupled.otherDrained, coupled.sent, coupled.traffic,
      coupled.otherTraffic⟩

theorem alike_twiSend
    (addr : UInt8)
    {first second data : List UInt8}
    (same : first = data)
    (otherSame : second = data) :
    Alike answers stale other history (ask (.twiSend addr first))
      (ask (.twiSend addr second)) (fun _ _ => True)
      (history ++ [.sent addr data]) := by
  subst first second
  intro port otherPort coupled
  exact
    ⟨_, _, _, _, rfl, rfl, trivial, coupled.drained,
      coupled.otherDrained, coupled.sent,
      congrArg (· ++ [Transaction.sent addr data]) coupled.traffic,
      congrArg (· ++ [Transaction.sent addr data])
        coupled.otherTraffic⟩

/-- The slaves answer both masters in the same way. -/
theorem alike_twiRecv
    (addr : UInt8)
    (toRecv : Nat) :
    Alike answers stale other history (ask (.twiRecv addr toRecv))
      (ask (.twiRecv addr toRecv))
      (fun bytes otherBytes =>
        bytes = answers history addr toRecv ∧
          otherBytes = answers history addr toRecv)
      (history ++
        [.received addr toRecv (answers history addr toRecv).val]) := by
  intro port otherPort coupled
  obtain ⟨drained, otherDrained, sent, rfl, otherTraffic⟩ := coupled
  refine
    ⟨_, _, _, _, rfl, rfl, ⟨rfl, ?_⟩, drained, otherDrained, sent, rfl,
      ?_⟩
  · change answers otherPort.env.history addr toRecv = _
    rw [otherTraffic]
  · change
      otherPort.env.history ++
          [.received addr toRecv
            (answers otherPort.env.history addr toRecv).val] = _
    rw [otherTraffic]

theorem alike_transmit (bytes : List UInt8) :
    Alike answers stale other history (Prog.transmit bytes)
      (Prog.transmit bytes) (fun _ _ => True) history := by
  intro port otherPort coupled
  refine
    ⟨_, _, _, _, rfl, rfl, trivial, ?_, ?_, ?_, coupled.traffic,
      coupled.otherTraffic⟩
  · simp [Port.transmitted, coupled.drained]
  · simp [Port.transmitted, coupled.otherDrained]
  · exact congrArg (· ++ [bytes]) coupled.sent

/-- `serial_tx` looks at the bytes that it sends. -/
theorem alike_serialTx
    {buf otherBuf : Memory}
    {size : UInt8}
    (same : buf.bytes 0 size.toNat = otherBuf.bytes 0 size.toNat) :
    Alike answers stale other history (serialTx buf size)
      (serialTx otherBuf size) (fun _ _ => True) history := by
  rw [serialTx, serialTx, ← same]
  split
  · exact Alike.done trivial
  · exact
      (alike_transmit _).bind fun _ _ _ =>
        Alike.done trivial

/-- `communication_send` looks at the body that it is given. -/
theorem alike_communicationSend
    (globalId selector : UInt8)
    {type bodySize : UInt8}
    {body otherBody : Option Memory}
    (craftable : Craftable type body bodySize)
    (otherCraftable : Craftable type otherBody bodySize)
    (same : bodyBytes body bodySize = bodyBytes otherBody bodySize) :
    Alike answers stale other history
      (communicationSend globalId type selector bodySize body)
      (communicationSend globalId type selector bodySize otherBody)
      (fun _ _ => True) history := by
  refine alike_uninitialised.bind fun memory otherMemory _ => ?_
  obtain ⟨crafted, written, size, bytes⟩ :=
    craft_of_craftable crc memory globalId selector craftable
  obtain ⟨otherCrafted, otherWritten, otherSize, otherBytes⟩ :=
    craft_of_craftable crc otherMemory globalId selector otherCraftable
  have sameSize : packetGetSize otherCrafted = packetGetSize crafted :=
    UInt8.toNat_inj.mp (by rw [size, otherSize])
  rw [sameSize] at otherBytes
  simp only [packetCraft, written, otherWritten, sameSize]
  refine (alike_serialTx ?_).bind fun _ _ _ => Alike.done trivial
  rw [bytes, otherBytes, same]

/-- `master_send_command` looks at the argument that it is given. -/
theorem alike_masterSendCommand
    (slaveId id : UInt8)
    {arg otherArg : Option Memory}
    {argSize : UInt8}
    (given : arg = none → argSize = 0)
    (otherGiven : otherArg = none → argSize = 0)
    (same : bodyBytes arg argSize = bodyBytes otherArg argSize) :
    Alike answers stale other history
      (masterSendCommand slaveId id arg argSize)
      (masterSendCommand slaveId id otherArg argSize)
      (fun _ _ => True)
      (history ++ [.sent slaveId (id :: bodyBytes arg argSize)]) := by
  refine alike_uninitialised.bind fun memory otherMemory _ => ?_
  refine
    alike_twiSend slaveId (bytes_prepareCommand memory id given) ?_
  rw [bytes_prepareCommand otherMemory id otherGiven, same]

/-- `master_recv_response` stores the same bytes in both buffers. -/
theorem alike_masterRecvResponse
    (slaveId size : UInt8)
    (buf otherBuf : Memory) :
    Alike answers stale other history
      (masterRecvResponse slaveId buf size)
      (masterRecvResponse slaveId otherBuf size)
      (fun received otherReceived =>
        received =
            ((answers history slaveId size.toNat).val.length,
              buf.store 0 (answers history slaveId size.toNat).val) ∧
          otherReceived =
            ((answers history slaveId size.toNat).val.length,
              otherBuf.store 0
                (answers history slaveId size.toNat).val))
      (history ++
        [.received slaveId size.toNat
          (answers history slaveId size.toNat).val]) := by
  refine (alike_twiRecv slaveId size.toNat).bind ?_
  rintro bytes otherBytes ⟨rfl, rfl⟩
  exact Alike.done ⟨rfl, rfl⟩

/-! ## Operations -/

theorem packetGetBodySize_landed
    (frame : Frame)
    (rx : Memory) :
    packetGetBodySize (frame.landed rx) = frame.size - 4 - 1 := by
  rw [packetGetBodySize]
  exact
    congrArg (fun size => size - 4 - 1)
      (frame.landed_header rx (by decide))

variable (frame : Frame) (globalId : UInt8) (rx otherRx : Memory)

/-- Both buffers show the same bytes behind the header. -/
theorem bytes_packetBody_eq
    {count : Nat}
    (inRest : count ≤ frame.rest.length) :
    (packetBody (frame.landed rx)).bytes 0 count =
      (packetBody (frame.landed otherRx)).bytes 0 count := by
  rw [frame.bytes_packetBody_landed rx inRest,
    frame.bytes_packetBody_landed otherRx inRest]

/-- An operation hands both handlers back to the same state. -/
def BothReceiving (state otherState : HandlerState) : Prop :=
  state = .receiving ∧ otherState = .receiving

theorem alike_opEcho :
    Alike answers stale other history
      (opEcho globalId (frame.landed rx))
      (opEcho globalId (frame.landed otherRx)) BothReceiving
      history := by
  have size := frame.bodySize_landed rx
  rw [packetGetBodySize_landed] at size
  have restFits := frame.fits
  have fits : (frame.size - 4 - 1).toNat ≤ bodyMaxLen := by
    simp only [size, bodyMaxLen]
    omega
  have inRest : (frame.size - 4 - 1).toNat ≤ frame.rest.length := by
    rw [size]
    exact Nat.sub_le _ _
  simp only [opEcho, packetGetBodySize_landed]
  exact
    (alike_communicationSend globalId 0
      (craftable_of_body _ fits (by decide))
      (craftable_of_body _ fits (by decide))
      (bytes_packetBody_eq frame rx otherRx inRest)).bind
      fun _ _ _ => Alike.done ⟨rfl, rfl⟩

/-- `_op_ping` looks at its local variable once a byte is stored in it. -/
theorem alike_opPing :
    Alike answers stale other history
      (opPing globalId (frame.landed rx))
      (opPing globalId (frame.landed otherRx)) BothReceiving
      (history ++
        if frame.selector = 0 ∨ frame.selector > 127 then
          []
        else
          exchange answers history frame.selector
            [CommandId.ping.code, frame.selector] 1) := by
  simp only [opPing, packetGetSelector_landed]
  split
  · rw [List.append_nil]
    exact
      (alike_communicationSend globalId _
        (craftable_of_none (by decide))
        (craftable_of_none (by decide)) rfl).bind
        fun _ _ _ => Alike.done ⟨rfl, rfl⟩
  · rw [← append_exchange]
    refine
      (alike_masterSendCommand frame.selector CommandId.ping.code
        (by rintro ⟨⟩) (by rintro ⟨⟩) rfl).bind fun _ _ _ => ?_
    refine alike_uninitialised.bind fun buffer otherBuffer _ => ?_
    refine
      (alike_masterRecvResponse frame.selector 1 buffer
        otherBuffer).bind ?_
    rintro ⟨received, memory⟩ ⟨otherReceived, otherMemory⟩
      ⟨first, second⟩
    cases first
    cases second
    simp only [answered_iff]
    exact
      (alike_communicationSend globalId _
        (craftable_of_none (by decide))
        (craftable_of_none (by decide)) rfl).bind
        fun _ _ _ => Alike.done ⟨rfl, rfl⟩

/-- The bytes that the slave answers when it is asked for its speed. -/
def speedAnswer
    (answers : Answers)
    (history : List Transaction)
    (selector : UInt8) : List UInt8 :=
  (answers (history ++ [.sent selector [CommandId.getSpeed.code]])
    selector 2).val

/-- A variable is determined by two bytes that are stored in it. -/
theorem store_two
    (memory other : Memory)
    {bytes : List UInt8}
    (two : bytes.length = 2) :
    memory.store 0 bytes 0 = other.store 0 bytes 0 ∧
      memory.store 0 bytes 1 = other.store 0 bytes 1 := by
  match bytes, two with
  | [low, high], _ => exact ⟨rfl, rfl⟩

/-- `_op_get_speed`, when the slave answers both bytes. -/
theorem alike_opGetSpeed
    (complete :
      (speedAnswer answers history frame.selector).length = 2) :
    Alike answers stale other history
      (opGetSpeed globalId (frame.landed rx))
      (opGetSpeed globalId (frame.landed otherRx)) BothReceiving
      (history ++
        exchange answers history frame.selector
          [CommandId.getSpeed.code] 2) := by
  have speeds :
      Alike answers stale other history (dcmotorGet frame.selector)
        (dcmotorGet frame.selector) Eq
        (history ++
          exchange answers history frame.selector
            [CommandId.getSpeed.code] 2) := by
    rw [← append_exchange]
    refine alike_uninitialised.bind fun speed otherSpeed _ => ?_
    refine
      (alike_masterSendCommand frame.selector
        CommandId.getSpeed.code (fun _ => rfl) (fun _ => rfl) rfl).bind
        fun _ _ _ => ?_
    refine
      (alike_masterRecvResponse frame.selector 2 speed
        otherSpeed).bind ?_
    rintro ⟨received, memory⟩ ⟨otherReceived, otherMemory⟩
      ⟨first, second⟩
    cases first
    cases second
    obtain ⟨low, high⟩ := store_two speed otherSpeed complete
    exact Alike.done (congrArg₂ rpmOfBytes low high)
  simp only [opGetSpeed, packetGetSelector_landed, and_dcMotorSelAll]
  refine speeds.bind fun speed otherSpeed same => ?_
  subst otherSpeed
  exact
    (alike_communicationSend globalId _
      (craftable_of_body _ (by decide) (by decide))
      (craftable_of_body _ (by decide) (by decide)) rfl).bind
      fun _ _ _ => Alike.done ⟨rfl, rfl⟩

/-- `_op_set_speed`, when two bytes follow the header. -/
theorem alike_opSetSpeed
    (long : 2 ≤ frame.rest.length) :
    Alike answers stale other history
      (opSetSpeed globalId (frame.landed rx))
      (opSetSpeed globalId (frame.landed otherRx)) BothReceiving
      (history ++
        [.sent frame.selector
          (CommandId.setSpeed.code :: frame.rest.take 2)]) := by
  have argument (memory : Memory) :
      bodyBytes
          (some
            (Memory.store (fun _ => 0) 0
              (rpmBytes
                (rpmOfBytes (packetBody (frame.landed memory) 0)
                  (packetBody (frame.landed memory) 1))))) 2 =
        frame.rest.take 2 := by
    rw [bodyBytes_speed, ← frame.bytes_packetBody_landed memory long]
    rfl
  rw [← argument rx]
  simp only [opSetSpeed, packetGetSelector_landed, and_dcMotorSelAll]
  exact
    (alike_masterSendCommand frame.selector CommandId.setSpeed.code
      (by rintro ⟨⟩) (by rintro ⟨⟩)
      ((argument rx).trans (argument otherRx).symm)).bind
      fun _ _ _ => Alike.done ⟨rfl, rfl⟩

/-- `_op_apply` does not look at the packet. -/
theorem alike_opApply :
    Alike answers stale other history
      (opApply globalId (frame.landed rx))
      (opApply globalId (frame.landed otherRx)) BothReceiving
      (history ++ [.sent 0 [CommandId.applySpeed.code]]) :=
  (alike_masterSendCommand 0 CommandId.applySpeed.code (fun _ => rfl)
    (fun _ => rfl) rfl).bind fun _ _ _ => Alike.done ⟨rfl, rfl⟩

/-- `_op_set_slave_addr`, when a byte follows the header. -/
theorem alike_opSetSlaveAddr
    (long : 1 ≤ frame.rest.length) :
    Alike answers stale other history
      (opSetSlaveAddr globalId (frame.landed rx))
      (opSetSlaveAddr globalId (frame.landed otherRx)) BothReceiving
      (history ++
        [.sent frame.selector
          (CommandId.setAddr.code :: frame.rest.take 1)]) := by
  have argument (memory : Memory) :
      bodyBytes (some fun _ => packetBody (frame.landed memory) 0) 1 =
        frame.rest.take 1 := by
    rw [← frame.bytes_packetBody_landed memory long]
    rfl
  rw [← argument rx]
  simp only [opSetSlaveAddr, packetGetSelector_landed]
  exact
    (alike_masterSendCommand frame.selector CommandId.setAddr.code
      (by rintro ⟨⟩) (by rintro ⟨⟩)
      ((argument rx).trans (argument otherRx).symm)).bind
      fun _ _ _ => Alike.done ⟨rfl, rfl⟩

end Alike

/-! ## Runs of the handler -/

/-- Every byte that the operation of a packet uses has been received. -/
structure Covered
    (answers : Answers)
    (history : List Transaction)
    (frame : Frame) : Prop where
  setSpeed :
    frame.type = ComType.setSpeed.code → 2 ≤ frame.rest.length - 1
  setSlaveAddr :
    frame.type = ComType.setSlaveAddr.code → 1 ≤ frame.rest.length - 1
  getSpeed :
    frame.type = ComType.getSpeed.code →
      (speedAnswer answers history frame.selector).length = 2

/-- The transactions of a packet's operation. -/
def operated
    (answers : Answers)
    (history : List Transaction)
    (frame : Frame) : List Transaction :=
  if frame.type = ComType.ping.code then
    if frame.selector = 0 ∨ frame.selector > 127 then
      []
    else
      exchange answers history frame.selector
        [CommandId.ping.code, frame.selector] 1
  else if frame.type = ComType.getSpeed.code then
    exchange answers history frame.selector [CommandId.getSpeed.code] 2
  else if frame.type = ComType.setSpeed.code then
    [.sent frame.selector
      (CommandId.setSpeed.code :: frame.rest.take 2)]
  else if frame.type = ComType.apply.code then
    [.sent 0 [CommandId.applySpeed.code]]
  else if frame.type = ComType.setSlaveAddr.code then
    [.sent frame.selector
      (CommandId.setAddr.code :: frame.rest.take 1)]
  else
    []

section Handling

variable {σ τ : Type}
variable {answers : Answers}
variable {stale : σ → Memory × σ} {other : τ → Memory × τ}
variable {history : List Transaction}
variable (frame : Frame) (globalId : UInt8) (rx otherRx : Memory)

/-- A turn in `STATE_EXECUTE` performs the operation of the packet's type. -/
theorem alike_performed
    {action : Operation}
    {added : List Transaction}
    (registered :
      (comOperationTable[frame.type.toNat]?).join = some action)
    (alike :
      Alike answers stale other history
        (action globalId (frame.landed rx))
        (action globalId (frame.landed otherRx)) BothReceiving
        (history ++ added)) :
    Alike answers stale other history
      (communicationHandlerTurn ⟨globalId, .execute, frame.landed rx⟩)
      (communicationHandlerTurn
        ⟨globalId, .execute, frame.landed otherRx⟩)
      (fun turn otherTurn =>
        turn = .again ⟨globalId, .receiving, frame.landed rx⟩ ∧
          otherTurn =
            .again ⟨globalId, .receiving, frame.landed otherRx⟩)
      (history ++ added) := by
  simp only [communicationHandlerTurn, packetGetType_landed, registered]
  refine alike.bind ?_
  rintro state otherState ⟨rfl, rfl⟩
  exact Alike.done ⟨rfl, rfl⟩

/-- Such a turn uses what has been received. -/
theorem alike_execute (covered : Covered answers history frame) :
    Alike answers stale other history
      (communicationHandlerTurn ⟨globalId, .execute, frame.landed rx⟩)
      (communicationHandlerTurn
        ⟨globalId, .execute, frame.landed otherRx⟩)
      (fun turn otherTurn =>
        turn = .again ⟨globalId, .receiving, frame.landed rx⟩ ∧
          otherTurn =
            .again ⟨globalId, .receiving, frame.landed otherRx⟩)
      (history ++ operated answers history frame) := by
  have long := List.length_pos_iff.mpr frame.closed
  have table (code : UInt8) (same : frame.type = code) :
      (comOperationTable[frame.type.toNat]?).join =
        (comOperationTable[code.toNat]?).join := by
    rw [same]
  by_cases ping : frame.type = ComType.ping.code
  · rw [operated, if_pos ping]
    exact
      alike_performed frame globalId rx otherRx (table _ ping)
        (alike_opPing frame globalId rx otherRx)
  by_cases getSpeed : frame.type = ComType.getSpeed.code
  · rw [operated, if_neg ping, if_pos getSpeed]
    exact
      alike_performed frame globalId rx otherRx (table _ getSpeed)
        (alike_opGetSpeed frame globalId rx otherRx
          (covered.getSpeed getSpeed))
  by_cases setSpeed : frame.type = ComType.setSpeed.code
  · have body := covered.setSpeed setSpeed
    rw [operated, if_neg ping, if_neg getSpeed, if_pos setSpeed]
    exact
      alike_performed frame globalId rx otherRx (table _ setSpeed)
        (alike_opSetSpeed frame globalId rx otherRx (by omega))
  by_cases apply : frame.type = ComType.apply.code
  · rw [operated, if_neg ping, if_neg getSpeed, if_neg setSpeed,
      if_pos apply]
    exact
      alike_performed frame globalId rx otherRx (table _ apply)
        (alike_opApply frame globalId rx otherRx)
  by_cases setAddr : frame.type = ComType.setSlaveAddr.code
  · rw [operated, if_neg ping, if_neg getSpeed, if_neg setSpeed,
      if_neg apply, if_pos setAddr]
    exact
      alike_performed frame globalId rx otherRx (table _ setAddr)
        (alike_opSetSlaveAddr frame globalId rx otherRx long)
  rw [operated, if_neg ping, if_neg getSpeed, if_neg setSpeed,
    if_neg apply, if_neg setAddr]
  by_cases echo : frame.type = ComType.echo.code
  · refine alike_performed frame globalId rx otherRx (table _ echo) ?_
    rw [List.append_nil]
    exact alike_opEcho frame globalId rx otherRx
  · have inert : Inert frame.type :=
      ⟨echo, ping, getSpeed, setSpeed, apply, setAddr⟩
    rw [List.append_nil]
    simp only [communicationHandlerTurn, packetGetType_landed,
      comOperationTable_inert inert]
    exact Alike.done ⟨rfl, rfl⟩

/-- A turn in `STATE_ACK` sends the same acknowledgement. -/
theorem alike_ack :
    Alike answers stale other history
      (communicationHandlerTurn ⟨globalId, .ack, frame.landed rx⟩)
      (communicationHandlerTurn ⟨globalId, .ack, frame.landed otherRx⟩)
      (fun turn otherTurn =>
        turn =
            .again
              ⟨packetGlobalIdIncrement globalId, .execute,
                frame.landed rx⟩ ∧
          otherTurn =
            .again
              ⟨packetGlobalIdIncrement globalId, .execute,
                frame.landed otherRx⟩)
      history :=
  (alike_communicationSend globalId 0 (craftable_of_none (by decide))
    (craftable_of_none (by decide)) rfl).bind
    fun _ _ _ => Alike.done ⟨rfl, rfl⟩

/-- Both handlers have done nothing, or what the packet asks for. -/
def Progressed
    (answers : Answers)
    (history : List Transaction)
    (frame : Frame)
    (port : Port signature (Recorded σ))
    (otherPort : Port signature (Recorded τ)) : Prop :=
  ∃ after,
    (after = history ∨
      after = history ++ operated answers history frame) ∧
    Coupled after port otherPort

/-- From the outside, the two cannot be told apart. -/
theorem Progressed.outside
    {port : Port signature (Recorded σ)}
    {otherPort : Port signature (Recorded τ)}
    (progressed : Progressed answers history frame port otherPort) :
    port.sent = otherPort.sent ∧
      port.env.history = otherPort.env.history ∧
      (port.env.history = history ∨
        port.env.history =
          history ++ operated answers history frame) := by
  obtain ⟨after, which, coupled⟩ := progressed
  rw [coupled.traffic, coupled.otherTraffic, coupled.sent]
  exact ⟨rfl, rfl, which⟩

/-- Handlers with nothing to read return. -/
theorem together_idle
    {after : List Transaction}
    (rx otherRx : Memory)
    (turns : Nat)
    (performed : Bool) :
    Together (recordingWorld answers stale)
      (recordingWorld answers other) (Coupled after)
      (communicationHandler turns performed ⟨globalId, .receiving, rx⟩)
      (communicationHandler turns performed
        ⟨globalId, .receiving, otherRx⟩)
      fun _ _ => Coupled after := by
  cases turns with
  | zero => exact Together.done fun _ _ coupled => coupled
  | succ turns =>
      intro port otherPort coupled
      exact
        ⟨_, _, _, _,
          exec_communicationHandler_drained rfl globalId rx
            coupled.drained turns performed,
          exec_communicationHandler_drained rfl globalId otherRx
            coupled.otherDrained turns performed,
          coupled⟩

/-- From `STATE_EXECUTE` on, both handlers do the same. -/
theorem together_execute
    (covered : Covered answers history frame)
    (turns : Nat)
    (performed : Bool) :
    Together (recordingWorld answers stale)
      (recordingWorld answers other) (Coupled history)
      (communicationHandler turns performed
        ⟨globalId, .execute, frame.landed rx⟩)
      (communicationHandler turns performed
        ⟨globalId, .execute, frame.landed otherRx⟩)
      fun _ _ => Progressed answers history frame := by
  cases turns with
  | zero =>
      exact
        Together.done fun _ _ coupled =>
          ⟨history, Or.inl rfl, coupled⟩
  | succ turns =>
      rw [communicationHandler, communicationHandler]
      refine
        Together.bind (alike_execute frame globalId rx otherRx covered)
          fun turn otherTurn => Together.assuming ?_
      rintro ⟨rfl, rfl⟩
      exact
        (together_idle globalId _ _ turns _).consequence
          (fun _ _ coupled => coupled)
          fun _ _ _ _ coupled => ⟨_, Or.inr rfl, coupled⟩

/-- From `STATE_ACK` on, both handlers do the same. -/
theorem together_ack
    (covered : Covered answers history frame)
    (turns : Nat)
    (performed : Bool) :
    Together (recordingWorld answers stale)
      (recordingWorld answers other) (Coupled history)
      (communicationHandler turns performed
        ⟨globalId, .ack, frame.landed rx⟩)
      (communicationHandler turns performed
        ⟨globalId, .ack, frame.landed otherRx⟩)
      fun _ _ => Progressed answers history frame := by
  cases turns with
  | zero =>
      exact
        Together.done fun _ _ coupled =>
          ⟨history, Or.inl rfl, coupled⟩
  | succ turns =>
      rw [communicationHandler, communicationHandler]
      refine
        Together.bind (alike_ack frame globalId rx otherRx)
          fun turn otherTurn => Together.assuming ?_
      rintro ⟨rfl, rfl⟩
      exact
        together_execute frame _ rx otherRx covered turns _

/-- From `STATE_HND` on, both handlers do the same. -/
theorem together_hnd
    (covered : Covered answers history frame)
    (turns : Nat)
    (performed : Bool) :
    Together (recordingWorld answers stale)
      (recordingWorld answers other) (Coupled history)
      (communicationHandler turns performed
        ⟨globalId, .hnd, frame.landed rx⟩)
      (communicationHandler turns performed
        ⟨globalId, .hnd, frame.landed otherRx⟩)
      fun _ _ => Progressed answers history frame := by
  cases turns with
  | zero =>
      exact
        Together.done fun _ _ coupled =>
          ⟨history, Or.inl rfl, coupled⟩
  | succ turns =>
      exact together_ack frame 0 rx otherRx covered turns _

variable (stale other) in
/-- A whole packet is read, and then both handlers do the same. -/
theorem together_accepted
    (admitted : frame.Admitted globalId)
    (accepted : frame.verdict = .success)
    (covered : Covered answers history frame)
    (turns : Nat) :
    Together (recordingWorld answers stale)
      (recordingWorld answers other)
      (fun port otherPort =>
        (∃ stack, port = startPort frame history stack) ∧
          ∃ stack, otherPort = startPort frame history stack)
      (communicationHandler turns false ⟨globalId, .receiving, rx⟩)
      (communicationHandler turns false
        ⟨globalId, .receiving, otherRx⟩)
      fun _ _ port otherPort =>
        port.sent = otherPort.sent ∧
          port.env.history = otherPort.env.history ∧
          (port.env.history = history ∨
            port.env.history =
              history ++ operated answers history frame) := by
  rintro port otherPort ⟨⟨stack, rfl⟩, otherStack, rfl⟩
  cases turns with
  | zero =>
      exact
        ⟨_, _, _, _, rfl, rfl, rfl, rfl, Or.inl rfl⟩
  | succ turns =>
      have whole {ρ : Type} (pool : ρ) :
          (startPort frame history pool).input = frame.bytes ++ [] :=
        (List.append_nil _).symm
      have coupled :
          Coupled history
            (frame.portJudged (startPort frame history stack))
            (frame.portJudged (startPort frame history otherStack)) :=
        ⟨frame.input_portJudged (whole stack),
          frame.input_portJudged (whole otherStack), rfl, rfl, rfl⟩
      have read :=
        exec_receiving (recordingWorld answers stale) frame.toDatagram
          rx _ (whole stack) admitted
      have otherRead :=
        exec_receiving (recordingWorld answers other) frame.toDatagram
          otherRx _ (whole otherStack) admitted
      rw [exec_communicationHandler_again read,
        exec_communicationHandler_again otherRead]
      simp only [accepted, ne_eq, not_true_eq_false, ↓reduceIte]
      by_cases handshake : frame.type = ComType.hnd.code
      · simp only [handshake, ↓reduceIte]
        exact
          (together_hnd frame globalId rx otherRx covered turns
            _).consequence (fun _ _ both => both)
            (fun _ _ _ _ progressed => progressed.outside)
            _ _ coupled
      · simp only [handshake, ↓reduceIte]
        exact
          (together_ack frame globalId rx otherRx covered turns
            _).consequence (fun _ _ both => both)
            (fun _ _ _ _ progressed => progressed.outside)
            _ _ coupled

end Handling

/-! ## What a packet determines -/

/-- The port of a handler that was called with the bytes of a packet. -/
def handled
    (answers : Answers)
    (stale : σ → Memory × σ)
    (history : List Transaction)
    (globalId : UInt8)
    (frame : Frame)
    (stack : σ)
    (rx : Memory)
    (turns : Nat) : Port signature (Recorded σ) :=
  (exec (recordingWorld answers stale)
    (communicationHandler turns false ⟨globalId, .receiving, rx⟩)
    (startPort frame history stack)).2

/-- The body as long as the size field says. -/
def declaredBody (frame : Frame) : List UInt8 :=
  frame.rest.dropLast

/-- A frame to a slave takes its arguments from the declared body. -/
def ArgumentsInside
    (frame : Frame)
    (transaction : Transaction) : Prop :=
  ∃ addr id arguments,
    transaction = .sent addr (id :: arguments) ∧
      arguments <+: declaredBody frame

/--
What the handler does with a packet depends on nothing that was not received:
whatever the memory held, the same buffers go out on the line and the same
transactions on the bus, and the commands with an argument find it in the body.
-/
structure Determined
    (answers : Answers)
    (history : List Transaction)
    (globalId : UInt8)
    (frame : Frame) : Prop where
  alike :
    ∀ (σ τ : Type) (stale : σ → Memory × σ) (other : τ → Memory × τ)
        (stack : σ) (otherStack : τ) (rx otherRx : Memory)
        (turns : Nat),
      (handled answers stale history globalId frame stack rx
            turns).sent =
          (handled answers other history globalId frame otherStack
            otherRx turns).sent ∧
        (handled answers stale history globalId frame stack rx
            turns).env.history =
          (handled answers other history globalId frame otherStack
            otherRx turns).env.history
  inside :
    frame.type = ComType.setSpeed.code ∨
        frame.type = ComType.setSlaveAddr.code →
      ∀ (σ : Type) (stale : σ → Memory × σ) (stack : σ)
          (rx : Memory) (turns : Nat),
        ∃ added,
          (handled answers stale history globalId frame stack rx
              turns).env.history = history ++ added ∧
            ∀ transaction ∈ added, ArgumentsInside frame transaction

section Determination

variable {answers : Answers} {history : List Transaction}
variable {globalId : UInt8} {frame : Frame}

/-- The first bytes behind the header belong to the body. -/
theorem take_prefix_declaredBody
    {count : Nat}
    (inBody : count ≤ frame.rest.length - 1) :
    frame.rest.take count <+: declaredBody frame := by
  rw [declaredBody, List.dropLast_eq_take]
  exact List.take_prefix_take_left inBody

/--
Two runs on a packet that has brought its arguments do the same, which is to
perform its operation or, with too few turns, not yet to perform it.
-/
theorem Covered.handled_alike
    {σ τ : Type}
    (covered : Covered answers history frame)
    (admitted : frame.Admitted globalId)
    (accepted : frame.verdict = .success)
    (stale : σ → Memory × σ)
    (other : τ → Memory × τ)
    (stack : σ)
    (otherStack : τ)
    (rx otherRx : Memory)
    (turns : Nat) :
    (handled answers stale history globalId frame stack rx
          turns).sent =
        (handled answers other history globalId frame otherStack
          otherRx turns).sent ∧
      (handled answers stale history globalId frame stack rx
            turns).env.history =
          (handled answers other history globalId frame otherStack
            otherRx turns).env.history ∧
        ((handled answers stale history globalId frame stack rx
              turns).env.history = history ∨
          (handled answers stale history globalId frame stack rx
              turns).env.history =
            history ++ operated answers history frame) := by
  obtain ⟨_, portAfter, _, otherAfter, ran, otherRan, outside⟩ :=
    together_accepted stale other frame
      globalId rx otherRx admitted accepted covered turns _ _
      ⟨⟨stack, rfl⟩, otherStack, rfl⟩
  rw [handled, handled, ran, otherRan]
  exact outside

/-- A command with an argument takes it from the body. -/
theorem Covered.operated_inside
    (covered : Covered answers history frame)
    (commanding :
      frame.type = ComType.setSpeed.code ∨
        frame.type = ComType.setSlaveAddr.code)
    {transaction : Transaction}
    (member : transaction ∈ operated answers history frame) :
    ArgumentsInside frame transaction := by
  rcases commanding with setSpeed | setAddr
  · have performed :
        operated answers history frame =
          [.sent frame.selector
            (CommandId.setSpeed.code :: frame.rest.take 2)] := by
      simp [operated, setSpeed, ComType.code]
    rw [performed, List.mem_singleton] at member
    exact
      ⟨_, _, _, member,
        take_prefix_declaredBody (covered.setSpeed setSpeed)⟩
  · have performed :
        operated answers history frame =
          [.sent frame.selector
            (CommandId.setAddr.code :: frame.rest.take 1)] := by
      simp [operated, setAddr, ComType.code]
    rw [performed, List.mem_singleton] at member
    exact
      ⟨_, _, _, member,
        take_prefix_declaredBody (covered.setSlaveAddr setAddr)⟩

/-- A packet that has brought its arguments determines what happens. -/
theorem Covered.determined
    (covered : Covered answers history frame)
    (admitted : frame.Admitted globalId)
    (accepted : frame.verdict = .success) :
    Determined answers history globalId frame := by
  refine ⟨?_, ?_⟩
  · intro σ τ stale other stack otherStack rx otherRx turns
    obtain ⟨sent, traffic, _⟩ :=
      covered.handled_alike admitted accepted stale other stack
        otherStack rx otherRx turns
    exact ⟨sent, traffic⟩
  · intro commanding σ stale stack rx turns
    obtain ⟨_, _, nothing | operation⟩ :=
      covered.handled_alike admitted accepted stale stale stack stack
        rx rx turns
    · refine ⟨[], by rw [nothing, List.append_nil], ?_⟩
      rintro transaction ⟨⟩
    · exact
        ⟨_, operation, fun _ member =>
          covered.operated_inside commanding member⟩

/-- With the same memory at all times, five turns serve the packet. -/
theorem handled_recordingBus
    (admitted : frame.Admitted globalId)
    (memory rx : Memory) :
    handled answers (fun stack => (stack, stack)) history globalId
        frame memory rx 5 =
      frame.portAfter (recordingBus answers Recorded.stack) globalId rx []
        (startPort frame history memory) := by
  obtain ⟨used, few, served⟩ :=
    exec_serve (recordingBus answers Recorded.stack) frame rx
      (startPort frame history memory) (List.append_nil _).symm admitted
  have split : 5 = 4 - used + 1 + used := by
    omega
  have run := served (4 - used + 1) false
  rw [← split] at run
  rw [handled, ← world_recordingBus, run]
  exact
    congrArg Prod.snd
      (exec_communicationHandler_returned
        (recordingBus answers Recorded.stack) _ _ rfl (4 - used) true)

/-- The transactions of a run that serves the packet. -/
theorem history_portAfter
    (accepted : frame.verdict = .success)
    (memory rx : Memory) :
    (frame.portAfter (recordingBus answers Recorded.stack) globalId rx []
        (startPort frame history memory)).env =
      (effect (recordingBus answers Recorded.stack) (frame.landed rx)
        ⟨history, memory⟩).2 := by
  rw [Datagram.portAfter, Datagram.served, if_pos accepted]
  rfl

/-- The arguments of a served command lie in the body. -/
theorem Determined.arguments
    (determined : Determined answers history globalId frame)
    (admitted : frame.Admitted globalId)
    (accepted : frame.verdict = .success)
    (commanding :
      frame.type = ComType.setSpeed.code ∨
        frame.type = ComType.setSlaveAddr.code)
    {addr id : UInt8}
    {arguments : List UInt8}
    (effects :
      (effect (recordingBus answers Recorded.stack) (frame.landed fun _ => 0)
          ⟨history, fun _ => 0⟩).2.history =
        history ++ [.sent addr (id :: arguments)]) :
    arguments.length ≤ frame.rest.length - 1 := by
  obtain ⟨added, traffic, inside⟩ :=
    determined.inside commanding Memory (fun stack => (stack, stack))
      (fun _ => 0) (fun _ => 0) 5
  rw [handled_recordingBus admitted, history_portAfter accepted,
    effects] at traffic
  have same := List.append_cancel_left traffic
  obtain ⟨_, _, found, sent, isPrefix⟩ :=
    inside (.sent addr (id :: arguments)) (by rw [← same]; simp)
  cases sent
  have short := isPrefix.length_le
  rw [declaredBody, List.length_dropLast] at short
  exact short

/-- The bytes of a packet show its body. -/
theorem packetImage_body
    {id type selector : UInt8}
    {body other : List UInt8}
    (sameLength : body.length = other.length)
    (same :
      packetImage id type selector body =
        packetImage id type selector other) :
    body = other := by
  simp only [packetImage, image, List.append_assoc] at same
  have behind := (List.append_inj same rfl).2
  exact (List.append_inj behind sameLength).1

/-- The reply to a speed request shows the variable of `dcmotor_get`. -/
theorem sent_portAfter_getSpeed
    (accepted : frame.verdict = .success)
    (type : frame.type = ComType.getSpeed.code)
    (memory : Memory) :
    (frame.portAfter (recordingBus answers Recorded.stack) globalId
        (fun _ => 0) [] (startPort frame history memory)).sent =
      [packetImage (frame.ackId globalId) ComType.ack.code 0 [],
        packetImage (frame.nextId globalId) ComType.dat.code
          frame.selector
          ((memory.store 0
            (speedAnswer answers history frame.selector)).bytes 0 2)] := by
  have replied :
      (effect (recordingBus answers Recorded.stack) (frame.landed fun _ => 0)
          ⟨history, memory⟩).1 =
        some
          (frame.selector,
            (memory.store 0
              (speedAnswer answers history frame.selector)).bytes
              0 2) := by
    simp [effect, packetGetType_landed, packetGetSelector_landed, type,
      ComType.code]
    rfl
  rw [Datagram.portAfter, Datagram.served, if_pos accepted]
  change
    [] ++
        packetImage (frame.ackId globalId) ComType.ack.code 0 [] ::
          datFrames (frame.nextId globalId)
            (effect (recordingBus answers Recorded.stack)
              (frame.landed fun _ => 0) ⟨history, memory⟩).1 = _
  rw [replied]
  simp [datFrames, framed, txBufferSize]

/-- Without the second byte of the speed, the reply shows the memory. -/
theorem Determined.getSpeed
    (determined : Determined answers history globalId frame)
    (admitted : frame.Admitted globalId)
    (accepted : frame.verdict = .success)
    (type : frame.type = ComType.getSpeed.code) :
    (speedAnswer answers history frame.selector).length = 2 := by
  have sent :=
    (determined.alike Memory Memory (fun stack => (stack, stack))
      (fun stack => (stack, stack)) (fun _ => 0) (fun _ => 1)
      (fun _ => 0) (fun _ => 0) 5).1
  rw [handled_recordingBus admitted, handled_recordingBus admitted,
    sent_portAfter_getSpeed accepted type,
    sent_portAfter_getSpeed accepted type] at sent
  have images := (List.cons.inj (List.cons.inj sent).2).1
  have shown := packetImage_body (by simp) images
  have short :
      (speedAnswer answers history frame.selector).length ≤ 2 :=
    (answers
      (history ++
        [Transaction.sent frame.selector [CommandId.getSpeed.code]])
      frame.selector 2).property
  match answer : speedAnswer answers history frame.selector with
  | [] =>
      rw [answer] at shown
      exact absurd shown (by decide)
  | [low] =>
      rw [answer] at shown
      simp [Memory.bytes_succ, Memory.store] at shown
  | [low, high] => rfl
  | _ :: _ :: _ :: _ =>
      rw [answer] at short
      simp at short

/--
What the handler does with an accepted packet is determined by what has been
received, and its commands find their arguments in the body, exactly when a
speed comes with two bytes, a new address with one, and the slave that is asked
for its speed answers with two.
-/
theorem handler_determined_iff
    (answers : Answers)
    (history : List Transaction)
    (globalId : UInt8)
    (frame : Frame)
    (admitted : frame.Admitted globalId)
    (accepted : frame.verdict = .success) :
    Determined answers history globalId frame ↔
      Covered answers history frame := by
  constructor
  · intro determined
    refine ⟨fun setSpeed => ?_, fun setAddr => ?_, fun getSpeed => ?_⟩
    · have typeField := packetGetType_landed frame fun _ => 0
      exact
        determined.arguments admitted accepted (Or.inl setSpeed)
          (by simp [effect, typeField, setSpeed, ComType.code]; rfl)
    · have typeField := packetGetType_landed frame fun _ => 0
      exact
        determined.arguments admitted accepted (Or.inr setAddr)
          (by simp [effect, typeField, setAddr, ComType.code]; rfl)
    · exact determined.getSpeed admitted accepted getSpeed
  · intro covered
    exact covered.determined admitted accepted

end Determination

/-- A `SET_SPEED` packet for the slave 5 with a speed of 100. -/
def fullSetSpeed : Frame :=
  imageFrame crc 0 ComType.setSpeed.code 5 [100, 0] (by decide)

/-- A packet with both bytes of a speed. -/
theorem fullSetSpeed_determined_iff :
    Determined nobodyAnswers [] 0 fullSetSpeed ↔
      Covered nobodyAnswers [] fullSetSpeed :=
  handler_determined_iff nobodyAnswers [] 0 fullSetSpeed (Or.inl rfl)
    (by decide)

/-- A `SET_SPEED` packet for the slave 5 without a body. -/
def bareSetSpeed : Frame :=
  imageFrame crc 0 ComType.setSpeed.code 5 [] (Nat.zero_le _)

/--
A `SET_SPEED` packet without a body is accepted, and sends the slave its
checksum and the byte that lies behind it.
-/
theorem bareSetSpeed_not_determined :
    bareSetSpeed.Admitted 0 ∧ bareSetSpeed.verdict = .success ∧
      ¬ Determined nobodyAnswers [] 0 bareSetSpeed := by
  have accepted : bareSetSpeed.verdict = .success := by
    decide
  refine ⟨Or.inl rfl, accepted, fun determined => ?_⟩
  have typeField := packetGetType_landed bareSetSpeed fun _ => 0
  have setSpeed : bareSetSpeed.type = ComType.setSpeed.code :=
    rfl
  have inBody :=
    determined.arguments (Or.inl rfl) accepted (Or.inl setSpeed)
      (by simp [effect, typeField, setSpeed, ComType.code]; rfl)
  exact absurd inBody (by decide)

end Ammc.Master
