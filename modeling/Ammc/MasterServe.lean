import Ammc.MasterHandler
import Ammc.MasterReceive

namespace Ammc.Master

open ByteMemory Serial Packet DcMotor

/-!
# Serving one packet in the master

The handler takes a packet from the line, answers it and performs its operation.
A `Bus` stands for what the firmware finds around it; the serial line of
`Bus.world` only delivers what is already there.  Under such surroundings this
module describes the whole reaction to one packet, whatever the bus does.
-/

/-- The TWI bus and the stack memory of the firmware. -/
structure Bus (ε : Type) where
  twiSend : UInt8 → List UInt8 → ε → ε
  twiRecv :
    UInt8 → (toRecv : Nat) → ε →
      { bytes : List UInt8 // bytes.length ≤ toRecv } × ε
  uninitialised : ε → Memory

/-- A bus on which nobody answers. -/
def idleBus : Bus Unit where
  twiSend _ _ env := env
  twiRecv _ _ env := (⟨[], Nat.zero_le _⟩, env)
  uninitialised _ := fun _ => 0

/-- The firmware on its bus, with nothing more to come on the serial line. -/
def Bus.world (bus : Bus ε) : World signature ε where
  answer query env :=
    match query with
    | .twiSend addr data => ((), bus.twiSend addr data env)
    | .twiRecv addr toRecv => bus.twiRecv addr toRecv env
    | .uninitialised => (bus.uninitialised env, env)
  react _ env := some ([], env)
  expecting := false
  flushable := false

section Sending

variable {ε : Type}
variable (bus : Bus ε)

/-- The port after a buffer has gone out and the bus has moved on. -/
def sentPort
    (port : Port signature ε)
    (buffers : List (List UInt8))
    (env : ε) : Port signature ε :=
  { port with
    sent := port.sent ++ buffers
    env := env
    written := port.written + buffers.flatten.length }

@[simp] theorem sentPort_nil
    (port : Port signature ε)
    (env : ε) :
    sentPort port [] env = port.withEnv env := by
  simp [sentPort, Port.withEnv]

theorem sentPort_sentPort
    (port : Port signature ε)
    (first last : ε)
    (before after : List (List UInt8)) :
    sentPort (sentPort port before first) after last =
      sentPort port (before ++ after) last := by
  simp [sentPort, Nat.add_assoc]

@[simp] theorem sentPort_withEnv
    (port : Port signature ε)
    (first last : ε)
    (buffers : List (List UInt8)) :
    sentPort (port.withEnv first) buffers last =
      sentPort port buffers last :=
  rfl

/-- The buffers that `serial_tx` hands to the line for a body. -/
def framed
    (globalId type selector : UInt8)
    (body : List UInt8) : List (List UInt8) :=
  if body.length + 5 ≤ txBufferSize then
    [packetImage globalId type selector body]
  else
    []

/-- `communication_send` reaches the line when the packet fits its buffer. -/
theorem exec_communicationSend
    (globalId selector : UInt8)
    {type bodySize : UInt8}
    {body : Option Memory}
    (craftable : Craftable type body bodySize)
    (port : Port signature ε) :
    exec bus.world
        (communicationSend globalId type selector bodySize body) port =
      (some (),
        sentPort port
          (framed globalId type selector (bodyBytes body bodySize))
          port.env) := by
  obtain ⟨crafted, craftedOk, size, bytes⟩ :=
    craft_of_craftable crc (bus.uninitialised port.env)
      globalId selector craftable
  have length := craftable.length_bodyBytes
  have sizeNonzero : packetGetSize crafted ≠ 0 := by
    intro zero
    rw [zero] at size
    simp at size
  have program :
      exec bus.world
          (communicationSend globalId type selector bodySize body) port =
        exec bus.world
          (serialTx crafted (packetGetSize crafted) >>= fun _ =>
            pure ()) port := by
    change
      exec bus.world
          (serialTx
            (craft crc (bus.uninitialised port.env) globalId type
              selector body bodySize).2
            (packetGetSize
              (craft crc (bus.uninitialised port.env) globalId type
                selector body bodySize).2) >>= fun _ => pure ())
          port = _
    rw [craftedOk]
  rw [program, serialTx, framed, length, ← size]
  by_cases fits : (packetGetSize crafted).toNat ≤ txBufferSize
  · have admitted :
        ¬ (packetGetSize crafted = 0 ∨
          (packetGetSize crafted).toNat > txBufferSize) := by
      rintro (zero | tooLong)
      · exact sizeNonzero zero
      · exact Nat.not_lt.mpr fits tooLong
    rw [if_neg admitted, if_pos fits, bytes]
    change
      (some (),
        port.transmitted
          (packetImage globalId type selector (bodyBytes body bodySize))
          [] port.env) = _
    simp [sentPort, Port.transmitted]
  · have refused :
        packetGetSize crafted = 0 ∨
          (packetGetSize crafted).toNat > txBufferSize :=
      Or.inr (Nat.not_le.mp fits)
    rw [if_pos refused, if_neg fits, sentPort_nil]
    rfl

end Sending

/-! ## Operations -/

/--
What an operation does with a packet under a given state of the bus: selector
and body of the `DAT` packet that answers it, if there is one, and the state of
the bus afterwards.
-/
def effect
    (bus : Bus ε)
    (p : Memory)
    (env : ε) : Option (UInt8 × List UInt8) × ε :=
  let type := packetGetType p
  let selector := packetGetSelector p
  let body := packetBody p
  if type = ComType.echo.code then
    (some (0, body.bytes 0 (packetGetBodySize p).toNat), env)
  else if type = ComType.ping.code then
    if selector = 0 ∨ selector > 127 then
      (some (ComError.slaveNotFound.code, []), env)
    else
      let asked := bus.twiSend selector [CommandId.ping.code, selector] env
      let answer := bus.twiRecv selector 1 asked
      (some
        ((if answer.1.val = [selector] then
            ComError.success
          else
            ComError.slaveNotFound).code,
          []),
        answer.2)
  else if type = ComType.getSpeed.code then
    let speed := bus.uninitialised env
    let asked := bus.twiSend selector [CommandId.getSpeed.code] env
    let answer := bus.twiRecv selector 2 asked
    (some (selector, (speed.store 0 answer.1.val).bytes 0 2), answer.2)
  else if type = ComType.setSpeed.code then
    (none,
      bus.twiSend selector
        [CommandId.setSpeed.code, body 0, body 1] env)
  else if type = ComType.apply.code then
    (none, bus.twiSend 0 [CommandId.applySpeed.code] env)
  else if type = ComType.setSlaveAddr.code then
    (none, bus.twiSend selector [CommandId.setAddr.code, body 0] env)
  else
    (none, env)

/-- The buffers in which the reply of an operation reaches the line. -/
def datFrames
    (globalId : UInt8) : Option (UInt8 × List UInt8) → List (List UInt8)
  | some (selector, body) =>
      framed globalId ComType.dat.code selector body
  | none => []

section Operations

variable {ε : Type}
variable (bus : Bus ε)

/-- A prepared frame is the command id followed by its argument. -/
theorem bytes_prepareCommand
    (command : Memory)
    (id : UInt8)
    {arg : Option Memory}
    {argSize : UInt8}
    (given : arg = none → argSize = 0) :
    (prepareCommand command id arg argSize).bytes 0 (1 + argSize.toNat) =
      id :: bodyBytes arg argSize := by
  cases arg with
  | some source =>
      have stored :=
        command.bytes_store_store [id] (source.bytes 0 argSize.toNat)
      rw [Memory.length_bytes] at stored
      exact stored
  | none =>
      have noArgument : argSize = 0 := given rfl
      subst argSize
      exact command.bytes_store_self 0 [id]

theorem exec_masterSendCommand
    (slaveId id : UInt8)
    (arg : Option Memory)
    (argSize : UInt8)
    (given : arg = none → argSize = 0)
    (port : Port signature ε) :
    exec bus.world (masterSendCommand slaveId id arg argSize) port =
      (some (),
        port.withEnv
          (bus.twiSend slaveId (id :: bodyBytes arg argSize) port.env)) := by
  rw [← bytes_prepareCommand (bus.uninitialised port.env) id given]
  rfl

/-- A single received byte that equals the asked one is the whole answer. -/
theorem answered_iff
    (buf : Memory)
    (response : { bytes : List UInt8 // bytes.length ≤ 1 })
    (slaveId : UInt8) :
    (response.val.length = 1 ∧ buf.store 0 response.val 0 = slaveId) ↔
      response.val = [slaveId] := by
  obtain ⟨bytes, short⟩ := response
  match bytes, short with
  | [], _ =>
      simp
  | [byte], _ =>
      simp [Memory.store]

/-- `_op_echo` sends back the body. -/
theorem exec_opEcho
    (globalId : UInt8)
    {p : Memory}
    (type : packetGetType p = ComType.echo.code)
    (fits : (packetGetBodySize p).toNat ≤ bodyMaxLen)
    (port : Port signature ε) :
    exec bus.world (opEcho globalId p) port =
      (some .receiving,
        sentPort port (datFrames globalId (effect bus p port.env).1)
          (effect bus p port.env).2) := by
  have craftable :
      Craftable ComType.dat.code (some (packetBody p))
        (packetGetBodySize p) :=
    craftable_of_body _ fits (by decide)
  rw [effect, if_pos type]
  exact exec_bind_of_done
    (exec_communicationSend bus globalId 0 craftable port)

/-- `_op_ping` reports whether the slave answers with its own address. -/
theorem exec_opPing
    (globalId : UInt8)
    {p : Memory}
    (type : packetGetType p = ComType.ping.code)
    (port : Port signature ε) :
    exec bus.world (opPing globalId p) port =
      (some .receiving,
        sentPort port (datFrames globalId (effect bus p port.env).1)
          (effect bus p port.env).2) := by
  have notEcho : packetGetType p ≠ ComType.echo.code := by
    rw [type]
    decide
  rw [effect, if_neg notEcho, if_pos type, opPing]
  by_cases invalid :
      packetGetSelector p = 0 ∨ packetGetSelector p > 127
  · rw [if_pos invalid, if_pos invalid]
    exact exec_bind_of_done
      (exec_communicationSend bus globalId
        ComError.slaveNotFound.code (craftable_of_none (by decide)) port)
  · rw [if_neg invalid, if_neg invalid]
    rw [exec_bind_of_done
      (exec_masterSendCommand bus (packetGetSelector p)
        CommandId.ping.code (some fun _ => packetGetSelector p) 1
        (by rintro ⟨⟩) port)]
    let asked :=
      bus.twiSend (packetGetSelector p)
        [CommandId.ping.code, packetGetSelector p] port.env
    let answer := bus.twiRecv (packetGetSelector p) 1 asked
    have judged :=
      answered_iff (bus.uninitialised asked) answer.1
        (packetGetSelector p)
    change
      exec bus.world
        (communicationSend globalId ComType.dat.code
          (if answer.1.val.length = 1 ∧
              (bus.uninitialised asked).store 0 answer.1.val 0 =
                packetGetSelector p then
            ComError.success
          else
            ComError.slaveNotFound).code
          0 none >>= fun _ => pure HandlerState.receiving)
        (port.withEnv answer.2) = _
    simp only [judged]
    exact exec_bind_of_done
      (exec_communicationSend bus globalId _
        (craftable_of_none (by decide)) (port.withEnv answer.2))

/-- `dcmotor_get` assembles the speed from what the slave sends. -/
theorem exec_dcmotorGet
    (slaveAddr : UInt8)
    (port : Port signature ε) :
    exec bus.world (dcmotorGet slaveAddr) port =
      let asked :=
        bus.twiSend slaveAddr [CommandId.getSpeed.code] port.env
      let answer := bus.twiRecv slaveAddr 2 asked
      let speed := (bus.uninitialised port.env).store 0 answer.1.val
      (some (rpmOfBytes (speed 0) (speed 1)), port.withEnv answer.2) := by
  change
    exec bus.world
      (masterSendCommand slaveAddr CommandId.getSpeed.code none 0 >>= _)
      port = _
  rw [exec_bind_of_done
    (exec_masterSendCommand bus slaveAddr CommandId.getSpeed.code none 0
      (fun _ => rfl) port)]
  rfl

/-- `_op_get_speed` sends the bytes of the speed it got. -/
theorem exec_opGetSpeed
    (globalId : UInt8)
    {p : Memory}
    (type : packetGetType p = ComType.getSpeed.code)
    (port : Port signature ε) :
    exec bus.world (opGetSpeed globalId p) port =
      (some .receiving,
        sentPort port (datFrames globalId (effect bus p port.env).1)
          (effect bus p port.env).2) := by
  have notEcho : packetGetType p ≠ ComType.echo.code := by
    rw [type]
    decide
  have notPing : packetGetType p ≠ ComType.ping.code := by
    rw [type]
    decide
  rw [effect, if_neg notEcho, if_neg notPing, if_pos type, opGetSpeed,
    and_dcMotorSelAll,
    exec_bind_of_done (exec_dcmotorGet bus (packetGetSelector p) port)]
  let asked :=
    bus.twiSend (packetGetSelector p) [CommandId.getSpeed.code] port.env
  let answer := bus.twiRecv (packetGetSelector p) 2 asked
  let speed := (bus.uninitialised port.env).store 0 answer.1.val
  have bytes :
      bodyBytes
          (some (Memory.store (fun _ => 0) 0
            (rpmBytes (rpmOfBytes (speed 0) (speed 1))))) 2 =
        speed.bytes 0 2 := by
    rw [rpmBytes_rpmOfBytes]
    rfl
  change _ =
    (some HandlerState.receiving,
      sentPort port
        (framed globalId ComType.dat.code (packetGetSelector p)
          (speed.bytes 0 2)) answer.2)
  rw [← bytes]
  exact exec_bind_of_done
    (exec_communicationSend bus globalId (packetGetSelector p)
      (craftable_of_body _ (by decide) (by decide))
      (port.withEnv answer.2))

/-- The argument of `dcmotor_set` is the two bytes of the speed. -/
theorem bodyBytes_speed (low high : UInt8) :
    bodyBytes
        (some
          (Memory.store (fun _ => 0) 0
            (rpmBytes (rpmOfBytes low high)))) 2 =
      [low, high] := by
  rw [rpmBytes_rpmOfBytes]
  rfl

/-- `_op_set_speed` forwards the first two body bytes. -/
theorem exec_opSetSpeed
    (globalId : UInt8)
    {p : Memory}
    (type : packetGetType p = ComType.setSpeed.code)
    (port : Port signature ε) :
    exec bus.world (opSetSpeed globalId p) port =
      (some .receiving,
        sentPort port (datFrames globalId (effect bus p port.env).1)
          (effect bus p port.env).2) := by
  have forwarded :=
    exec_masterSendCommand bus (packetGetSelector p)
      CommandId.setSpeed.code
      (some (Memory.store (fun _ => 0) 0
        (rpmBytes (rpmOfBytes (packetBody p 0) (packetBody p 1))))) 2
      (by rintro ⟨⟩) port
  rw [bodyBytes_speed] at forwarded
  have effects :
      effect bus p port.env =
        (none,
          bus.twiSend (packetGetSelector p)
            [CommandId.setSpeed.code, packetBody p 0, packetBody p 1]
            port.env) := by
    simp [effect, type, ComType.code]
  rw [effects, opSetSpeed, and_dcMotorSelAll, datFrames, sentPort_nil]
  exact exec_bind_of_done forwarded

/-- `_op_apply` broadcasts. -/
theorem exec_opApply
    (globalId : UInt8)
    {p : Memory}
    (type : packetGetType p = ComType.apply.code)
    (port : Port signature ε) :
    exec bus.world (opApply globalId p) port =
      (some .receiving,
        sentPort port (datFrames globalId (effect bus p port.env).1)
          (effect bus p port.env).2) := by
  have effects :
      effect bus p port.env =
        (none,
          bus.twiSend 0 [CommandId.applySpeed.code] port.env) := by
    simp [effect, type, ComType.code]
  rw [effects, datFrames, sentPort_nil]
  exact exec_bind_of_done
    (exec_masterSendCommand bus 0 CommandId.applySpeed.code none 0
      (fun _ => rfl) port)

/-- `_op_set_slave_addr` forwards the first body byte. -/
theorem exec_opSetSlaveAddr
    (globalId : UInt8)
    {p : Memory}
    (type : packetGetType p = ComType.setSlaveAddr.code)
    (port : Port signature ε) :
    exec bus.world (opSetSlaveAddr globalId p) port =
      (some .receiving,
        sentPort port (datFrames globalId (effect bus p port.env).1)
          (effect bus p port.env).2) := by
  have effects :
      effect bus p port.env =
        (none,
          bus.twiSend (packetGetSelector p)
            [CommandId.setAddr.code, packetBody p 0] port.env) := by
    simp [effect, type, ComType.code]
  rw [effects, datFrames, sentPort_nil]
  exact exec_bind_of_done
    (exec_masterSendCommand bus (packetGetSelector p)
      CommandId.setAddr.code (some fun _ => packetBody p 0) 1
      (by rintro ⟨⟩) port)

/-- A packet type that none of the six operations is registered for. -/
def Inert (type : UInt8) : Prop :=
  type ≠ ComType.echo.code ∧ type ≠ ComType.ping.code ∧
    type ≠ ComType.getSpeed.code ∧ type ≠ ComType.setSpeed.code ∧
    type ≠ ComType.apply.code ∧ type ≠ ComType.setSlaveAddr.code

instance (type : UInt8) : Decidable (Inert type) :=
  inferInstanceAs (Decidable (_ ∧ _))

theorem comOperationTable_inert
    {type : UInt8}
    (inert : Inert type) :
    (comOperationTable[type.toNat]?).join = none := by
  have entries :
      ∀ index : Fin 11,
        index.val ≠ 4 ∧ index.val ≠ 5 ∧ index.val ≠ 6 ∧
          index.val ≠ 7 ∧ index.val ≠ 8 ∧ index.val ≠ 10 →
            (comOperationTable[index.val]?).join.isNone = true := by
    decide
  obtain ⟨notEcho, notPing, notGet, notSet, notApply, notAddr⟩ := inert
  by_cases inTable : type.toNat < 11
  · have missing :=
      entries ⟨type.toNat, inTable⟩
        ⟨fun same => notEcho (UInt8.toNat_inj.mp same),
          fun same => notPing (UInt8.toNat_inj.mp same),
          fun same => notGet (UInt8.toNat_inj.mp same),
          fun same => notSet (UInt8.toNat_inj.mp same),
          fun same => notApply (UInt8.toNat_inj.mp same),
          fun same => notAddr (UInt8.toNat_inj.mp same)⟩
    exact Option.isNone_iff_eq_none.mp missing
  · rw [List.getElem?_eq_none (Nat.not_lt.mp inTable)]
    rfl

/-- A packet without an operation has no effect. -/
theorem effect_inert
    {p : Memory}
    (inert : Inert (packetGetType p))
    (env : ε) :
    effect bus p env = (none, env) := by
  obtain ⟨notEcho, notPing, notGet, notSet, notApply, notAddr⟩ := inert
  simp only [effect, notEcho, notPing, notGet, notSet, notApply, notAddr,
    ↓reduceIte]

/-- A turn in `STATE_EXECUTE` has the effect of the packet's operation. -/
theorem exec_execute
    (handler : Handler)
    (state : handler.state = .execute)
    (fits :
      packetGetType handler.rx = ComType.echo.code →
        (packetGetBodySize handler.rx).toNat ≤ bodyMaxLen)
    (port : Port signature ε) :
    exec bus.world (communicationHandlerTurn handler) port =
      (some (.again { handler with state := .receiving }),
        sentPort port
          (datFrames handler.globalId
            (effect bus handler.rx port.env).1)
          (effect bus handler.rx port.env).2) := by
  obtain ⟨globalId, _, rx⟩ := handler
  cases state
  have performs :
      ∀ action : Operation,
        (comOperationTable[(packetGetType rx).toNat]?).join =
            some action →
          exec bus.world (action globalId rx) port =
              (some .receiving,
                sentPort port
                  (datFrames globalId (effect bus rx port.env).1)
                  (effect bus rx port.env).2) →
            exec bus.world
                (communicationHandlerTurn ⟨globalId, .execute, rx⟩)
                port =
              (some (.again ⟨globalId, .receiving, rx⟩),
                sentPort port
                  (datFrames globalId (effect bus rx port.env).1)
                  (effect bus rx port.env).2) := by
    intro action registered performed
    simp only [communicationHandlerTurn, registered]
    exact exec_bind_of_done performed
  by_cases echo : packetGetType rx = ComType.echo.code
  · exact performs opEcho (by rw [echo]; rfl)
      (exec_opEcho bus globalId echo (fits echo) port)
  by_cases ping : packetGetType rx = ComType.ping.code
  · exact performs opPing (by rw [ping]; rfl)
      (exec_opPing bus globalId ping port)
  by_cases getSpeed : packetGetType rx = ComType.getSpeed.code
  · exact performs opGetSpeed (by rw [getSpeed]; rfl)
      (exec_opGetSpeed bus globalId getSpeed port)
  by_cases setSpeed : packetGetType rx = ComType.setSpeed.code
  · exact performs opSetSpeed (by rw [setSpeed]; rfl)
      (exec_opSetSpeed bus globalId setSpeed port)
  by_cases apply : packetGetType rx = ComType.apply.code
  · exact performs opApply (by rw [apply]; rfl)
      (exec_opApply bus globalId apply port)
  by_cases setAddr : packetGetType rx = ComType.setSlaveAddr.code
  · exact performs opSetSlaveAddr (by rw [setAddr]; rfl)
      (exec_opSetSlaveAddr bus globalId setAddr port)
  have inert : Inert (packetGetType rx) :=
    ⟨echo, ping, getSpeed, setSpeed, apply, setAddr⟩
  simp only [communicationHandlerTurn, comOperationTable_inert inert,
    effect_inert bus inert, datFrames, sentPort_nil]
  rfl

end Operations

end Ammc.Master

namespace Ammc.Packet.Datagram

open ByteMemory Serial Master

/-! ## From a packet to the next -/

/-- The id under which the handler acknowledges the datagram. -/
def ackId
    (packet : Datagram)
    (globalId : UInt8) : UInt8 :=
  if packet.type = ComType.hnd.code then 0 else globalId

/-- `packet_global_id` once an admitted datagram has been answered. -/
def nextId
    (packet : Datagram)
    (globalId : UInt8) : UInt8 :=
  if packet.verdict = .success then
    packetGlobalIdIncrement (packet.ackId globalId)
  else
    0

/-- The buffers that answer an admitted datagram, and the bus afterwards. -/
def served
    (packet : Datagram)
    (bus : Bus ε)
    (globalId : UInt8)
    (rx : Memory)
    (env : ε) : List (List UInt8) × ε :=
  if packet.verdict = .success then
    (packetImage (packet.ackId globalId) ComType.ack.code 0 [] ::
        datFrames (packet.nextId globalId)
          (effect bus (packet.landed rx) env).1,
      (effect bus (packet.landed rx) env).2)
  else
    ([packetImage globalId ComType.nak.code packet.verdict.code []], env)

/-- The handler once it has served an admitted datagram. -/
def handlerAfter
    (packet : Datagram)
    (globalId : UInt8)
    (rx : Memory) : Handler where
  globalId := packet.nextId globalId
  state := .receiving
  rx := packet.landed rx

/-- The port once the handler has served an admitted datagram. -/
def portAfter
    (packet : Datagram)
    (bus : Bus ε)
    (globalId : UInt8)
    (rx : Memory)
    (tail : List UInt8)
    (port : Port signature ε) : Port signature ε where
  input := tail
  sent := port.sent ++ (packet.served bus globalId rx port.env).1
  requests :=
    port.requests ++ [(0, 4), (headerSize, packet.rest.length)]
  env := (packet.served bus globalId rx port.env).2
  read := port.read + packet.bytes.length
  written :=
    port.written +
      (packet.served bus globalId rx port.env).1.flatten.length
  log :=
    port.log ++
      [⟨.receiving, port.read, port.written⟩,
        ⟨.received packet.verdict, port.read + packet.bytes.length,
          port.written⟩]

/-- The port once an admitted datagram has been read and judged. -/
def portJudged
    (packet : Datagram)
    (port : Port signature ε) : Port signature ε :=
  (((port.noted .receiving).received 0 4).received headerSize
    packet.rest.length).noted (.received packet.verdict)

theorem input_portJudged
    (packet : Datagram)
    {tail : List UInt8}
    {port : Port signature ε}
    (input : port.input = packet.bytes ++ tail) :
    (packet.portJudged port).input = tail := by
  simp [portJudged, Port.noted, Port.received, input, bytes, header]

/-- Everything is answered between reading the datagram and the next one. -/
theorem sentPort_portJudged
    (packet : Datagram)
    (bus : Bus ε)
    (globalId : UInt8)
    (rx : Memory)
    {tail : List UInt8}
    {port : Port signature ε}
    (input : port.input = packet.bytes ++ tail) :
    sentPort (packet.portJudged port)
        (packet.served bus globalId rx port.env).1
        (packet.served bus globalId rx port.env).2 =
      packet.portAfter bus globalId rx tail port := by
  have left := packet.input_portJudged input
  simp only [sentPort, left, portAfter, length_bytes]
  simp [portJudged, Port.noted, Port.received, Nat.add_comm,
    Nat.add_left_comm]

end Ammc.Packet.Datagram

namespace Ammc.Master

open ByteMemory Serial Packet

section Serving

variable {ε : Type}
variable (bus : Bus ε)

/-- A turn of the loop, before the remaining turns. -/
theorem exec_communicationHandler_again
    {world : World signature ε}
    {handler next : Handler}
    {port after : Port signature ε}
    (turned :
      exec world (communicationHandlerTurn handler) port =
        (some (.again next), after))
    (turns : Nat)
    (performed : Bool) :
    exec world (communicationHandler (turns + 1) performed handler) port =
      exec world
        (communicationHandler turns
          (performed || handler.state = .receiving) next) after := by
  rw [communicationHandler, exec_bind_of_done turned]

/-- The handler returns as soon as nothing is left to read. -/
theorem exec_communicationHandler_drained
    {world : World signature ε}
    (quiet : world.expecting = false)
    (globalId : UInt8)
    (rx : Memory)
    {port : Port signature ε}
    (drained : port.input = [])
    (turns : Nat)
    (performed : Bool) :
    exec world
        (communicationHandler (turns + 1) performed
          ⟨globalId, .receiving, rx⟩) port =
      (some (some (performed, ⟨globalId, .receiving, rx⟩)), port) := by
  have returned :
      exec world
          (communicationHandlerTurn ⟨globalId, .receiving, rx⟩) port =
        (some (.returned ⟨globalId, .receiving, rx⟩), port) := by
    simp only [communicationHandlerTurn, serialRxAvailable]
    rw [exec_bind_of_done (exec_pending port)]
    simp [drained, quiet]
  rw [communicationHandler, exec_bind_of_done returned]
  rfl

theorem exec_communicationHandler_returned
    (globalId : UInt8)
    (rx : Memory)
    {port : Port signature ε}
    (drained : port.input = [])
    (turns : Nat)
    (performed : Bool) :
    exec bus.world
        (communicationHandler (turns + 1) performed
          ⟨globalId, .receiving, rx⟩) port =
      (some (some (performed, ⟨globalId, .receiving, rx⟩)), port) :=
  exec_communicationHandler_drained rfl globalId rx drained turns
    performed

/-- A receiving turn reads when there is something to read. -/
theorem exec_turn_of_recv
    {world : World signature ε}
    {globalId : UInt8}
    {rx received : Memory}
    {error : ComError}
    {port after : Port signature ε}
    (pending : port.input ≠ [])
    (recv :
      exec world (communicationRecv globalId rx)
          (port.noted .receiving) =
        (some (error, received), after)) :
    exec world
        (communicationHandlerTurn ⟨globalId, .receiving, rx⟩) port =
      (some
        (.again
          { globalId := globalId
            state :=
              if error ≠ .success then .nak error
              else if packetGetType received = ComType.hnd.code then .hnd
              else .ack
            rx := received }),
        after.noted (.received error)) := by
  have delivered : port.input.isEmpty = false := by
    simpa using pending
  simp only [communicationHandlerTurn, serialRxAvailable]
  rw [exec_bind_of_done (exec_pending port), delivered, Bool.not_false,
    Bool.or_true]
  change
    exec world (communicationRecv globalId rx >>= _)
      (port.noted .receiving) = _
  rw [exec_bind_of_done recv]
  change
    exec world
      (if error ≠ .success then
        pure (Turn.again ⟨globalId, .nak error, received⟩)
      else if packetGetType received = ComType.hnd.code then
        pure (Turn.again ⟨globalId, .hnd, received⟩)
      else
        pure (Turn.again ⟨globalId, .ack, received⟩))
      (after.noted (.received error)) = _
  split
  · rfl
  split
  · rfl
  · rfl

/-- A receiving turn whose read blocks does not end. -/
theorem exec_turn_of_stuck
    {world : World signature ε}
    {globalId : UInt8}
    {rx : Memory}
    {port after : Port signature ε}
    (pending : port.input ≠ [])
    (stuck :
      exec world (communicationRecv globalId rx)
          (port.noted .receiving) =
        (none, after)) :
    exec world
        (communicationHandlerTurn ⟨globalId, .receiving, rx⟩) port =
      (none, after) := by
  have delivered : port.input.isEmpty = false := by
    simpa using pending
  simp only [communicationHandlerTurn, serialRxAvailable]
  rw [exec_bind_of_done (exec_pending port), delivered, Bool.not_false,
    Bool.or_true]
  change
    exec world (communicationRecv globalId rx >>= _)
      (port.noted .receiving) = _
  exact exec_bind_of_stuck stuck

/-- A receiving turn judges an admitted datagram. -/
theorem exec_receiving
    (world : World signature ε)
    (packet : Datagram)
    {globalId : UInt8}
    (rx : Memory)
    {tail : List UInt8}
    (port : Port signature ε)
    (input : port.input = packet.bytes ++ tail)
    (admitted : packet.Admitted globalId) :
    exec world
        (communicationHandlerTurn ⟨globalId, .receiving, rx⟩) port =
      (some
        (.again
          { globalId := globalId
            state :=
              if packet.verdict ≠ .success then .nak packet.verdict
              else if packet.type = ComType.hnd.code then .hnd
              else .ack
            rx := packet.landed rx }),
        packet.portJudged port) := by
  have pending : port.input ≠ [] := by
    rw [input]
    exact List.cons_ne_nil _ _
  have typeField : packetGetType (packet.landed rx) = packet.type :=
    packet.landed_header rx (by decide)
  have turned :=
    exec_turn_of_recv pending
      (exec_communicationRecv_datagram world rx packet
        (port.noted .receiving) input admitted)
  rw [typeField] at turned
  exact turned

/-- A turn in `STATE_ACK` acknowledges and advances the id. -/
theorem exec_ack
    (globalId : UInt8)
    (rx : Memory)
    (port : Port signature ε) :
    exec bus.world
        (communicationHandlerTurn ⟨globalId, .ack, rx⟩) port =
      (some
        (.again ⟨packetGlobalIdIncrement globalId, .execute, rx⟩),
        sentPort port
          [packetImage globalId ComType.ack.code 0 []] port.env) :=
  exec_bind_of_done
    (exec_communicationSend bus globalId 0
      (craftable_of_none (by decide)) port)

/-- A turn in `STATE_NAK` refuses and resets the id. -/
theorem exec_nak
    (globalId : UInt8)
    (error : ComError)
    (rx : Memory)
    (port : Port signature ε) :
    exec bus.world
        (communicationHandlerTurn ⟨globalId, .nak error, rx⟩) port =
      (some (.again ⟨0, .receiving, rx⟩),
        sentPort port
          [packetImage globalId ComType.nak.code error.code []]
          port.env) :=
  exec_bind_of_done
    (exec_communicationSend bus globalId error.code
      (craftable_of_none (by decide)) port)

/-- An accepted packet is acknowledged, and then its operation is performed. -/
theorem exec_accepted
    (packet : Datagram)
    (complete : packet.type = ComType.echo.code → packet.rest ≠ [])
    (globalId : UInt8)
    (rx : Memory)
    {tail : List UInt8}
    (port : Port signature ε)
    (input : port.input = packet.bytes ++ tail)
    (accepted : packet.verdict = .success)
    (turns : Nat)
    (performed : Bool) :
    exec bus.world
        (communicationHandler (turns + 2) performed
          ⟨packet.ackId globalId, .ack, packet.landed rx⟩)
        (packet.portJudged port) =
      exec bus.world
        (communicationHandler turns performed
          (packet.handlerAfter globalId rx))
        (packet.portAfter bus globalId rx tail port) := by
  have fits := packet.fits
  have acked :=
    exec_ack bus (packet.ackId globalId) (packet.landed rx)
      (packet.portJudged port)
  have typeField : packetGetType (packet.landed rx) = packet.type :=
    packet.landed_header rx (by decide)
  have operated :=
    exec_execute bus
      ⟨packetGlobalIdIncrement (packet.ackId globalId), .execute,
        packet.landed rx⟩
      rfl
      (fun echo => by
        have closed := complete (typeField.symm.trans echo)
        have bodySize := (Frame.mk packet closed).bodySize_landed rx
        rw [bodySize]
        simp only [bodyMaxLen]
        omega)
      (sentPort (packet.portJudged port)
        [packetImage (packet.ackId globalId) ComType.ack.code 0 []]
        port.env)
  have answered :=
    packet.sentPort_portJudged bus globalId rx input
  rw [sentPort_sentPort] at operated
  rw [Datagram.served, if_pos accepted, Datagram.nextId,
    if_pos accepted] at answered
  rw [exec_communicationHandler_again acked, ← answered,
    Datagram.handlerAfter, Datagram.nextId, if_pos accepted]
  refine (exec_communicationHandler_again operated turns _).trans ?_
  simp [sentPort]

/-- A packet that is not accepted is refused, and the id is reset. -/
theorem exec_rejected
    (packet : Datagram)
    (globalId : UInt8)
    (rx : Memory)
    {tail : List UInt8}
    (port : Port signature ε)
    (input : port.input = packet.bytes ++ tail)
    (rejected : packet.verdict ≠ .success)
    (turns : Nat)
    (performed : Bool) :
    exec bus.world
        (communicationHandler (turns + 1) performed
          ⟨globalId, .nak packet.verdict, packet.landed rx⟩)
        (packet.portJudged port) =
      exec bus.world
        (communicationHandler turns performed
          (packet.handlerAfter globalId rx))
        (packet.portAfter bus globalId rx tail port) := by
  have answered :=
    packet.sentPort_portJudged bus globalId rx input
  rw [Datagram.served, if_neg rejected] at answered
  rw [exec_communicationHandler_again (exec_nak bus globalId _ _ _),
    ← answered, Datagram.handlerAfter, Datagram.nextId,
    if_neg rejected]
  simp [Datagram.portJudged]
  rfl

/-- The handler answers an admitted packet and performs its operation. -/
theorem exec_serve_datagram
    (packet : Datagram)
    (complete :
      packet.verdict = .success →
        packet.type = ComType.echo.code → packet.rest ≠ [])
    {globalId : UInt8}
    (rx : Memory)
    {tail : List UInt8}
    (port : Port signature ε)
    (input : port.input = packet.bytes ++ tail)
    (admitted : packet.Admitted globalId) :
    ∃ used ≤ 4, ∀ turns performed,
      exec bus.world
          (communicationHandler (turns + used) performed
            ⟨globalId, .receiving, rx⟩) port =
        exec bus.world
          (communicationHandler turns true
            (packet.handlerAfter globalId rx))
          (packet.portAfter bus globalId rx tail port) := by
  have judged :=
    exec_receiving bus.world packet rx port input admitted
  by_cases accepted : packet.verdict = .success
  · have fromAck :=
      exec_accepted bus packet (complete accepted) globalId rx port input
        accepted
    simp only [accepted, ne_eq, not_true_eq_false, ↓reduceIte] at judged
    by_cases handshake : packet.type = ComType.hnd.code
    · refine ⟨4, by decide, fun turns performed => ?_⟩
      rw [Datagram.ackId, if_pos handshake] at fromAck
      rw [if_pos handshake] at judged
      have reset :
          exec bus.world
              (communicationHandlerTurn
                ⟨globalId, .hnd, packet.landed rx⟩)
              (packet.portJudged port) =
            (some (.again ⟨0, .ack, packet.landed rx⟩),
              packet.portJudged port) :=
        rfl
      rw [exec_communicationHandler_again judged,
        exec_communicationHandler_again reset, fromAck]
      simp
    · refine ⟨3, by decide, fun turns performed => ?_⟩
      rw [Datagram.ackId, if_neg handshake] at fromAck
      rw [if_neg handshake] at judged
      rw [exec_communicationHandler_again judged, fromAck]
      simp
  · refine ⟨2, by decide, fun turns performed => ?_⟩
    simp only [accepted, ne_eq, not_false_eq_true, ↓reduceIte] at judged
    rw [exec_communicationHandler_again judged]
    refine
      (exec_rejected bus packet globalId rx port input accepted turns
        _).trans ?_
    simp

/-- A complete packet is always answered so. -/
theorem exec_serve
    (frame : Frame)
    {globalId : UInt8}
    (rx : Memory)
    {tail : List UInt8}
    (port : Port signature ε)
    (input : port.input = frame.bytes ++ tail)
    (admitted : frame.Admitted globalId) :
    ∃ used ≤ 4, ∀ turns performed,
      exec bus.world
          (communicationHandler (turns + used) performed
            ⟨globalId, .receiving, rx⟩) port =
        exec bus.world
          (communicationHandler turns true
            (frame.handlerAfter globalId rx))
          (frame.portAfter bus globalId rx tail port) :=
  exec_serve_datagram bus frame.toDatagram (fun _ _ => frame.closed) rx
    port input admitted

end Serving

end Ammc.Master
