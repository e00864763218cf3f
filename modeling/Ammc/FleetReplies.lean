import Ammc.EchoReply
import Ammc.FleetReadings

namespace Ammc.Exchange

open ByteMemory Serial Packet DcMotor Slave

/-!
# What the client makes of a reply

A packet that is answered with a `DAT` packet leads to one line on the terminal,
and leaves both sides waiting.  The line says what the master has found out.
-/

/-! ## What the user reads -/

/-- What has been written to the terminal or to the standard error. -/
def onTerminal (log : ClientLog) : List Client.Note :=
  log.filterMap fun entry =>
    match entry.event with
    | .transmitting => none
    | .returned _ => none
    | .attempted _ => none
    | .checked _ => none
    | event => some event

section Concluding

variable {ε : Type}
variable (bus : Master.Bus ε)
variable (host : Host ε)

/-- A sent packet is not shown to the user. -/
theorem onTerminal_portSent
    (port : Port Client.signature (Station ε))
    (globalId selector : UInt8)
    {type : UInt8}
    {data : Option Memory}
    {dataSize : UInt8}
    (craftable : Craftable type data dataSize) :
    onTerminal (portSent bus port globalId selector craftable).log =
      onTerminal port.log := by
  have added := log_portSent bus globalId selector craftable port
  dsimp only at added
  rw [added]
  simp [onTerminal]

/-- Neither is a received one. -/
theorem onTerminal_portAcknowledged
    (port : Port Client.signature (Station ε))
    (packet : Frame) :
    onTerminal (portAcknowledged bus port packet).log =
      onTerminal port.log := by
  simp [onTerminal, portAcknowledged, portReceived, Port.noted,
    Client.portChecked, Port.transmitted]

/-- The client's acknowledgement does nothing around the master. -/
theorem env_portAcknowledged
    (port : Port Client.signature (Station ε))
    (packet : Frame) :
    (portAcknowledged bus port packet).env.port.env =
      port.env.port.env := by
  have accepted :
      (sentFrame packet.id 0 craftable_ack).verdict = .success :=
    verdict_sentFrame _ _ craftable_ack
  have inert :
      Master.Inert
        (packetGetType
          ((sentFrame packet.id 0 craftable_ack).landed
            port.env.handler.rx)) := by
    rw [sentFrame_type]
    decide
  change
    ((sentFrame packet.id 0 craftable_ack).served bus _ _ _).2 = _
  rw [Datagram.served, if_pos accepted]
  exact congrArg Prod.snd (Master.effect_inert bus inert _)

/-- After it the master waits under the next id. -/
theorem ready_portAcknowledged
    {port : Port Client.signature (Station ε)}
    {packet : Frame}
    (ready : Ready packet.id port) :
    Ready (Client.packetNextId packet.id)
      (portAcknowledged bus port packet) := by
  have agree : Agree packet.id ComType.ack.code port.env :=
    ready.ids
  exact
    ⟨port.env.idle_after bus _, (agree.nextId 0 craftable_ack).symm⟩

/--
A command ends with the return code 0 and both sides wait, after it has written
some lines and left something around the master.
-/
def Concludes
    (program : Client.ClientProg (Int × Client.Session))
    (port : Port Client.signature (Station ε))
    (lines : List Client.Note)
    (env : ε) : Prop :=
  ∃ last after,
    exec (drainedWorld bus .clear host) program port =
        (some (0, last), after) ∧
      Ready last.globalId after ∧
      last.avrFd = host.device.number ∧
      after.env.port.env = env ∧
      onTerminal after.log = onTerminal port.log ++ lines

variable {bus host}

/-- A packet and its reply, after which one line is written. -/
theorem concludes_of_exchange
    {session : Client.Session}
    {port : Port Client.signature (Station ε)}
    (ready : Ready session.globalId port)
    (connected : session.avrFd = host.device.number)
    {selector : UInt8}
    {type : UInt8}
    {data : Option Memory}
    {dataSize : UInt8}
    (craftable : Craftable type data dataSize)
    (noHandshake : type ≠ ComType.hnd.code)
    (replySelector : UInt8)
    {body : List UInt8}
    (fits : body.length ≤ bodyMaxLen)
    {line : Client.Note}
    (shown : ∀ read written, onTerminal [⟨line, read, written⟩] = [line])
    {program : Client.ClientProg (Int × Client.Session)}
    (run :
      exec (drainedWorld bus .clear host) program port =
        (some (0, advanced (advanced session)),
          (portAcknowledged bus
            (portSent bus port session.globalId selector craftable)
            (datFrame (advanced session).globalId replySelector body
              fits)).noted line)) :
    Concludes bus host program port [line]
      (Master.effect bus
        ((sentFrame session.globalId selector craftable).landed
          port.env.handler.rx) port.env.port.env).2 := by
  have sent :=
    ready_portSent bus ready selector craftable noHandshake
  have received :=
    @ready_portAcknowledged ε bus _
      (datFrame (advanced session).globalId replySelector body fits) sent
  refine
    ⟨_, _, run, ⟨received.idle, received.ids⟩, connected, ?_, ?_⟩
  · exact
      (env_portAcknowledged bus _ _).trans
        (env_portSent bus port session.globalId selector craftable)
  · have before :=
      (onTerminal_portAcknowledged bus
          (portSent bus port session.globalId selector craftable)
          (datFrame (advanced session).globalId replySelector body
            fits)).trans
        (onTerminal_portSent bus port session.globalId selector craftable)
    change onTerminal (_ ++ [_]) = _
    rw [onTerminal, List.filterMap_append]
    exact congrArg₂ (· ++ ·) before (shown _ _)

/-- The selector of a received `DAT` packet. -/
theorem selector_datFrame
    (id selector : UInt8)
    {body : List UInt8}
    (fits : body.length ≤ bodyMaxLen)
    (rx : Memory) :
    packetGetSelector ((datFrame id selector body fits).landed rx) =
      selector :=
  Datagram.landed_header _ _ (by decide)

/-- `ping` tells whether the master has found the slave. -/
theorem concludes_ping
    {session : Client.Session}
    {port : Port Client.signature (Station ε)}
    (ready : Ready session.globalId port)
    (connected : session.avrFd = host.device.number)
    {slaveId : UInt8}
    (positive : 1 ≤ slaveId)
    (low : slaveId ≤ 127)
    (craftable : Craftable ComType.ping.code none 0)
    {found : Bool}
    (replied :
      (Master.effect bus
        ((sentFrame session.globalId slaveId craftable).landed
          port.env.handler.rx) port.env.port.env).1 =
        some
          ((if found then
              ComError.success
            else
              ComError.slaveNotFound).code, [])) :
    Concludes bus host (Client.ping session slaveId.toUInt32) port
      [if found then .available slaveId else .unreachable slaveId]
      (Master.effect bus
        ((sentFrame session.globalId slaveId craftable).landed
          port.env.handler.rx) port.env.port.env).2 := by
  have inRange : ¬ (slaveId.toUInt32 = 0 ∨ slaveId.toUInt32 > 127) := by
    simp only [← UInt32.toNat_inj, gt_iff_lt, UInt32.lt_iff_toNat_lt,
      UInt8.toNat_toUInt32, UInt8.le_iff_toNat_le] at *
    simp only [UInt8.reduceToNat, UInt32.reduceToNat] at *
    omega
  have narrowed : slaveId.toUInt32.toUInt8 = slaveId :=
    UInt8.toUInt8_toUInt32 slaveId
  have fits : ([] : List UInt8).length ≤ bodyMaxLen := by
    decide
  have exchanged :=
    exec_exchange bus host ready connected slaveId craftable (by decide)
      fits (by decide) replied
  refine
    concludes_of_exchange ready connected craftable (by decide)
      (if found then
        ComError.success
      else
        ComError.slaveNotFound).code
      fits ?_ ?_
  · intro read written
    cases found with
    | true => rfl
    | false => rfl
  · rw [Client.ping, if_neg (host.device.opened connected),
      if_neg inRange, narrowed,
      exec_bind_of_done
        (exec_psend_clear bus host session connected slaveId craftable
          port ready.idle (ready.agree (by decide)))]
    simp only [ne_eq, not_true_eq_false, ↓reduceIte]
    rw [exec_bind_of_done
        (Client.exec_uninitialised
          (drainedWorld_connected bus .clear host) _),
      exec_bind_of_done (exchanged _)]
    simp only [not_true_eq_false, ↓reduceIte, selector_datFrame]
    cases found with
    | true => rfl
    | false => rfl

/-- `get-speed` prints the low byte of the speed that the master has read. -/
theorem concludes_getSpeed
    {session : Client.Session}
    {port : Port Client.signature (Station ε)}
    (ready : Ready session.globalId port)
    (connected : session.avrFd = host.device.number)
    {motorId : UInt8}
    (nonzero : motorId ≠ 0)
    (craftable : Craftable ComType.getSpeed.code none 0)
    {speed : DcRpm}
    (replied :
      (Master.effect bus
        ((sentFrame session.globalId motorId craftable).landed
          port.env.handler.rx) port.env.port.env).1 =
        some (motorId, rpmBytes speed)) :
    Concludes bus host (Client.getSpeed session motorId) port
      [.speed motorId (readout speed)]
      (Master.effect bus
        ((sentFrame session.globalId motorId craftable).landed
          port.env.handler.rx) port.env.port.env).2 := by
  have fits : (rpmBytes speed).length ≤ bodyMaxLen := by
    rw [length_rpmBytes]
    decide
  have exchanged :=
    exec_exchange bus host ready connected motorId craftable (by decide)
      fits (by simp [Master.txBufferSize]) replied
  refine
    concludes_of_exchange ready connected craftable (by decide) motorId
      fits (fun _ _ => rfl) ?_
  rw [Client.getSpeed, if_neg (host.device.opened connected),
    if_neg nonzero,
    exec_bind_of_done
      (exec_psend_clear bus host session connected motorId craftable
        port ready.idle (ready.agree (by decide)))]
  simp only [ne_eq, not_true_eq_false, ↓reduceIte]
  rw [exec_bind_of_done
      (Client.exec_uninitialised
        (drainedWorld_connected bus .clear host) _),
    exec_bind_of_done (exchanged _)]
  simp only [not_true_eq_false, ↓reduceIte]
  have body :=
    body_datFrame (advanced session).globalId motorId fits
      (Client.garbage (drainedWorld bus .clear host)
        (portSent bus port session.globalId motorId craftable).env)
  have low := congrArg (fun bytes => bytes.headD 0) body
  change
    packetBody _ 0 = UInt8.ofNat (speed.toUInt16.toNat % 256) at low
  have shown :
      Int16.ofNat (UInt8.ofNat (speed.toUInt16.toNat % 256)).toNat =
        readout speed := by
    rw [readout, UInt8.toNat_ofNat', Nat.mod_mod]
  rw [low, shown]
  rfl

/-- `dev-echo` prints its text. -/
theorem concludes_devEcho
    {session : Client.Session}
    {port : Port Client.signature (Station ε)}
    (ready : Ready session.globalId port)
    (connected : session.avrFd = host.device.number)
    {args : List Client.Word}
    (given : args ≠ [])
    (short : (Client.echoText args).length ≤ 27) :
    Concludes bus host (Client.devEcho session args) port
      [.puts (Client.echoText args)] port.env.port.env := by
  have fits : (Client.echoText args).length ≤ bodyMaxLen := by
    simp only [bodyMaxLen]
    omega
  obtain ⟨str, prepared, craftable, body⟩ :=
    echo_prepared
      (Client.garbage (drainedWorld bus .clear host) port.env) given
      (Nat.le_trans short (by decide))
  have unchanged :
      (Master.effect bus
          ((sentFrame session.globalId 0 craftable).landed
            port.env.handler.rx) port.env.port.env).2 =
        port.env.port.env := by
    rw [Master.effect,
      if_pos (sentFrame_type session.globalId 0 craftable _)]
  rw [← unchanged]
  exact
    concludes_of_exchange ready connected craftable (by decide) 0 fits
      (fun _ _ => rfl)
      (exec_devEcho bus ready connected given fits short prepared craftable
        body)

/-- A command that only sends a packet. -/
theorem exec_told
    {session : Client.Session}
    {port : Port Client.signature (Station ε)}
    (ready : Ready session.globalId port)
    (connected : session.avrFd = host.device.number)
    (selector : UInt8)
    {type : UInt8}
    {data : Option Memory}
    {dataSize : UInt8}
    (craftable : Craftable type data dataSize)
    (noHandshake : type ≠ ComType.hnd.code)
    (failure : String) :
    exec (drainedWorld bus .clear host)
        (do
          let (code, session) ←
            Client.psend session type selector data dataSize
          if code ≠ 0 then
            Client.shError session 3 failure
          else
            return (0, session)) port =
      (some (0, advanced session),
        portSent bus port session.globalId selector craftable) := by
  rw [exec_bind_of_done
    (exec_psend_clear bus host session connected selector craftable port
      ready.idle (ready.agree noHandshake))]
  rfl

/-- The commands that change something at the slaves write nothing. -/
theorem silent_command
    {session : Client.Session}
    {port : Port Client.signature (Station ε)}
    (ready : Ready session.globalId port)
    (connected : session.avrFd = host.device.number)
    {command : FleetCommand}
    (valid : command.Valid) :
    ∃ next after,
      exec (drainedWorld bus .clear host) (command.exec session) port =
          (some (0, next), after) ∧
        onTerminal after.log = onTerminal port.log := by
  have deviceOpen := host.device.opened connected
  cases command with
  | speed command =>
      cases command with
      | set motorId speed =>
          have speedValid : (SpeedCommand.set motorId speed).Valid := valid
          rw [FleetCommand.exec, SpeedCommand.exec, Client.setSpeed,
            if_neg deviceOpen, if_neg speedValid.notGeneral]
          exact
            ⟨_, _,
              exec_told ready connected motorId
                (craftable_of_body _ (by decide) (by decide)) (by decide) _,
              onTerminal_portSent bus port _ _ _⟩
      | apply =>
          rw [FleetCommand.exec, SpeedCommand.exec, Client.apply,
            if_neg deviceOpen]
          exact
            ⟨_, _,
              exec_told ready connected 0 (craftable_of_none (by decide))
                (by decide) _,
              onTerminal_portSent bus port _ _ _⟩
  | rename addrActual addrNew =>
      obtain ⟨⟨actualPositive, actualLow⟩, newPositive, newLow⟩ := valid
      have inRange :
          ¬ (addrActual = 0 ∨ addrNew = 0 ∨
              addrActual.toNat ≥ Client.slaveIdLimit ∨
              addrNew.toNat ≥ Client.slaveIdLimit) := by
        simp only [← UInt8.toNat_inj, UInt8.le_iff_toNat_le] at *
        simp only [UInt8.reduceToNat, Client.slaveIdLimit] at *
        omega
      rw [FleetCommand.exec, Client.setSlaveAddr, if_neg deviceOpen,
        if_neg inRange]
      split
      · exact ⟨session, port, rfl, rfl⟩
      · exact
          ⟨_, _,
            exec_told ready connected addrActual
              (craftable_of_body _ (by decide) (by decide)) (by decide) _,
            onTerminal_portSent bus port _ _ _⟩

/-- They end with the return code 0, and send their frames to the bus. -/
theorem concludes_command
    {session : Client.Session}
    {port : Port Client.signature (Station ε)}
    (ready : Ready session.globalId port)
    (connected : session.avrFd = host.device.number)
    {command : FleetCommand}
    (valid : command.Valid) :
    Concludes bus host (command.exec session) port []
      (command.sends bus port.env.port.env) := by
  obtain ⟨next, after, run, silent⟩ :=
    @silent_command ε bus host session port ready connected command valid
  obtain ⟨_, _, issued, stillReady, sameDevice, sent⟩ :=
    issueFleet_of_ready bus host ready connected valid
  rw [issueFleet, run] at issued
  cases issued
  refine
    ⟨next, after, run, stillReady, sameDevice.trans connected, sent, ?_⟩
  rw [List.append_nil]
  exact silent

end Concluding

end Ammc.Exchange
