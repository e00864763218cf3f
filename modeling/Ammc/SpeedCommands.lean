import Mathlib.Data.List.Forall2
import Mathlib.Data.List.Induction
import Ammc.DrainedSession
import Ammc.SlaveCalls

namespace Ammc.Exchange

open ByteMemory Serial Packet DcMotor Slave

/-!
# Setting and applying speeds

The user sees a pending and an applied speed for every motor.  Each command
passes through the client's encoding, the packet, the master's dispatch and a
frame on the bus before a slave calls its motor module.
-/

/-- The commands that change the speeds. -/
inductive SpeedCommand where
  | set (motorId : UInt8) (speed : DcRpm)
  | apply
  deriving Repr, DecidableEq

namespace SpeedCommand

/-- The command of the shell. -/
def exec
    (session : Client.Session) :
    SpeedCommand → Client.ClientProg (Int × Client.Session)
  | .set motorId speed => Client.setSpeed session motorId speed
  | .apply => Client.apply session

/-- The motor ids of the user are addresses of slaves. -/
def Valid : SpeedCommand → Prop
  | .set motorId _ => 1 ≤ motorId ∧ motorId ≤ 126
  | .apply => True

/-- A motor id is not the address of the general call. -/
theorem Valid.notGeneral
    {motorId : UInt8}
    {speed : DcRpm}
    (valid : (set motorId speed).Valid) :
    motorId ≠ 0 := by
  rintro rfl
  exact absurd valid.1 (by decide)

/-- The address on the bus. -/
def target : SpeedCommand → UInt8
  | .set motorId _ => motorId
  | .apply => 0

/-- Commands go to addresses of slaves, or to all of them. -/
theorem Valid.low
    {command : SpeedCommand}
    (valid : command.Valid) :
    command.target ≤ 126 := by
  cases command with
  | set motorId speed => exact valid.2
  | apply => decide

/-- The call that the user expects. -/
def call : SpeedCommand → MotorCall
  | .set _ speed => .set speed
  | .apply => .apply

end SpeedCommand

/-- What the user expects of the motor with an id. -/
def callsOf
    (motorId : UInt8)
    (commands : List SpeedCommand) : List MotorCall :=
  commands.filterMap fun command =>
    match command with
    | .set id speed =>
        if id = motorId then some (.set speed) else none
    | .apply => some .apply

/-- A command concerns the motor that it names, or all of them. -/
theorem callsOf_concat
    {motorId : UInt8}
    (commands : List SpeedCommand)
    {command : SpeedCommand}
    (valid : command.Valid) :
    callsOf motorId (commands ++ [command]) =
      callsOf motorId commands ++
        if command.target = 0 ∨ command.target = motorId then
          [command.call]
        else
          [] := by
  cases command with
  | set id speed =>
      have notGeneral := valid.notGeneral
      by_cases same : id = motorId
      · simp [callsOf, same, SpeedCommand.target, SpeedCommand.call]
      · simp [callsOf, same, notGeneral, SpeedCommand.target]
  | apply =>
      simp [callsOf, SpeedCommand.target, SpeedCommand.call]

/-- The last speed that was set for a motor, or zero. -/
def lastSpeed
    (motorId : UInt8)
    (commands : List SpeedCommand) : DcRpm :=
  (commands.reverse.findSome? fun command =>
    match command with
    | .set id speed => if id = motorId then some speed else none
    | .apply => none).getD 0

/-- The speeds of the motors as the user sees them. -/
structure SpeedView where
  pending : UInt8 → DcRpm
  applied : UInt8 → DcRpm

namespace SpeedView

/-- Before any command. -/
def zero : SpeedView where
  pending _ := 0
  applied _ := 0

/-- A set speed is pending until it is applied. -/
def step (view : SpeedView) : SpeedCommand → SpeedView
  | .set motorId speed =>
      { view with
        pending := Function.update view.pending motorId speed }
  | .apply => { view with applied := view.pending }

/-- The speeds after a sequence of commands. -/
def after (commands : List SpeedCommand) : SpeedView :=
  commands.foldl step zero

theorem after_concat
    (commands : List SpeedCommand)
    (command : SpeedCommand) :
    after (commands ++ [command]) = (after commands).step command := by
  simp [after]

/-- The last speed that was set is pending. -/
theorem pending_after
    (motorId : UInt8)
    (commands : List SpeedCommand) :
    (after commands).pending motorId = lastSpeed motorId commands := by
  induction commands using List.reverseRecOn with
  | nil => rfl
  | append_singleton commands command inductionHypothesis =>
      rw [after_concat]
      cases command with
      | set id speed =>
          by_cases same : id = motorId
          · simp [step, lastSpeed, same]
          · have different : motorId ≠ id := fun equal =>
              same equal.symm
            simp [step, different, inductionHypothesis, lastSpeed, same]
      | apply =>
          simp [step, inductionHypothesis, lastSpeed]

end SpeedView

/-- A motor holds the limited speeds that the user sees for it. -/
structure Shows
    (view : SpeedView)
    (motorId : UInt8)
    (motor : Motor) : Prop where
  next :
    motor.speedNext = computeLimitedSpeed (view.pending motorId)
  target :
    motor.speedTarget = computeLimitedSpeed (view.applied motorId)

/-- A command does to a motor what it does to the view. -/
theorem Shows.perform
    {view : SpeedView}
    {motorId : UInt8}
    {motor : Motor}
    (shows : Shows view motorId motor)
    {command : SpeedCommand}
    (concerned : command.target = 0 ∨ command.target = motorId)
    (valid : command.Valid) :
    Shows (view.step command) motorId
      (command.call.perform motor) := by
  cases command with
  | set id speed =>
      have same : id = motorId := by
        rcases concerned with general | same
        · exact absurd general valid.notGeneral
        · exact same
      refine ⟨?_, shows.target⟩
      simp [SpeedView.step, SpeedCommand.call, MotorCall.perform,
        dcmotorSet, same]
  | apply => exact ⟨shows.next, shows.next⟩

/-- A command to another motor leaves what the user sees of this one. -/
theorem Shows.passed
    {view : SpeedView}
    {motorId : UInt8}
    {motor : Motor}
    (shows : Shows view motorId motor)
    {command : SpeedCommand}
    (other : ¬ (command.target = 0 ∨ command.target = motorId)) :
    Shows (view.step command) motorId motor := by
  cases command with
  | set id speed =>
      have different : motorId ≠ id := fun same =>
        other (Or.inr same.symm)
      refine ⟨?_, shows.target⟩
      simp [SpeedView.step, different, shows.next]
  | apply => exact absurd (Or.inl rfl) other

section Issuing

variable {ε : Type}
variable (bus : Master.Bus ε)
variable (host : Host ε)

/-- A command that ends with the return code 0. -/
def issue
    (state :
      Client.Session × Port Client.signature (Station ε))
    (command : SpeedCommand) :
    Option (Client.Session × Port Client.signature (Station ε)) :=
  match
    Serial.exec (drainedWorld bus .clear host) (command.exec state.1)
      state.2 with
  | (some (code, session), port) =>
      if code = 0 then some (session, port) else none
  | (none, _) => none

/-- The commands are issued one after the other. -/
def issueAll
    (state :
      Client.Session × Port Client.signature (Station ε))
    (commands : List SpeedCommand) :
    Option (Client.Session × Port Client.signature (Station ε)) :=
  commands.foldlM (issue bus host) state

theorem issueAll_concat
    (state :
      Client.Session × Port Client.signature (Station ε))
    (commands : List SpeedCommand)
    (command : SpeedCommand) :
    issueAll bus host state (commands ++ [command]) =
      (issueAll bus host state commands).bind fun next =>
        issue bus host next command := by
  rw [issueAll, List.foldlM_append]
  simp [issueAll]

/-- The surroundings of the master after a sent packet. -/
theorem env_portSent
    (port : Port Client.signature (Station ε))
    (globalId selector : UInt8)
    {type : UInt8}
    {data : Option Memory}
    {dataSize : UInt8}
    (craftable : Craftable type data dataSize) :
    (portSent bus port globalId selector craftable).env.port.env =
      (Master.effect bus
        ((sentFrame globalId selector craftable).landed
          port.env.handler.rx) port.env.port.env).2 := by
  have accepted :
      (sentFrame globalId selector craftable).verdict = .success :=
    verdict_sentFrame _ _ craftable
  change
    ((sentFrame globalId selector craftable).served bus _ _ _).2 = _
  rw [Datagram.served, if_pos accepted]
  rfl

/-- A sent packet leaves the master waiting under the next id. -/
theorem ready_portSent
    {session : Client.Session}
    {port : Port Client.signature (Station ε)}
    (ready : Ready session.globalId port)
    (selector : UInt8)
    {type : UInt8}
    {data : Option Memory}
    {dataSize : UInt8}
    (craftable : Craftable type data dataSize)
    (noHandshake : type ≠ ComType.hnd.code) :
    Ready (advanced session).globalId
      (portSent bus port session.globalId selector craftable) :=
  ⟨port.env.idle_after bus _,
    ((ready.agree noHandshake).nextId selector craftable).symm⟩

/-- A command whose packet is acknowledged, with its effect on the bus. -/
structure Issued
    (bus : Master.Bus ε)
    (host : Host ε)
    (command : SpeedCommand)
    (session : Client.Session)
    (port : Port Client.signature (Station ε))
    (after : Port Client.signature (Station ε)) : Prop where
  issued :
    issue bus host (session, port) command =
      some (advanced session, after)
  ready : Ready (advanced session).globalId after
  sent :
    after.env.port.env =
      bus.twiSend command.target command.call.frame port.env.port.env

/-- The master passes on the speed of a packet. -/
theorem effect_of_setSpeed
    {p : Memory}
    (typeField : packetGetType p = ComType.setSpeed.code)
    {speed : DcRpm}
    (body : (packetBody p).bytes 0 2 = rpmBytes speed)
    (env : ε) :
    (Master.effect bus p env).2 =
      bus.twiSend (packetGetSelector p) (MotorCall.set speed).frame
        env := by
  have frame :
      [Master.CommandId.setSpeed.code, packetBody p 0, packetBody p 1] =
        (MotorCall.set speed).frame :=
    congrArg (Master.CommandId.setSpeed.code :: ·) body
  rw [← frame]
  simp [Master.effect, typeField, ComType.code]

/-- The master tells all slaves to apply their speeds. -/
theorem effect_of_apply
    {p : Memory}
    (typeField : packetGetType p = ComType.apply.code)
    (env : ε) :
    (Master.effect bus p env).2 =
      bus.twiSend 0 MotorCall.apply.frame env := by
  simp [Master.effect, typeField, ComType.code, MotorCall.frame]

/-- The commands are acknowledged, and reach the bus. -/
theorem issued_of_ready
    {session : Client.Session}
    {port : Port Client.signature (Station ε)}
    (ready : Ready session.globalId port)
    (connected : session.avrFd = host.device.number)
    {command : SpeedCommand}
    (valid : command.Valid) :
    ∃ after, Issued bus host command session port after := by
  have deviceOpen := host.device.opened connected
  cases command with
  | set motorId speed =>
      have craftable :
          Craftable ComType.setSpeed.code
            (some (Memory.store (fun _ => 0) 0 (rpmBytes speed))) 2 :=
        craftable_of_body _ (by decide) (by decide)
      have nonzero := valid.notGeneral
      have sent :=
        exec_psend_clear bus host session connected motorId craftable
          port ready.idle (ready.agree (by decide))
      refine
        ⟨portSent bus port session.globalId motorId craftable, ?_,
          ready_portSent bus ready motorId craftable (by decide), ?_⟩
      · rw [issue]
        simp only [SpeedCommand.exec, Client.setSpeed,
          if_neg deviceOpen, if_neg nonzero]
        rw [exec_bind_of_done sent]
        rfl
      · have inRest :
            2 ≤
              (sentFrame session.globalId motorId
                craftable).rest.length := by
          simp [sentFrame, imageFrame, bodyBytes]
        have body :=
          Datagram.bytes_packetBody_landed _ port.env.handler.rx inRest
        rw [env_portSent,
          effect_of_setSpeed bus
            (sentFrame_type session.globalId motorId craftable
              port.env.handler.rx) body,
          sentFrame_selector]
        rfl
  | apply =>
      have craftable : Craftable ComType.apply.code none 0 :=
        craftable_of_none (by decide)
      have sent :=
        exec_psend_clear bus host session connected 0 craftable port
          ready.idle (ready.agree (by decide))
      refine
        ⟨portSent bus port session.globalId 0 craftable, ?_,
          ready_portSent bus ready 0 craftable (by decide), ?_⟩
      · rw [issue]
        simp only [SpeedCommand.exec, Client.apply, if_neg deviceOpen]
        rw [exec_bind_of_done sent]
        rfl
      · rw [env_portSent]
        exact
          effect_of_apply bus
            (sentFrame_type session.globalId 0 craftable
              port.env.handler.rx) _

end Issuing

/-! ## The slaves behind the commands -/

/-- A slave that has been set up, and has not been given a speed yet. -/
structure Fresh (slave : Traced) : Prop where
  listening : Listening slave
  addressed : slave.address ≠ 0
  noCalls : slave.calls = []
  next : slave.motor.speedNext = 0
  target : slave.motor.speedTarget = 0

/-- So is a slave after its setup. -/
theorem fresh_bootedSlave
    {ownAddress : UInt8}
    (positive : 1 ≤ ownAddress)
    (low : ownAddress ≤ 126) :
    Fresh (bootedSlave ownAddress) where
  listening := listening_bootedSlave low
  addressed := by
    rw [address_bootedSlave low]
    rintro rfl
    exact absurd positive (by decide)
  noCalls := rfl
  next := rfl
  target := rfl

/-- A slave has made the calls, and holds the speeds, of the commands. -/
structure Followed
    (commands : List SpeedCommand)
    (slave : Traced) : Prop where
  listening : Listening slave
  addressed : slave.address ≠ 0
  calls : slave.calls = callsOf slave.address commands
  shows : Shows (SpeedView.after commands) slave.address slave.motor

theorem Fresh.followed
    {slave : Traced}
    (fresh : Fresh slave) :
    Followed [] slave := by
  have stopped : computeLimitedSpeed 0 = 0 := by
    decide
  refine ⟨fresh.listening, fresh.addressed, fresh.noCalls, ?_, ?_⟩
  · exact fresh.next.trans stopped.symm
  · exact fresh.target.trans stopped.symm

/-- What a slave makes of a command, after some others. -/
def Obeyed
    (commands : List SpeedCommand)
    (before after : Traced) : SpeedCommand → Prop
  | .set motorId speed =>
      after.motor.speedTarget = before.motor.speedTarget ∧
        if before.address = motorId then
          after.calls = before.calls ++ [.set speed] ∧
            after.motor.speedNext = computeLimitedSpeed speed
        else
          after.calls = before.calls ∧
            after.motor.speedNext = before.motor.speedNext
  | .apply =>
      after.calls = before.calls ++ [.apply] ∧
        after.motor.speedNext = before.motor.speedNext ∧
        after.motor.speedTarget =
          computeLimitedSpeed (lastSpeed before.address commands)

section Following

variable {commands : List SpeedCommand} {command : SpeedCommand}

/-- The slave after the frame of a command. -/
def told
    (command : SpeedCommand)
    (slave : Traced) : Traced :=
  (slave.after
    (slave.node.write command.target command.call.frame)).settle

/-- A slave that is concerned does what it is told. -/
theorem Followed.told_concerned
    {slave : Traced}
    (followed : Followed commands slave)
    (valid : command.Valid)
    (concerned :
      command.target = 0 ∨ command.target = slave.address) :
    Followed (commands ++ [command]) (told command slave) ∧
      (told command slave).address = slave.address ∧
      Obeyed commands slave (told command slave) command := by
  obtain ⟨listening, calls, sameAddress, motor⟩ :=
    followed.listening.called concerned command.call
  have recorded :
      (told command slave).calls =
        callsOf (told command slave).address (commands ++ [command]) := by
    rw [told, sameAddress, calls, callsOf_concat commands valid,
      if_pos concerned, followed.calls]
  have shows :
      Shows (SpeedView.after (commands ++ [command]))
        (told command slave).address (told command slave).motor := by
    rw [told, sameAddress, motor, SpeedView.after_concat]
    exact followed.shows.perform concerned valid
  refine
    ⟨⟨listening, ?_, recorded, shows⟩, sameAddress, ?_⟩
  · rw [told, sameAddress]
    exact followed.addressed
  · rw [told]
    cases command with
    | set motorId speed =>
        have same : slave.address = motorId := by
          rcases concerned with general | same
          · exact absurd general valid.notGeneral
          · exact same.symm
        rw [Obeyed, if_pos same, calls, motor]
        exact ⟨rfl, rfl, rfl⟩
    | apply =>
        rw [Obeyed, calls, motor, ← SpeedView.pending_after,
          ← followed.shows.next]
        exact ⟨rfl, rfl, rfl⟩

/-- The other slaves are left as they are. -/
theorem Followed.told_passed
    {slave : Traced}
    (followed : Followed commands slave)
    (valid : command.Valid)
    (other :
      ¬ (command.target = 0 ∨ command.target = slave.address)) :
    Followed (commands ++ [command]) (told command slave) ∧
      (told command slave).address = slave.address ∧
      Obeyed commands slave (told command slave) command := by
  have unchanged : told command slave = slave :=
    followed.listening.passed other command.call.frame
  rw [unchanged]
  refine
    ⟨⟨followed.listening, followed.addressed, ?_, ?_⟩, rfl, ?_⟩
  · rw [callsOf_concat commands valid, if_neg other, List.append_nil]
    exact followed.calls
  · rw [SpeedView.after_concat]
    exact followed.shows.passed other
  · cases command with
    | set motorId speed =>
        have different : slave.address ≠ motorId := fun same =>
          other (Or.inr same.symm)
        rw [Obeyed, if_neg different]
        exact ⟨rfl, rfl, rfl⟩
    | apply => exact absurd (Or.inl rfl) other

/-- Every slave obeys, whether or not the command concerns it. -/
theorem Followed.told
    {slave : Traced}
    (followed : Followed commands slave)
    (valid : command.Valid) :
    Followed (commands ++ [command]) (told command slave) ∧
      (told command slave).address = slave.address ∧
      Obeyed commands slave (told command slave) command := by
  by_cases concerned :
      command.target = 0 ∨ command.target = slave.address
  · exact followed.told_concerned valid concerned
  · exact followed.told_passed valid concerned

end Following

section Commanding

variable (uninitialised : List Traced → Memory)
variable (host : Host (List Traced))

/-- Both sides after the commands, with the slaves that have followed them. -/
structure Commanded
    (slaves : List Traced)
    (commands : List SpeedCommand)
    (session : Client.Session)
    (port : Port Client.signature (Station (List Traced))) : Prop where
  ready : Ready session.globalId port
  connected : session.avrFd = host.device.number
  followed : ∀ slave ∈ port.env.port.env, Followed commands slave
  addresses :
    port.env.port.env.map Traced.address = slaves.map Traced.address

variable {host}

/-- A further command is acknowledged, and reaches each slave by itself. -/
theorem Commanded.issue
    {slaves : List Traced}
    {commands : List SpeedCommand}
    {session : Client.Session}
    {port : Port Client.signature (Station (List Traced))}
    (commanded : Commanded host slaves commands session port)
    {command : SpeedCommand}
    (valid : command.Valid) :
    ∃ after,
      issue (tracedBus uninitialised) host (session, port) command =
        some (advanced session, after) ∧
      after.env.port.env = port.env.port.env.map (told command) ∧
      Commanded host slaves (commands ++ [command])
        (advanced session) after := by
  obtain ⟨after, issued⟩ :=
    issued_of_ready (tracedBus uninitialised) host commanded.ready
      commanded.connected valid
  have told :
      after.env.port.env = port.env.port.env.map (told command) :=
    issued.sent.trans
      (twiSend_listening uninitialised valid.low
        (fun slave member => (commanded.followed slave member).listening)
        command.call.frame command.call.short)
  refine
    ⟨after, issued.issued, told, issued.ready, commanded.connected,
      ?_, ?_⟩
  · rw [told]
    intro slave member
    obtain ⟨earlier, inSlaves, rfl⟩ := List.mem_map.mp member
    exact ((commanded.followed earlier inSlaves).told valid).1
  · rw [told, List.map_map, ← commanded.addresses]
    exact List.map_congr_left fun slave member =>
      ((commanded.followed slave member).told valid).2.1

/-- All commands are acknowledged, and followed by the slaves. -/
theorem commanded_issueAll
    {session : Client.Session}
    {port : Port Client.signature (Station (List Traced))}
    (ready : Ready session.globalId port)
    (connected : session.avrFd = host.device.number)
    (fresh : ∀ slave ∈ port.env.port.env, Fresh slave)
    {commands : List SpeedCommand}
    (valid : ∀ command ∈ commands, command.Valid) :
    ∃ last after,
      issueAll (tracedBus uninitialised) host (session, port) commands =
        some (last, after) ∧
      Commanded host port.env.port.env commands last after := by
  induction commands using List.reverseRecOn with
  | nil =>
      exact
        ⟨session, port, rfl, ready, connected,
          fun slave member => (fresh slave member).followed, rfl⟩
  | append_singleton commands command inductionHypothesis =>
      obtain ⟨last, after, run, commanded⟩ :=
        inductionHypothesis fun earlier member =>
          valid earlier (List.mem_append_left _ member)
      obtain ⟨next, issued, _, further⟩ :=
        commanded.issue uninitialised (valid command (by simp))
      refine ⟨advanced last, next, ?_, further⟩
      rw [issueAll_concat, run]
      exact issued

variable {uninitialised}

/--
After any sequence of commands, the next one is acknowledged.  When it sets a
speed, exactly the slave with the given address is told this speed; when it
applies the speeds, every slave takes over the one that was last set for it.
-/
theorem speedCommands_obeyed
    {session : Client.Session}
    {port : Port Client.signature (Station (List Traced))}
    (ready : Ready session.globalId port)
    (connected : session.avrFd = host.device.number)
    (fresh : ∀ slave ∈ port.env.port.env, Fresh slave)
    {commands : List SpeedCommand}
    (valid : ∀ command ∈ commands, command.Valid)
    {command : SpeedCommand}
    (nextValid : command.Valid) :
    ∃ last after next final,
      issueAll (tracedBus uninitialised) host (session, port) commands =
        some (last, after) ∧
      issue (tracedBus uninitialised) host (last, after) command =
        some (next, final) ∧
      after.env.port.env.map Traced.address =
        port.env.port.env.map Traced.address ∧
      List.Forall₂
        (fun before told =>
          told.address = before.address ∧
            before.calls = callsOf before.address commands ∧
            Shows (SpeedView.after commands) before.address
              before.motor ∧
            Obeyed commands before told command)
        after.env.port.env final.env.port.env := by
  obtain ⟨last, after, run, commanded⟩ :=
    commanded_issueAll uninitialised ready connected fresh valid
  obtain ⟨final, issued, told, _⟩ :=
    commanded.issue uninitialised nextValid
  refine
    ⟨last, after, advanced last, final, run, issued,
      commanded.addresses, ?_⟩
  rw [told, List.forall₂_map_right_iff, List.forall₂_same]
  intro slave member
  have followed := commanded.followed slave member
  obtain ⟨_, sameAddress, obeyed⟩ := followed.told nextValid
  exact ⟨sameAddress, followed.calls, followed.shows, obeyed⟩

end Commanding

/-- Two slaves at the addresses 5 and 9. -/
def twoSlaves : List Traced :=
  [bootedSlave 5, bootedSlave 9]

/-- A computer that is connected to a master with two slaves. -/
def slavesHost : Host (List Traced) where
  device := plainHost.device
  uninitialised _ := fun _ => 0

/-- Both slaves take over what was last set for them. -/
theorem twoSlaves_obeyed :
    ∃ last after next final,
      issueAll (tracedBus fun _ _ => 0) slavesHost
          (⟨7, 3⟩, freshPort 7 (fun _ => 0) twoSlaves)
          [.set 5 100, .set 9 200, .apply, .set 5 (-7)] =
        some (last, after) ∧
      issue (tracedBus fun _ _ => 0) slavesHost (last, after) .apply =
        some (next, final) ∧
      after.env.port.env.map Traced.address =
        twoSlaves.map Traced.address ∧
      List.Forall₂
        (fun before told =>
          told.address = before.address ∧
            before.calls =
              callsOf before.address
                [.set 5 100, .set 9 200, .apply, .set 5 (-7)] ∧
            Shows
              (SpeedView.after
                [.set 5 100, .set 9 200, .apply, .set 5 (-7)])
              before.address before.motor ∧
            Obeyed [.set 5 100, .set 9 200, .apply, .set 5 (-7)] before
              told .apply)
        after.env.port.env final.env.port.env := by
  have fresh : ∀ slave ∈ twoSlaves, Fresh slave := by
    intro slave member
    rcases List.mem_cons.mp member with rfl | other
    · exact fresh_bootedSlave (by decide) (by decide)
    · rw [List.mem_singleton.mp other]
      exact fresh_bootedSlave (by decide) (by decide)
  have valid :
      ∀ command ∈
        ([.set 5 100, .set 9 200, .apply, .set 5 (-7)] :
          List SpeedCommand),
        command.Valid := by
    simp [SpeedCommand.Valid]
  exact
    speedCommands_obeyed
      (show
        Ready (⟨7, 3⟩ : Client.Session).globalId
          (freshPort 7 (fun _ => 0) twoSlaves) from
        ⟨⟨rfl, rfl⟩, rfl⟩)
      rfl fresh valid trivial

end Ammc.Exchange
