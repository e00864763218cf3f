import Ammc.DrainedSession

namespace Ammc.Exchange

open ByteMemory Serial Packet DcMotor

/-!
# The packets of a command

Which packet a command sends, whether a `DAT` packet answers it, and how the
command goes on once these packets have been sent and received, whatever the
line does to them.
-/

/-- The command passes the client's own checks and sends a packet. -/
def SendsPacket : Client.Command → Prop
  | .connect _ => True
  | .disconnect => False
  | .devEcho args => args ≠ [] ∧ (Client.echoText args).length ≤ 30
  | .ping slaveId => ¬ (slaveId = 0 ∨ slaveId > 127)
  | .getSpeed motorId => motorId ≠ 0
  | .setSpeed motorId _ => motorId ≠ 0
  | .apply => True
  | .setSlaveAddr addrActual addrNew =>
      ¬ (addrActual = 0 ∨ addrNew = 0 ∨
        addrActual.toNat ≥ Client.slaveIdLimit ∨
        addrNew.toNat ≥ Client.slaveIdLimit) ∧
      addrActual ≠ addrNew

/-- The command begins a new conversation at id 0. -/
def IsConnect : Client.Command → Prop
  | .connect _ => True
  | _ => False

/-- The command is answered with a `DAT` packet. -/
def AnsweredByDat : Client.Command → Prop
  | .devEcho args =>
      args ≠ [] ∧ (Client.echoText args).length ≤ 27
  | .ping slaveId => ¬ (slaveId = 0 ∨ slaveId > 127)
  | .getSpeed motorId => motorId ≠ 0
  | _ => False

/-- The fields of a packet to be sent. -/
structure Request where
  type : UInt8
  selector : UInt8
  data : Option Memory
  dataSize : UInt8

/-- The packet of a command, given fresh stack memory. -/
def request
    (fresh : Memory) : Client.Command → Request
  | .connect _ => ⟨ComType.hnd.code, 0, none, 0⟩
  | .disconnect => ⟨ComType.null.code, 0, none, 0⟩
  | .devEcho args =>
      ⟨ComType.echo.code, 0,
        some (Client.prepareEchoString fresh args).2,
        (Client.prepareEchoString fresh args).1⟩
  | .ping slaveId => ⟨ComType.ping.code, slaveId.toUInt8, none, 0⟩
  | .getSpeed motorId => ⟨ComType.getSpeed.code, motorId, none, 0⟩
  | .setSpeed motorId speed =>
      ⟨ComType.setSpeed.code, motorId,
        some (Memory.store (fun _ => 0) 0 (rpmBytes speed)), 2⟩
  | .apply => ⟨ComType.apply.code, 0, none, 0⟩
  | .setSlaveAddr addrActual addrNew =>
      ⟨ComType.setSlaveAddr.code, addrActual, some fun _ => addrNew, 1⟩

/-- The packet of a command is never refused by the encoder. -/
theorem request_craftable
    (fresh : Memory)
    {command : Client.Command}
    (sends : SendsPacket command) :
    Craftable (request fresh command).type (request fresh command).data
      (request fresh command).dataSize := by
  cases command with
  | connect device =>
      exact craftable_of_none
        (show ComType.hnd.code < ComType.limit.code by decide)
  | disconnect => exact sends.elim
  | devEcho args =>
      obtain ⟨str, prepared, craftable, _⟩ :=
        echo_prepared fresh sends.1 sends.2
      rw [request, prepared]
      exact craftable
  | ping slaveId =>
      exact craftable_of_none
        (show ComType.ping.code < ComType.limit.code by decide)
  | getSpeed motorId =>
      exact craftable_of_none
        (show ComType.getSpeed.code < ComType.limit.code by decide)
  | setSpeed motorId speed =>
      exact craftable_of_body _
        (show (2 : UInt8).toNat ≤ bodyMaxLen by decide)
        (show ComType.setSpeed.code < ComType.limit.code by decide)
  | apply =>
      exact craftable_of_none
        (show ComType.apply.code < ComType.limit.code by decide)
  | setSlaveAddr addrActual addrNew =>
      exact craftable_of_body _
        (show (1 : UInt8).toNat ≤ bodyMaxLen by decide)
        (show ComType.setSlaveAddr.code < ComType.limit.code by decide)

/-- Only `connect` sends a handshake. -/
theorem request_noHandshake
    (fresh : Memory)
    {command : Client.Command}
    (notConnect : ¬ IsConnect command) :
    (request fresh command).type ≠ ComType.hnd.code := by
  cases command with
  | connect device => exact absurd trivial notConnect
  | disconnect =>
      show ComType.null.code ≠ ComType.hnd.code
      decide
  | devEcho args =>
      show ComType.echo.code ≠ ComType.hnd.code
      decide
  | ping slaveId =>
      show ComType.ping.code ≠ ComType.hnd.code
      decide
  | getSpeed motorId =>
      show ComType.getSpeed.code ≠ ComType.hnd.code
      decide
  | setSpeed motorId speed =>
      show ComType.setSpeed.code ≠ ComType.hnd.code
      decide
  | apply =>
      show ComType.apply.code ≠ ComType.hnd.code
      decide
  | setSlaveAddr addrActual addrNew =>
      show ComType.setSlaveAddr.code ≠ ComType.hnd.code
      decide

/-- A command that is answered by a `DAT` packet sends a packet. -/
theorem AnsweredByDat.sends
    {command : Client.Command}
    (answered : AnsweredByDat command) :
    SendsPacket command := by
  cases command with
  | devEcho args =>
      exact ⟨answered.1, Nat.le_trans answered.2 (by decide)⟩
  | ping slaveId => exact answered
  | getSpeed motorId => exact answered
  | _ => exact answered.elim

theorem AnsweredByDat.notConnect
    {command : Client.Command}
    (answered : AnsweredByDat command) :
    ¬ IsConnect command := by
  cases command with
  | connect device => exact answered.elim
  | _ => exact id

section Runs

variable {ε : Type}
variable (bus : Master.Bus ε)
variable (host : Host ε)

/-- The master's operation answers the packet of such a command. -/
theorem AnsweredByDat.effect
    (fresh : Memory)
    {command : Client.Command}
    (answered : AnsweredByDat command)
    (id : UInt8)
    (rx : Memory)
    (env : ε) :
    ∃ selector body,
      (Master.effect bus
        ((sentFrame id (request fresh command).selector
          (request_craftable fresh answered.sends)).landed rx) env).1 =
        some (selector, body) ∧
      body.length ≤ 27 := by
  cases command with
  | devEcho args =>
      obtain ⟨str, prepared, craftable, body⟩ :=
        echo_prepared fresh answered.sends.1 answered.sends.2
      have replied := effect_echo bus id craftable rx env
      rw [body] at replied
      simp only [request, prepared]
      exact ⟨_, _, replied, answered.2⟩
  | ping slaveId =>
      obtain ⟨error, replied⟩ :=
        effect_ping bus
          (sentFrame_type id slaveId.toUInt8
            (request_craftable fresh answered.sends) rx) env
      exact ⟨_, _, replied, by simp⟩
  | getSpeed motorId =>
      obtain ⟨body, replied, length⟩ :=
        effect_getSpeed bus
          (sentFrame_type id motorId
            (request_craftable fresh answered.sends) rx) env
      refine ⟨_, body, replied, ?_⟩
      rw [length]
      decide
  | _ => exact answered.elim

/-- `psend` with the fields of a command's packet. -/
def psendRequest
    (session : Client.Session)
    (fields : Request) : Client.ClientProg (Int × Client.Session) :=
  Client.psend session fields.type fields.selector fields.data
    fields.dataSize

/-- The session under which a command sends its packet. -/
def starting
    (session : Client.Session) : Client.Command → Client.Session
  | .connect _ => { session with globalId := 0 }
  | _ => session

/-- The client's port when a connected command sends its packet. -/
def startingPort
    (port : Port Client.signature (Station ε)) :
    Client.Command → Port Client.signature (Station ε)
  | .connect _ =>
      port.noted
        (.warned "Open serial context found; reconnecting\n")
  | _ => port

/-- A command fails when its packet is not acknowledged. -/
theorem exec_command_refused
    {line : Line}
    {session : Client.Session}
    (connected : session.avrFd = host.device.number)
    {command : Client.Command}
    (sends : SendsPacket command)
    {port after : Port Client.signature (Station ε)}
    (refused :
      exec (drainedWorld bus line host)
          (psendRequest (starting session command)
            (request (host.uninitialised port.env) command))
          (startingPort port command) =
        (some (1, { session with globalId := 0 }), after)) :
    ∃ message,
      exec (drainedWorld bus line host) (command.exec session) port =
        (some (3, { session with globalId := 0 }),
          after.noted (.failed 3 message)) := by
  have opened := host.device.opened connected
  cases command with
  | connect device =>
      have handshake :
          exec (drainedWorld bus line host)
              (Client.communicationConnect session.avrFd)
              (startingPort port (.connect device)) =
            (some { code := 1, globalId := 0 }, after) :=
        exec_communicationConnect bus refused
      rw [startingPort] at handshake
      refine ⟨"Could not send a handshake packet", ?_⟩
      rw [Client.Command.exec, Client.connect,
        if_pos (host.device.positive connected)]
      change
        exec (drainedWorld bus line host) (Client.connectOver session)
          (port.noted
            (.warned "Open serial context found; reconnecting\n")) = _
      rw [Client.connectOver, exec_bind_of_done handshake]
      rfl
  | disconnect => exact sends.elim
  | devEcho args =>
      obtain ⟨str, prepared, _, _⟩ :=
        echo_prepared (host.uninitialised port.env) sends.1 sends.2
      simp only [starting, startingPort, request, psendRequest,
        prepared] at refused
      refine ⟨"Could not send the string to echo to device", ?_⟩
      rw [Client.Command.exec, Client.devEcho, if_neg sends.1,
        exec_bind_of_done
          (Client.exec_uninitialised
            (drainedWorld_connected bus line host) port),
        if_neg opened]
      rw [show
        Client.garbage (drainedWorld bus line host) port.env =
          host.uninitialised port.env from rfl, prepared]
      simp only [if_neg (echo_admitted sends.2)]
      rw [exec_bind_of_done refused]
      rfl
  | ping slaveId =>
      refine ⟨"Could not send char to Master", ?_⟩
      simp only [starting, startingPort, request, psendRequest] at refused
      rw [Client.Command.exec, Client.ping, if_neg opened,
        if_neg sends, exec_bind_of_done refused]
      rfl
  | getSpeed motorId =>
      refine ⟨"Could not send GET_SPEED packet to Master", ?_⟩
      simp only [starting, startingPort, request, psendRequest] at refused
      rw [Client.Command.exec, Client.getSpeed, if_neg opened,
        if_neg sends, exec_bind_of_done refused]
      rfl
  | setSpeed motorId speed =>
      refine ⟨"Could not send SET_SPEED packet to Master", ?_⟩
      simp only [starting, startingPort, request, psendRequest] at refused
      rw [Client.Command.exec, Client.setSpeed, if_neg opened,
        if_neg sends, exec_bind_of_done refused]
      rfl
  | apply =>
      refine ⟨"Could not send APPLY packet to Master", ?_⟩
      simp only [starting, startingPort, request, psendRequest] at refused
      rw [Client.Command.exec, Client.apply, if_neg opened,
        exec_bind_of_done refused]
      rfl
  | setSlaveAddr addrActual addrNew =>
      refine ⟨"Could not send packet to Master", ?_⟩
      simp only [starting, startingPort, request, psendRequest] at refused
      rw [Client.Command.exec, Client.setSlaveAddr, if_neg opened,
        if_neg sends.1, if_neg sends.2, exec_bind_of_done refused]
      rfl

/--
A command that has been answered with a `DAT` packet ends with the session that
receiving this packet has left.
-/
theorem exec_command_received
    {line : Line}
    {session sent received : Client.Session}
    (connected : session.avrFd = host.device.number)
    {command : Client.Command}
    (answered : AnsweredByDat command)
    {port middle after : Port Client.signature (Station ε)}
    (acknowledged :
      exec (drainedWorld bus line host)
          (psendRequest session
            (request (host.uninitialised port.env) command)) port =
        (some (0, sent), middle))
    {error : Int}
    {packet : Memory}
    (answer :
      exec (drainedWorld bus line host)
          (Client.precv sent (host.uninitialised middle.env)) middle =
        (some (error, received, packet), after)) :
    ∃ code last,
      exec (drainedWorld bus line host) (command.exec session) port =
        (some (code, received), last) ∧
      last.env = after.env := by
  have world := drainedWorld_connected bus line host
  have opened := host.device.opened connected
  have fresh :
      exec (drainedWorld bus line host) (Client.ask .uninitialised)
          middle =
        (some (host.uninitialised middle.env), middle) :=
    Client.exec_uninitialised world middle
  cases command with
  | devEcho args =>
      obtain ⟨str, prepared, _, _⟩ :=
        echo_prepared (host.uninitialised port.env) answered.sends.1
          answered.sends.2
      simp only [request, psendRequest, prepared] at acknowledged
      rw [Client.Command.exec, Client.devEcho,
        if_neg answered.sends.1,
        exec_bind_of_done (Client.exec_uninitialised world port),
        if_neg opened]
      rw [show
        Client.garbage (drainedWorld bus line host) port.env =
          host.uninitialised port.env from rfl, prepared]
      simp only [if_neg (echo_admitted answered.sends.2)]
      rw [exec_bind_of_done acknowledged]
      simp only [ne_eq, not_true_eq_false, ↓reduceIte]
      rw [exec_bind_of_done fresh, exec_bind_of_done answer]
      by_cases failed : error = 0
      · simp only [failed, not_true_eq_false, ↓reduceIte]
        split
        · exact ⟨_, _, rfl, rfl⟩
        · exact ⟨_, _, rfl, rfl⟩
      · simp only [failed, not_false_eq_true, ↓reduceIte]
        exact ⟨_, _, rfl, rfl⟩
  | ping slaveId =>
      simp only [request, psendRequest] at acknowledged
      rw [Client.Command.exec, Client.ping, if_neg opened,
        if_neg answered, exec_bind_of_done acknowledged]
      simp only [ne_eq, not_true_eq_false, ↓reduceIte]
      rw [exec_bind_of_done fresh, exec_bind_of_done answer]
      by_cases failed : error = 0
      · simp only [failed, not_true_eq_false, ↓reduceIte]
        split
        · exact ⟨_, _, rfl, rfl⟩
        · split
          · exact ⟨_, _, rfl, rfl⟩
          · exact ⟨_, _, rfl, rfl⟩
      · simp only [failed, not_false_eq_true, ↓reduceIte]
        exact ⟨_, _, rfl, rfl⟩
  | getSpeed motorId =>
      simp only [request, psendRequest] at acknowledged
      rw [Client.Command.exec, Client.getSpeed, if_neg opened,
        if_neg answered, exec_bind_of_done acknowledged]
      simp only [ne_eq, not_true_eq_false, ↓reduceIte]
      rw [exec_bind_of_done fresh, exec_bind_of_done answer]
      by_cases failed : error = 0
      · simp only [failed, not_true_eq_false, ↓reduceIte]
        exact ⟨_, _, rfl, rfl⟩
      · simp only [failed, not_false_eq_true, ↓reduceIte]
        exact ⟨_, _, rfl, rfl⟩
  | _ => exact answered.elim

end Runs

end Ammc.Exchange
