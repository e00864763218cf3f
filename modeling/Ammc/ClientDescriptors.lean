import Ammc.ClientArguments
import Ammc.FailingReads

namespace Ammc.Client

open ByteMemory Serial Packet DcMotor

/-!
# Open descriptors

The events of a run tell which descriptors `open` has returned and `close` was
not yet called for.  All of the client except `serial_open` and `serial_close`
leaves them alone, whatever its surroundings answer.
-/

/-- The open descriptors after an event. -/
def tracked (fds : List Int) : ClientEvent → List Int
  | .asked (.openDevice _) answer =>
      let fd : Int := answer
      if 0 ≤ fd then fd :: fds else fds
  | .asked (.close fd) _ => fds.filter (· ≠ fd)
  | _ => fds

/-- The open descriptors after some events. -/
def openAfter
    (fds : List Int)
    (events : List ClientEvent) : List Int :=
  events.foldl tracked fds

/-- The events leave the open descriptors as they are. -/
def Quiet (events : List ClientEvent) : Prop :=
  ∀ fds, openAfter fds events = fds

/-- Every run of the program is quiet and ends in what `post` says. -/
def Calm
    (program : ClientProg α)
    (post : α → Prop) : Prop :=
  program.Ensures Arrives fun events result => Quiet events ∧ post result

@[simp] theorem openAfter_nil (fds : List Int) :
    openAfter fds [] = fds :=
  rfl

@[simp] theorem openAfter_append
    (fds : List Int)
    (first second : List ClientEvent) :
    openAfter fds (first ++ second) =
      openAfter (openAfter fds first) second :=
  List.foldl_append

theorem quiet_nil : Quiet [] :=
  fun _ => rfl

theorem quiet_append
    {first second : List ClientEvent}
    (early : Quiet first)
    (late : Quiet second) :
    Quiet (first ++ second) := by
  intro fds
  rw [openAfter_append, early, late]

namespace Calm

theorem pure
    {value : α}
    {post : α → Prop}
    (holds : post value) :
    Calm (Pure.pure value) post :=
  Prog.Ensures.pure ⟨quiet_nil, holds⟩

/-- Calm parts make a calm sequence. -/
theorem bind
    {program : ClientProg α}
    {next : α → ClientProg β}
    {between : α → Prop}
    {post : β → Prop}
    (starts : Calm program between)
    (continues : ∀ value, between value → Calm (next value) post) :
    Calm (program >>= next) post :=
  Prog.Ensures.bind starts fun _ value reached =>
    (continues value reached.2).mono fun _ _ ended =>
      ⟨quiet_append reached.1 ended.1, ended.2⟩

/-- Both branches of a calm choice are calm. -/
theorem ite
    {condition : Prop}
    [Decidable condition]
    {program other : ClientProg α}
    {post : α → Prop}
    (holds : Calm program post)
    (fails : Calm other post) :
    Calm (if condition then program else other) post := by
  by_cases decided : condition
  · rw [if_pos decided]
    exact holds
  · rw [if_neg decided]
    exact fails

theorem record (event : Note) :
    Calm (Client.record event) fun _ => True := by
  intro events result run
  rw [Prog.yields_record.mp run]
  exact ⟨quiet_nil, trivial⟩

theorem isatty (fd : Int) :
    Calm (ask (.isatty fd)) fun _ => True := by
  intro events result run
  rw [Prog.yields_query.mp run]
  exact ⟨fun _ => rfl, trivial⟩

theorem uninitialised :
    Calm (ask .uninitialised) fun _ => True := by
  intro events result run
  rw [Prog.yields_query.mp run]
  exact ⟨fun _ => rfl, trivial⟩

theorem transmit (bytes : List UInt8) :
    Calm (Prog.transmit bytes) fun _ => True := by
  intro events result run
  rw [Prog.yields_transmit.mp run]
  exact ⟨fun _ => rfl, trivial⟩

theorem receive (offset count : Nat) :
    Calm (Prog.receive offset count) fun _ => True := by
  intro events result run
  obtain ⟨got, rfl, _⟩ := Prog.yields_receive.mp run
  exact ⟨fun _ => rfl, trivial⟩

theorem discard : Calm Prog.discard fun _ => True := by
  intro events result run
  rw [Prog.yields_discard.mp run]
  exact ⟨quiet_nil, trivial⟩

end Calm

/-! ## The functions below the commands -/

theorem calm_validDev (fd : Int) :
    Calm (validDev fd) fun _ => True := by
  rw [validDev]
  exact Calm.ite (.isatty fd) (.pure trivial)

theorem calm_serialRx
    (fd : Int)
    (dest : Memory)
    (offset size : Nat) :
    Calm (serialRx fd dest offset size) fun _ => True := by
  refine (calm_validDev fd).bind fun ok _ => ?_
  cases ok with
  | false => exact .pure trivial
  | true => exact (Calm.receive offset size).bind fun _ _ => .pure trivial

theorem calm_serialTx
    (fd : Int)
    (buf : Memory)
    (size : Nat) :
    Calm (serialTx fd buf size) fun _ => True := by
  refine (calm_validDev fd).bind fun ok _ => ?_
  cases ok with
  | false => exact .pure trivial
  | true => exact (Calm.transmit _).bind fun _ _ => .pure trivial

theorem calm_serialRxFlush (fd : Int) :
    Calm (serialRxFlush fd) fun _ => True := by
  refine (calm_validDev fd).bind fun ok _ => ?_
  cases ok with
  | false => exact .pure trivial
  | true => exact .discard

theorem calm_recvAttempt
    (globalId : UInt8)
    (fd : Int)
    (p : Memory) :
    Calm (recvAttempt globalId fd p) fun _ => True := by
  refine (calm_serialRx fd p 0 headerSize).bind fun header _ => ?_
  refine Calm.ite (.pure trivial) ?_
  refine (calm_serialRx fd _ _ _).bind fun body _ => ?_
  have check : Calm (packetCheckCrc body.2) fun _ => True :=
    (Calm.record _).bind fun _ _ => .pure trivial
  exact check.bind fun _ _ => .pure trivial

theorem calm_transmitPacket
    (fd : Int)
    (p : Memory) :
    Calm (transmitPacket fd p) fun _ => True :=
  (calm_serialRxFlush fd).bind fun _ _ =>
    (Calm.record _).bind fun _ _ =>
      (calm_serialTx fd p _).bind fun _ _ => .pure trivial

theorem calm_communicationSend
    (globalId : UInt8)
    (fd : Int)
    (p : Memory) :
    Calm (communicationSend globalId fd p) fun _ => True := by
  refine Calm.ite (.pure trivial) ?_
  refine (calm_transmitPacket fd p).bind fun _ _ => ?_
  refine Calm.uninitialised.bind fun response _ => ?_
  refine (calm_recvAttempt globalId fd response).bind fun received _ => ?_
  refine (Calm.record _).bind fun _ _ => ?_
  exact
    Calm.ite
      ((Calm.record _).bind fun _ _ => .pure trivial)
      ((Calm.record _).bind fun _ _ => .pure trivial)

theorem calm_communicationRecv
    (globalId : UInt8)
    (fd : Int)
    (p : Memory) :
    Calm (communicationRecv globalId fd p) fun _ => True := by
  refine Calm.ite (.pure trivial) ?_
  refine Calm.uninitialised.bind fun _ _ => ?_
  refine (calm_recvAttempt globalId fd p).bind fun received _ => ?_
  refine (Calm.record _).bind fun _ _ => ?_
  have answered :
      ∀ response outcome,
        Calm (do
          let _ ← serialTx fd response packetMinSize
          return (outcome : Outcome × Memory)) fun _ => True :=
    fun response _ =>
      (calm_serialTx fd response _).bind fun _ _ => .pure trivial
  obtain ⟨ret, filled⟩ := received
  cases ret with
  | success | idMismatch | corruptedChecksum => exact answered _ _
  | wrongType | tooBig | slaveNotFound => exact .pure trivial

theorem calm_communicationCraftAndSend
    (globalId : UInt8)
    (fd : Int)
    (type selector : UInt8)
    (data : Option Memory)
    (dataSize : UInt8) :
    Calm
      (communicationCraftAndSend globalId fd type selector data dataSize)
      fun _ => True := by
  refine Calm.uninitialised.bind fun p _ => ?_
  exact Calm.ite (.pure trivial) (calm_communicationSend globalId fd _)

theorem calm_communicationConnect (fd : Int) :
    Calm (communicationConnect fd) fun _ => True :=
  (calm_communicationCraftAndSend 0 fd _ _ _ _).bind fun _ _ =>
    .pure trivial

/-! ## The commands -/

/-- A command leaves all descriptors alone, its own one included. -/
def Unhandled
    (session : Session)
    (program : ClientProg (Int × Session)) : Prop :=
  Calm program fun result => result.2.avrFd = session.avrFd

theorem unhandled_return
    {session after : Session}
    (code : Int)
    (same : after.avrFd = session.avrFd) :
    Unhandled session (return (code, after)) :=
  .pure same

theorem unhandled_shError
    {session after : Session}
    (same : after.avrFd = session.avrFd)
    (code : Int)
    (message : String) :
    Unhandled session (shError after code message) :=
  (Calm.record _).bind fun _ _ => .pure same

theorem unhandled_psend
    (session : Session)
    (type selector : UInt8)
    (data : Option Memory)
    (dataSize : UInt8) :
    Unhandled session (psend session type selector data dataSize) :=
  (calm_communicationCraftAndSend _ _ _ _ _ _).bind fun _ _ => .pure rfl

theorem calm_precv
    (session : Session)
    (p : Memory) :
    Calm (precv session p) fun result =>
      result.2.1.avrFd = session.avrFd :=
  (calm_communicationRecv _ _ p).bind fun _ _ => .pure rfl

/-- What follows a check of the descriptor decides. -/
theorem unhandled_connected
    {session : Session}
    {program : ClientProg (Int × Session)}
    (message : String)
    (unhandled : Unhandled session program) :
    Unhandled session
      (if session.avrFd < 0 then shError session 2 message
        else program) :=
  Calm.ite (unhandled_shError rfl 2 message) unhandled

/-- A command that only sends a packet. -/
theorem unhandled_command
    (session : Session)
    (type selector : UInt8)
    (data : Option Memory)
    (dataSize : UInt8)
    (message : String) :
    Unhandled session (do
      let sent ← psend session type selector data dataSize
      if sent.1 ≠ 0 then
        shError sent.2 3 message
      else
        return (0, sent.2)) := by
  refine (unhandled_psend session _ _ _ _).bind fun sent same => ?_
  exact
    Calm.ite (unhandled_shError same 3 message)
      (unhandled_return 0 same)

theorem unhandled_apply (session : Session) :
    Unhandled session (apply session) :=
  unhandled_connected _ (unhandled_command session _ _ _ _ _)

theorem unhandled_setSpeed
    (session : Session)
    (motorId : UInt8)
    (speed : DcRpm) :
    Unhandled session (setSpeed session motorId speed) := by
  refine unhandled_connected _ ?_
  exact
    Calm.ite (unhandled_shError rfl _ _)
      (unhandled_command session _ _ _ _ _)

theorem unhandled_setSlaveAddr
    (session : Session)
    (addrActual addrNew : UInt8) :
    Unhandled session (setSlaveAddr session addrActual addrNew) := by
  refine unhandled_connected _ ?_
  refine Calm.ite (unhandled_shError rfl _ _) ?_
  exact
    Calm.ite (unhandled_return 0 rfl)
      (unhandled_command session _ _ _ _ _)

/-- A command that sends a packet and looks at the response. -/
theorem unhandled_exchange
    (session : Session)
    (type selector : UInt8)
    (data : Option Memory)
    (dataSize : UInt8)
    (unsent unreceived : String)
    {finish : Int × Session × Memory → ClientProg (Int × Session)}
    (finishes :
      ∀ received,
        received.2.1.avrFd = session.avrFd →
        Unhandled session (finish received)) :
    Unhandled session (do
      let sent ← psend session type selector data dataSize
      if sent.1 ≠ 0 then
        shError sent.2 3 unsent
      else
        let packRx ← ask .uninitialised
        let received ← precv sent.2 packRx
        if received.1 ≠ 0 then
          shError received.2.1 3 unreceived
        else
          finish received) := by
  refine (unhandled_psend session _ _ _ _).bind fun sent same => ?_
  refine Calm.ite (unhandled_shError same 3 unsent) ?_
  refine Calm.uninitialised.bind fun packRx _ => ?_
  refine (calm_precv sent.2 packRx).bind fun received kept => ?_
  have throughout := kept.trans same
  exact
    Calm.ite (unhandled_shError throughout 3 unreceived)
      (finishes received throughout)

theorem unhandled_ping
    (session : Session)
    (slaveId : UInt32) :
    Unhandled session (ping session slaveId) := by
  refine unhandled_connected _ ?_
  refine Calm.ite (unhandled_shError rfl _ _) ?_
  refine unhandled_exchange session _ _ _ _ _ _ fun received same => ?_
  have noted :
      ∀ event code,
        Unhandled session (do
          record event
          return (code, received.2.1)) :=
    fun event _ => (Calm.record event).bind fun _ _ => .pure same
  exact Calm.ite (noted _ 0) (Calm.ite (noted _ 0) (noted _ 3))

theorem unhandled_getSpeed
    (session : Session)
    (motorId : UInt8) :
    Unhandled session (getSpeed session motorId) := by
  refine unhandled_connected _ ?_
  refine Calm.ite (unhandled_shError rfl _ _) ?_
  exact
    unhandled_exchange session _ _ _ _ _ _ fun _ same =>
      (Calm.record _).bind fun _ _ => .pure same

theorem unhandled_devEcho
    (session : Session)
    (args : List Word) :
    Unhandled session (devEcho session args) := by
  rw [devEcho]
  refine Calm.ite (unhandled_return 1 rfl) ?_
  refine Calm.uninitialised.bind fun str _ => unhandled_connected _ ?_
  refine Calm.ite (unhandled_shError rfl _ _) ?_
  refine unhandled_exchange session _ _ _ _ _ _ fun received same => ?_
  exact
    Calm.ite (unhandled_shError same _ _)
      ((Calm.record _).bind fun _ _ => .pure same)

/-! ## Their arguments -/

/-- `apply`, from the arguments on. -/
def applyArgs
    (session : Session)
    (args : List (List UInt8)) : ClientProg (Int × Session) :=
  match args with
  | [] => apply session
  | _ => return (1, session)

theorem unhandled_applyArgs
    (session : Session)
    (args : List (List UInt8)) :
    Unhandled session (applyArgs session args) := by
  cases args with
  | nil => exact unhandled_apply session
  | cons argument args => exact unhandled_return 1 rfl

theorem unhandled_getSpeedArgs
    (session : Session)
    (argument : List UInt8) :
    Unhandled session (getSpeedArgs session [argument]) :=
  unhandled_connected _
    (Calm.ite (unhandled_shError rfl _ _) (unhandled_getSpeed session _))

theorem unhandled_setSpeedArgs
    (session : Session)
    (argument : List UInt8) :
    Unhandled session (setSpeedArgs session [argument]) :=
  unhandled_connected _
    (Calm.ite (unhandled_shError rfl _ _) (unhandled_setSpeed session _ _))

theorem unhandled_setSlaveAddrArgs
    (session : Session)
    (first second : List UInt8) :
    Unhandled session (setSlaveAddrArgs session [first, second]) :=
  unhandled_connected _
    (Calm.ite (unhandled_shError rfl _ _)
      (unhandled_setSlaveAddr session _ _))

/-- No command that takes addresses handles a descriptor. -/
theorem unhandled_addressing
    (session : Session)
    (command : Addressing)
    (args : List (List UInt8)) :
    Unhandled session (command.exec session args) := by
  have usage :
      Unhandled session (return (1, session)) :=
    unhandled_return 1 rfl
  cases command with
  | ping =>
      rcases args with _ | ⟨argument, _ | ⟨other, args⟩⟩
      · exact usage
      · exact unhandled_ping session _
      · exact usage
  | getSpeed =>
      rcases args with _ | ⟨argument, _ | ⟨other, args⟩⟩
      · exact usage
      · exact unhandled_getSpeedArgs session argument
      · exact usage
  | setSpeed =>
      rcases args with _ | ⟨argument, _ | ⟨other, args⟩⟩
      · exact usage
      · exact unhandled_setSpeedArgs session argument
      · exact usage
  | setSlaveAddr =>
      rcases args with _ | ⟨first, _ | ⟨second, _ | ⟨third, args⟩⟩⟩
      · exact usage
      · exact usage
      · exact unhandled_setSlaveAddrArgs session first second
      · exact usage

end Ammc.Client
