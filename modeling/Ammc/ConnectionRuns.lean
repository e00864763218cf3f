import Ammc.ClientDescriptors

namespace Ammc.Client

open ByteMemory Serial Packet

/-!
# The stored descriptor over a run of commands

`connect` stores what `serial_open` returns before it tries the handshake.  A
run of the client is a list of invocations, each with the events that its
surroundings choose; the descriptors that `open` has returned and that are not
yet closed are read off these events.
-/

/-- `connect` with any path. -/
def connectPath
    (session : Session)
    (path : List UInt8) : ClientProg (Int × Session) := do
  if session.avrFd > 0 then
    record (.warned "Open serial context found; reconnecting\n")
    connectOver session
  else
    let fd ← serialOpen path
    let session := { session with avrFd := fd }
    if fd < 0 then
      shError session 2 "Unable to connect to device"
    else
      connectOver session

/-- A word of a command line is such a path. -/
theorem connectPath_text
    (session : Session)
    (device : Word) :
    connectPath session device.text = connect session device :=
  rfl

/-- `connect`, from the arguments on. -/
def connectArgs
    (session : Session)
    (args : List (List UInt8)) : ClientProg (Int × Session) :=
  match args with
  | [] => return (1, session)
  | path :: _ => connectPath session path

/-- `disconnect`, from the arguments on. -/
def disconnectArgs
    (session : Session)
    (args : List (List UInt8)) : ClientProg (Int × Session) :=
  match args with
  | [] => disconnect session
  | _ => return (1, session)

/--
What `_execute` may be told to do.  Neither a built-in command nor an unknown
name is given the storage.
-/
inductive ShellCall where
  | connect (args : List (List UInt8))
  | disconnect (args : List (List UInt8))
  | devEcho (args : List Word)
  | apply (args : List (List UInt8))
  | addressed (command : Addressing) (args : List (List UInt8))
  | other (code : Int)

/-- The program of a call. -/
def ShellCall.exec
    (session : Session) : ShellCall → ClientProg (Int × Session)
  | .connect args => connectArgs session args
  | .disconnect args => disconnectArgs session args
  | .devEcho args => Client.devEcho session args
  | .apply args => applyArgs session args
  | .addressed command args => command.exec session args
  | .other code => return (code, session)

/-! ## What `connect` and `disconnect` do -/

/-- What a failed or a successful handshake makes `connect` return. -/
def handshakeCode (outcome : Outcome) : Int :=
  if outcome.code ≠ 0 then 3 else 0

/-- The ways through `connect`. -/
inductive Connects
    (session : Session)
    (path : List UInt8) :
    List ClientEvent → Int × Session → Prop where
  | reconnected
      {handshake : List ClientEvent}
      {outcome : Outcome}
      (connected : 0 < session.avrFd)
      (answered :
        Runs (communicationConnect session.avrFd) handshake outcome) :
      Connects session path handshake
        (handshakeCode outcome, ⟨outcome.globalId, session.avrFd⟩)
  | pathless
      {handshake : List ClientEvent}
      {outcome : Outcome}
      (disconnected : session.avrFd ≤ 0)
      (empty : path = [])
      (answered : Runs (communicationConnect 1) handshake outcome) :
      Connects session path handshake
        (handshakeCode outcome, ⟨outcome.globalId, 1⟩)
  | refused
      {fd : Int}
      (disconnected : session.avrFd ≤ 0)
      (given : path ≠ [])
      (failed : fd < 0) :
      Connects session path [.asked (.openDevice path) fd]
        (2, ⟨session.globalId, -1⟩)
  | opened
      {fd : Int}
      {tty : Bool}
      {handshake : List ClientEvent}
      {outcome : Outcome}
      (disconnected : session.avrFd ≤ 0)
      (given : path ≠ [])
      (succeeded : 0 ≤ fd)
      (answered : Runs (communicationConnect fd) handshake outcome) :
      Connects session path
        (.asked (.openDevice path) fd :: checks fd tty ++ handshake)
        (handshakeCode outcome, ⟨outcome.globalId, fd⟩)

theorem runs_connectOver
    {session : Session}
    {events : List ClientEvent}
    {result : Int × Session}
    (run : Runs (connectOver session) events result) :
    ∃ outcome,
      Runs (communicationConnect session.avrFd) events outcome ∧
        result =
          (handshakeCode outcome, ⟨outcome.globalId, session.avrFd⟩) := by
  obtain ⟨handshake, _, outcome, rfl, answered, judging⟩ :=
    Prog.yields_bind.mp run
  refine ⟨outcome, ?_⟩
  by_cases failed : outcome.code ≠ 0
  · rw [if_pos failed] at judging
    obtain ⟨_, _, _, rfl, noted, rfl, rfl⟩ := Prog.yields_bind.mp judging
    cases Prog.yields_record.mp noted
    rw [handshakeCode, if_pos failed, List.append_nil, List.append_nil]
    exact ⟨answered, rfl⟩
  · rw [if_neg failed] at judging
    obtain ⟨rfl, rfl⟩ := judging
    rw [handshakeCode, if_neg failed, List.append_nil]
    exact ⟨answered, rfl⟩

/-- The flush at the end of `serial_open` asks for the kind of descriptor. -/
theorem runs_serialRxFlush
    {fd : Int}
    {events : List ClientEvent}
    {result : Unit}
    (run : Runs (serialRxFlush fd) events result) :
    ∃ tty, events = checks fd tty := by
  obtain ⟨_, _, tty, rfl, valid, flushing⟩ := Prog.yields_bind.mp run
  obtain ⟨rfl, _⟩ := runs_validDev.mp valid
  refine ⟨tty, ?_⟩
  cases tty with
  | false =>
      obtain ⟨rfl, _⟩ := flushing
      exact List.append_nil _
  | true =>
      cases Prog.yields_discard.mp flushing
      exact List.append_nil _

theorem runs_connectPath
    {session : Session}
    {path : List UInt8}
    {events : List ClientEvent}
    {result : Int × Session}
    (run : Runs (connectPath session path) events result) :
    Connects session path events result := by
  rw [connectPath] at run
  by_cases connected : session.avrFd > 0
  · rw [if_pos connected] at run
    obtain ⟨_, handshake, _, rfl, noted, reconnects⟩ := Prog.yields_bind.mp run
    cases Prog.yields_record.mp noted
    obtain ⟨outcome, answered, rfl⟩ := runs_connectOver reconnects
    exact .reconnected connected answered
  · rw [if_neg connected] at run
    have disconnected : session.avrFd ≤ 0 :=
      Int.not_lt.mp connected
    obtain ⟨_, rest, fd, rfl, opening, continuing⟩ :=
      Prog.yields_bind.mp run
    rw [serialOpen] at opening
    by_cases empty : path = []
    · rw [if_pos empty] at opening
      obtain ⟨rfl, rfl⟩ := opening
      obtain ⟨outcome, answered, rfl⟩ := runs_connectOver continuing
      exact .pathless disconnected empty answered
    · rw [if_neg empty] at opening
      obtain ⟨_, _, devFd, rfl, asked, flushing⟩ :=
        Prog.yields_bind.mp opening
      cases Prog.yields_query.mp asked
      by_cases failed : devFd < 0
      · rw [if_pos failed] at flushing
        obtain ⟨rfl, rfl⟩ := flushing
        obtain ⟨_, _, _, rfl, noted, rfl, rfl⟩ :=
          Prog.yields_bind.mp continuing
        cases Prog.yields_record.mp noted
        exact .refused disconnected empty failed
      · rw [if_neg failed] at flushing
        obtain ⟨_, _, _, rfl, flushed, rfl, rfl⟩ :=
          Prog.yields_bind.mp flushing
        obtain ⟨tty, rfl⟩ := runs_serialRxFlush flushed
        rw [if_neg failed] at continuing
        obtain ⟨outcome, answered, rfl⟩ := runs_connectOver continuing
        rw [List.append_nil]
        exact
          .opened disconnected empty (Int.not_lt.mp failed) answered

/-- `disconnect` forgets a descriptor, whether or not it could be closed. -/
theorem runs_disconnect
    {session : Session}
    {events : List ClientEvent}
    {result : Int × Session}
    (run : Runs (disconnect session) events result) :
    (session.avrFd < 0 ∧ events = [] ∧ result.2 = session) ∨
      (0 ≤ session.avrFd ∧ result.2.avrFd = -1) := by
  rw [disconnect] at run
  by_cases disconnected : session.avrFd < 0
  · rw [if_pos disconnected] at run
    obtain ⟨_, _, _, rfl, noted, rfl, rfl⟩ := Prog.yields_bind.mp run
    cases Prog.yields_record.mp noted
    exact Or.inl ⟨disconnected, rfl, rfl⟩
  · rw [if_neg disconnected] at run
    refine Or.inr ⟨Int.not_lt.mp disconnected, ?_⟩
    obtain ⟨_, _, ret, rfl, _, judging⟩ := Prog.yields_bind.mp run
    by_cases failed : ret ≠ 0
    · rw [if_pos failed] at judging
      obtain ⟨_, _, _, rfl, _, rfl, rfl⟩ := Prog.yields_bind.mp judging
      rfl
    · rw [if_neg failed] at judging
      obtain ⟨rfl, rfl⟩ := judging
      rfl

/-- Descriptor 0 never gets through a handshake. -/
theorem communicationConnect_zero
    {events : List ClientEvent}
    {outcome : Outcome}
    (run : Runs (communicationConnect 0) events outcome) :
    outcome.code ≠ 0 := by
  obtain ⟨_, _, sent, rfl, sending, rfl, rfl⟩ := Prog.yields_bind.mp run
  have failed : sent.code = 1 := by
    obtain ⟨_, _, p, rfl, _, crafting⟩ := Prog.yields_bind.mp sending
    dsimp only at crafting
    by_cases refused :
        (packetCraft p 0 ComType.hnd.code 0 none 0).1 ≠ 0
    · rw [if_pos refused] at crafting
      rw [crafting.2]
    · rw [if_neg refused, communicationSend, if_pos (Or.inl rfl)]
        at crafting
      rw [crafting.2]
  change (if sent.code ≠ 0 then 1 else 0) ≠ 0
  rw [if_pos (failed ▸ Int.one_ne_zero)]
  exact Int.one_ne_zero

/-! ## Runs -/

/-- One command, with what its surroundings chose. -/
structure Invocation where
  before : Session
  call : ShellCall
  events : List ClientEvent
  code : Int
  after : Session

namespace Invocation

/-- The invocation is a run of its command. -/
def Occurs (invocation : Invocation) : Prop :=
  Runs (invocation.call.exec invocation.before) invocation.events
    (invocation.code, invocation.after)

/-- It is a `connect`. -/
def IsConnect (invocation : Invocation) : Prop :=
  ∃ args, invocation.call = .connect args

/-- It is a `connect` of a client without a descriptor. -/
def Opens
    (invocation : Invocation)
    (path : List UInt8) : Prop :=
  ∃ rest, invocation.call = .connect (path :: rest) ∧
    invocation.before.avrFd ≤ 0

/-- A `connect` that fails leaves the stored descriptor as it was. -/
def KeepsDescriptor (invocation : Invocation) : Prop :=
  invocation.IsConnect →
    invocation.code ≠ 0 →
    invocation.after.avrFd = invocation.before.avrFd

end Invocation

/-- The events are a handshake that fails. -/
def HandshakeFails
    (fd : Int)
    (handshake : List ClientEvent) : Prop :=
  ∃ outcome,
    Runs (communicationConnect fd) handshake outcome ∧ outcome.code ≠ 0

/--
A `connect` of a client without a descriptor has a path, and a device that was
opened answers its handshake.
-/
def Invocation.Proper (invocation : Invocation) : Prop :=
  ∀ path,
    invocation.Opens path →
    path ≠ [] ∧
      ∀ fd tty handshake,
        invocation.events =
          .asked (.openDevice path) fd :: checks fd tty ++ handshake →
        0 ≤ (fd : Int) →
        ¬ HandshakeFails fd handshake

/-- What a client that starts without a descriptor can come to. -/
inductive Reaches : List Invocation → Session → Prop where
  | start (globalId : UInt8) : Reaches [] ⟨globalId, -1⟩
  | next
      {history : List Invocation}
      {invocation : Invocation}
      (reached : Reaches history invocation.before)
      (occurs : invocation.Occurs) :
      Reaches (history ++ [invocation]) invocation.after

/-- The descriptors that are open after some invocations. -/
def openAt (history : List Invocation) : List Int :=
  history.foldl
    (fun fds invocation => openAfter fds invocation.events) []

/-- A successful `connect` has stored the descriptor, and it is still there. -/
def ConnectedBy
    (history : List Invocation)
    (fd : Int) : Prop :=
  ∃ earlier invocation later,
    history = earlier ++ invocation :: later ∧
      invocation.IsConnect ∧
      invocation.code = 0 ∧
      ∀ other ∈ invocation :: later, other.after.avrFd = fd

/-- The stored descriptor is -1 or names the device of a successful `connect`. -/
structure Accurate
    (history : List Invocation)
    (session : Session) : Prop where
  descriptor :
    session.avrFd = -1 ∨
      (0 ≤ session.avrFd ∧ session.avrFd ∈ openAt history)
  connected : 0 ≤ session.avrFd → ConnectedBy history session.avrFd

/-- What proper invocations keep: descriptor 0 is never stored either. -/
def Held
    (history : List Invocation)
    (session : Session) : Prop :=
  session.avrFd = -1 ∨
    (0 < session.avrFd ∧ session.avrFd ∈ openAt history ∧
      ConnectedBy history session.avrFd)

theorem Held.accurate
    {history : List Invocation}
    {session : Session}
    (held : Held history session) :
    Accurate history session := by
  rcases held with missing | ⟨positive, opened, connected⟩
  · refine ⟨Or.inl missing, fun present => ?_⟩
    rw [missing] at present
    exact absurd present (by decide)
  · exact
      ⟨Or.inr ⟨Int.le_of_lt positive, opened⟩, fun _ => connected⟩

@[simp] theorem openAt_append
    (history : List Invocation)
    (invocation : Invocation) :
    openAt (history ++ [invocation]) =
      openAfter (openAt history) invocation.events := by
  rw [openAt, List.foldl_append]
  rfl

/-- An invocation that leaves the descriptor alone continues the connection. -/
theorem ConnectedBy.next
    {history : List Invocation}
    {invocation : Invocation}
    (connected : ConnectedBy history invocation.before.avrFd)
    (same : invocation.after.avrFd = invocation.before.avrFd) :
    ConnectedBy (history ++ [invocation]) invocation.after.avrFd := by
  obtain ⟨earlier, connect, later, rfl, isConnect, succeeded, kept⟩ :=
    connected
  refine
    ⟨earlier, connect, later ++ [invocation], ?_, isConnect, succeeded, ?_⟩
  · rw [List.append_assoc, List.cons_append]
  · intro other member
    rw [← List.cons_append, List.mem_append, List.mem_singleton] at member
    rw [same]
    rcases member with early | rfl
    · exact kept other early
    · exact same

/-- A quiet invocation that leaves the descriptor alone changes nothing. -/
theorem Held.unchanged
    {history : List Invocation}
    {invocation : Invocation}
    (held : Held history invocation.before)
    (quiet : Quiet invocation.events)
    (same : invocation.after.avrFd = invocation.before.avrFd) :
    Held (history ++ [invocation]) invocation.after := by
  rcases held with missing | ⟨positive, opened, connected⟩
  · exact Or.inl (same.trans missing)
  · right
    refine ⟨same ▸ positive, ?_, connected.next same⟩
    rw [openAt_append, quiet, same]
    exact opened

/-- An invocation of a command that handles no descriptor changes nothing. -/
theorem Held.unhandled
    {history : List Invocation}
    {invocation : Invocation}
    (held : Held history invocation.before)
    (occurs : invocation.Occurs)
    (unhandled :
      Unhandled invocation.before
        (invocation.call.exec invocation.before)) :
    Held (history ++ [invocation]) invocation.after := by
  obtain ⟨quiet, same⟩ := unhandled _ _ occurs
  exact held.unchanged quiet same

/-- A proper `connect` keeps what is held. -/
theorem held_connect
    {history : List Invocation}
    {invocation : Invocation}
    {path : List UInt8}
    {rest : List (List UInt8)}
    (held : Held history invocation.before)
    (call : invocation.call = .connect (path :: rest))
    (connects :
      Connects invocation.before path invocation.events
        (invocation.code, invocation.after))
    (proper : invocation.Proper) :
    Held (history ++ [invocation]) invocation.after ∧
      (invocation.code ≠ 0 →
        invocation.after.avrFd = invocation.before.avrFd) := by
  obtain ⟨before, _, events, code, after⟩ := invocation
  change Connects before path events (code, after) at connects
  cases connects with
  | reconnected connected answered =>
      have quiet := (calm_communicationConnect _ _ _ answered).1
      exact ⟨held.unchanged quiet rfl, fun _ => rfl⟩
  | pathless disconnected empty answered =>
      exact absurd empty (proper path ⟨rest, call, disconnected⟩).1
  | refused disconnected given failed =>
      refine ⟨Or.inl rfl, fun _ => ?_⟩
      rcases held with missing | ⟨positive, _⟩
      · exact missing.symm
      · exact absurd positive (Int.not_lt.mpr disconnected)
  | @opened fd tty handshake outcome disconnected given succeeded answered =>
      have success : outcome.code = 0 := by
        by_contra failed
        exact
          (proper path ⟨rest, call, disconnected⟩).2 fd tty handshake rfl
            succeeded ⟨outcome, answered, failed⟩
      have code : handshakeCode outcome = 0 :=
        if_neg (not_not.mpr success)
      have positive : 0 < fd := by
        rcases Int.lt_or_eq_of_le succeeded with positive | rfl
        · exact positive
        · exact absurd success (communicationConnect_zero answered)
      refine ⟨Or.inr ⟨positive, ?_, ?_⟩, fun failed => ?_⟩
      · have quiet := (calm_communicationConnect _ _ _ answered).1
        have asked : Quiet (checks fd tty) := by
          rw [checks]
          by_cases above : fd > 2
          · rw [if_pos above]
            exact fun _ => rfl
          · rw [if_neg above]
            exact quiet_nil
        have opened :
            openAfter (openAt history) [.asked (.openDevice path) fd] =
              fd :: openAt history :=
          if_pos succeeded
        rw [openAt_append]
        change fd ∈
          openAfter (openAt history)
            ([.asked (.openDevice path) fd] ++
              (checks fd tty ++ handshake))
        rw [openAfter_append, opened, quiet_append asked quiet]
        exact List.mem_cons_self
      · refine
          ⟨history, _, [], rfl, ⟨_, call⟩, code, fun other member => ?_⟩
        rw [List.mem_singleton.mp member]
      · exact absurd code failed

/-- One more proper invocation keeps what is held. -/
theorem held_next
    {history : List Invocation}
    {invocation : Invocation}
    (held : Held history invocation.before)
    (occurs : invocation.Occurs)
    (proper : invocation.Proper) :
    Held (history ++ [invocation]) invocation.after ∧
      invocation.KeepsDescriptor := by
  obtain ⟨before, call, events, code, after⟩ := invocation
  cases call with
  | connect args =>
      cases args with
      | nil =>
          have same := @unhandled_return before before 1 rfl
          refine ⟨held.unhandled occurs same, fun _ _ => ?_⟩
          exact (same _ _ occurs).2
      | cons path rest =>
          obtain ⟨kept, unchanged⟩ :=
            held_connect held rfl (runs_connectPath occurs) proper
          exact ⟨kept, fun _ => unchanged⟩
  | disconnect args =>
      refine ⟨?_, ?_⟩
      · cases args with
        | nil =>
            rcases runs_disconnect occurs with
              ⟨_, rfl, same⟩ | ⟨_, forgotten⟩
            · exact held.unchanged quiet_nil (congrArg Session.avrFd same)
            · exact Or.inl forgotten
        | cons argument args =>
            exact held.unhandled occurs (unhandled_return 1 rfl)
      · rintro ⟨_, ⟨⟩⟩
  | devEcho args =>
      refine ⟨held.unhandled occurs (unhandled_devEcho before args), ?_⟩
      rintro ⟨_, ⟨⟩⟩
  | apply args =>
      refine ⟨held.unhandled occurs (unhandled_applyArgs before args), ?_⟩
      rintro ⟨_, ⟨⟩⟩
  | addressed command args =>
      refine
        ⟨held.unhandled occurs (unhandled_addressing before command args),
          ?_⟩
      rintro ⟨_, ⟨⟩⟩
  | other code =>
      refine ⟨held.unhandled occurs (unhandled_return code rfl), ?_⟩
      rintro ⟨_, ⟨⟩⟩

/--
As long as every invocation is proper, the stored descriptor is -1 or names the
device of a successful `connect`, and no failed `connect` changes it.
-/
theorem connection_accurate
    {history : List Invocation}
    {session : Session}
    (reached : Reaches history session)
    (proper : ∀ invocation ∈ history, invocation.Proper) :
    Accurate history session ∧
      ∀ invocation ∈ history, invocation.KeepsDescriptor := by
  have throughout :
      Held history session ∧
        ∀ invocation ∈ history, invocation.KeepsDescriptor := by
    induction reached with
    | start globalId =>
        exact ⟨Or.inl rfl, fun _ member => absurd member List.not_mem_nil⟩
    | @next history invocation _ occurs inductionHypothesis =>
        obtain ⟨held, kept⟩ :=
          inductionHypothesis fun other member =>
            proper other (List.mem_append_left _ member)
        obtain ⟨heldNext, keptNext⟩ :=
          held_next held occurs
            (proper invocation
              (List.mem_append_right _ (List.mem_singleton_self _)))
        refine ⟨heldNext, fun other member => ?_⟩
        rcases List.mem_append.mp member with early | last
        · exact kept other early
        · rw [List.mem_singleton.mp last]
          exact keptNext
  exact ⟨throughout.1.accurate, throughout.2⟩

/-- A `connect` that succeeds with a path is proper. -/
theorem proper_of_success
    {invocation : Invocation}
    {path : List UInt8}
    {rest : List (List UInt8)}
    (call : invocation.call = .connect (path :: rest))
    (given : path ≠ [])
    (succeeded : invocation.code = 0)
    (occurs : invocation.Occurs) :
    invocation.Proper := by
  obtain ⟨before, _, events, code, after⟩ := invocation
  cases call
  rintro _ ⟨_, ⟨⟩, disconnected⟩
  refine ⟨given, ?_⟩
  intro fd tty handshake chosen nonnegative
  rintro ⟨outcome, answered, failed⟩
  change events = _ at chosen
  change code = 0 at succeeded
  have connects : Connects before path events (code, after) :=
    runs_connectPath occurs
  cases connects with
  | reconnected connected _ =>
      exact absurd connected (Int.not_lt.mpr disconnected)
  | pathless _ empty _ => exact given empty
  | refused _ _ refusal =>
      rw [List.cons_append] at chosen
      cases (List.cons.inj chosen).1
      exact absurd nonnegative (Int.not_le.mpr refusal)
  | @opened _ askedTty others otherOutcome _ _ _ answeredAgain =>
      rw [List.cons_append, List.cons_append] at chosen
      obtain ⟨same, behind⟩ := List.cons.inj chosen
      cases same
      have equal : others = handshake := by
        rw [checks, checks] at behind
        by_cases above : fd > 2
        · rw [if_pos above, if_pos above] at behind
          exact (List.cons.inj behind).2
        · rw [if_neg above, if_neg above] at behind
          exact behind
      rw [equal] at answeredAgain
      have unique := runs_unique answered answeredAgain
      rw [unique] at failed
      rw [handshakeCode, if_pos failed] at succeeded
      cases succeeded

/-- The path `/dev`. -/
def devicePath : List UInt8 :=
  [47, 100, 101, 118]

/-- The session of a client that was just started. -/
def freshSession : Session where
  globalId := 0
  avrFd := -1

/-- What `connect` comes to with a device that answers with these bytes. -/
theorem reaches_connected
    (reply : List UInt8)
    {code : Int}
    {after : Session}
    (returned :
      (exec (deviceWorld (fun _ => 0) reply)
        (connectArgs freshSession [devicePath])
        (Port.start [] ())).1 = some (code, after))
    (narrow :
      ∀ request ∈
        (exec (deviceWorld (fun _ => 0) reply)
          (connectArgs freshSession [devicePath])
          (Port.start [] ())).2.requests,
        request.2 < unsignedModulus) :
    ∃ invocation : Invocation,
      Reaches [invocation] after ∧ invocation.Occurs ∧
        invocation.before = freshSession ∧
        invocation.call = .connect [devicePath] ∧
        invocation.code = code ∧
        invocation.after = after := by
  obtain ⟨events, run⟩ :=
    exec_runs _ (Prod.ext returned rfl) narrow
  have occurs :
      Invocation.Occurs
        ⟨freshSession, .connect [devicePath], events, code, after⟩ :=
    run
  exact ⟨_, .next (.start 0) occurs, occurs, rfl, rfl, rfl, rfl⟩

/-- The device answers the handshake. -/
theorem acknowledged_accurate :
    ∃ history session,
      session.avrFd = 3 ∧ Reaches history session ∧
        Accurate history session := by
  obtain ⟨invocation, reached, occurs, _, call, succeeded, _⟩ :=
    @reaches_connected (packetImage 0 ComType.ack.code 0 []) 0 ⟨1, 3⟩
      (by decide +kernel) (by decide +kernel)
  have proper : ∀ other ∈ [invocation], other.Proper := by
    intro other member
    rw [List.mem_singleton.mp member]
    exact
      proper_of_success call (List.cons_ne_nil _ _) succeeded occurs
  exact
    ⟨[invocation], ⟨1, 3⟩, rfl, reached,
      (connection_accurate reached proper).1⟩

/-- The device refuses the handshake, and its descriptor stays stored. -/
theorem refused_stored :
    ∃ invocation : Invocation,
      Reaches [invocation] ⟨0, 3⟩ ∧
        invocation.IsConnect ∧
        invocation.before.avrFd = -1 ∧
        invocation.code = 3 ∧
        invocation.after.avrFd = 3 ∧
        ¬ ConnectedBy [invocation] 3 := by
  obtain ⟨invocation, reached, _, before, call, failed, after⟩ :=
    @reaches_connected (packetImage 0 ComType.nak.code 0 []) 3 ⟨0, 3⟩
      (by decide +kernel) (by decide +kernel)
  refine
    ⟨invocation, reached, ⟨_, call⟩, congrArg Session.avrFd before, failed,
      congrArg Session.avrFd after, ?_⟩
  rintro ⟨earlier, connect, later, split, _, succeeded, _⟩
  have member : connect ∈ [invocation] := by
    rw [split]
    exact List.mem_append_right _ List.mem_cons_self
  rw [List.mem_singleton.mp member, failed] at succeeded
  cases succeeded

end Ammc.Client
