import Ammc.MasterFollows
import Ammc.SoundSession

namespace Ammc.Exchange

open ByteMemory Serial Packet

/-!
# Interleavings that throw away every late reply

As long as nothing is outstanding when the client begins to send a packet, an
interleaving comes to what a drained exchange comes to.  The drained exchange
has the bytes that are still to reach the client delivered already.
-/

section Steps

variable {ε : Type}
variable {bus : Master.Bus ε}
variable {computer : Computer}

/-- The drained exchange that an interleaving comes to. -/
structure Mirrors
    (bus : Master.Bus ε)
    (computer : Computer)
    (connection : Connection ε)
    (port : Port Client.signature (Station ε)) : Prop where
  log : port.log = connection.client.port.log
  read : port.read = connection.client.port.read
  written : port.written = connection.client.port.written
  packets : port.env.arrived = connection.client.port.env
  input :
    ∃ pending,
      port.input =
          connection.client.port.input ++ (connection.down ++ pending) ∧
        ComesTo bus connection.master connection.up port.env pending
  sound : Sound bus computer.host connection.client.program port

/-- What holds of client, master and line by themselves. -/
structure Steady
    (computer : Computer)
    (connection : Connection ε) : Prop where
  guards : Guards computer connection.client.program
  atWork : AtWork connection.master.program
  counted :
    connection.client.port.read + connection.client.port.input.length +
        connection.down.length =
      connection.master.port.written
  dated :
    ∀ entry ∈ connection.client.port.log,
      entry.read ≤ connection.client.port.read

/-- What is sound stays so from call to call. -/
theorem Sound.calls
    {host : Host ε}
    {before after : Process Client.signature α (Station ε)}
    (sound : Sound bus host before.program before.port)
    (calls : Process.Calls (drainedWorld bus .clear host) before after) :
    Sound bus host after.program after.port where
  responsive := sound.responsive.calls calls
  faultless := by
    rw [← calls.exec_eq]
    exact sound.faultless

/-- A flush in the middle of a drained exchange. -/
theorem Sound.flush
    {host : Host ε}
    {next : Client.ClientProg α}
    {port : Port Client.signature (Station ε)}
    (sound : Sound bus host (.flush next) port) :
    Sound bus host next port.flushed := by
  have calls :
      Process.Calls (drainedWorld bus .clear host) ⟨.flush next, port⟩
        ⟨next, port.flushed⟩ :=
    .flush rfl
  exact sound.calls calls

/-- Bytes outstanding at the first of two flushes are left to the second. -/
theorem Sound.discarded
    {next : Client.ClientProg α}
    {port : Port Client.signature (Station ε)}
    (sound : Sound bus computer.host (.flush next) port)
    (ahead : next.FlushAhead computer.guard)
    {count : Nat}
    (enough : count ≤ port.input.length) :
    Sound bus computer.host next (port.discarded count) := by
  obtain ⟨same, responds⟩ :=
    ahead.discarded (computer.host_heeds bus) rfl enough
  have flushed := sound.flush
  refine ⟨responds.mpr flushed.responsive, ?_⟩
  rw [same]
  exact flushed.faultless

/-- The flush before a transmission. -/
theorem flushesToSend_of_begins
    {next : Client.ClientProg α}
    (begins : next.Begins computer.guard) :
    Connection.flushesToSend (.flush next) = true := by
  cases next with
  | note event rest =>
      cases begins
      rfl
  | done value => exact begins.elim
  | rx offset count rest => exact begins.elim
  | tx bytes rest => exact begins.elim
  | poll rest => exact begins.elim
  | flush rest => exact begins.elim
  | ask query rest => exact begins.elim

section Counterparts

variable {near : Port Client.signature Nat}
variable {up down : List UInt8}
variable {master : Master.Machine ε}
variable {port : Port Client.signature (Station ε)}

/-- A read finds the same bytes in the drained exchange. -/
theorem Mirrors.receive
    {offset count : Nat}
    {next : List UInt8 → Client.ClientProg Client.Session}
    (mirrors :
      Mirrors bus computer
        ⟨⟨.rx offset count next, near⟩, up, down, master⟩ port)
    (enough : count ≤ near.input.length) :
    Mirrors bus computer
      ⟨⟨next (near.input.take count), near.received offset count⟩,
        up ++ [], down, master⟩
      (port.received offset count) := by
  obtain ⟨log, read, written, packets, ⟨pending, input, comesTo⟩, sound⟩ :=
    mirrors
  dsimp only at input
  have longer : count ≤ port.input.length := by
    rw [input, List.length_append]
    exact Nat.le_add_right_of_le enough
  have taken : port.input.take count = near.input.take count := by
    rw [input, List.take_append_of_le_length enough]
  have counterpart :
      Process.Calls (drainedWorld bus .clear computer.host)
        ⟨.rx offset count next, port⟩
        ⟨next (port.input.take count), port.received offset count⟩ :=
    .rx longer
  have stillSound := sound.calls counterpart
  rw [taken] at stillSound
  refine ⟨log, congrArg (· + count) read, written, packets,
    ⟨pending, ?_, comesTo.unsent⟩, stillSound⟩
  change port.input.drop count = _
  rw [input, List.drop_append_of_le_length enough]
  rfl

/-- A packet that sets out is served at once in the drained exchange. -/
theorem Mirrors.transmit
    {bytes : List UInt8}
    {next : Client.ClientProg Client.Session}
    (mirrors :
      Mirrors bus computer
        ⟨⟨.tx bytes next, near⟩, up, down, master⟩ port) :
    ∃ back later,
      Mirrors bus computer
        ⟨⟨next, near.transmitted bytes [] (near.env + 1)⟩, up ++ bytes,
          down, master⟩
        (port.transmitted bytes back later) := by
  obtain ⟨log, read, written, packets, ⟨pending, input, comesTo⟩, sound⟩ :=
    mirrors
  obtain ⟨back, later, served, _⟩ := sound.responsive
  obtain ⟨_, _, _, arrived⟩ := steps_of_serve served
  have counterpart :
      Process.Calls (drainedWorld bus .clear computer.host)
        ⟨.tx bytes next, port⟩
        ⟨next, port.transmitted bytes back later⟩ :=
    .tx served
  refine ⟨back, later, log, read, congrArg (· + bytes.length) written,
    arrived.trans (congrArg (· + 1) packets),
    ⟨pending ++ back, ?_, comesTo.serve served⟩, sound.calls counterpart⟩
  change port.input ++ back = near.input ++ [] ++ _
  rw [input]
  simp only [List.append_assoc, List.append_nil]

/-- Before a transmission, the flush leaves nothing outstanding. -/
theorem Mirrors.sound_flushed
    {next : Client.ClientProg Client.Session}
    (mirrors :
      Mirrors bus computer
        ⟨⟨.flush next, near⟩, up, down, master⟩ port)
    (answered :
      Connection.Answered bus ⟨⟨.flush next, near⟩, up, down, master⟩) :
    Sound bus computer.host next (port.discarded near.input.length) := by
  obtain ⟨_, _, _, _, ⟨pending, input, comesTo⟩, sound⟩ := mirrors
  have nothing : pending = [] := comesTo.silent answered
  have noneUnderWay : down = [] := answered.down
  dsimp only at input
  rw [nothing, noneUnderWay, List.append_nil, List.append_nil] at input
  have whole : port.discarded near.input.length = port.flushed := by
    rw [← input, Port.discarded, List.drop_length]
    rfl
  rw [whole]
  exact sound.flush

/-- A flush throws the same bytes away in the drained exchange. -/
theorem Mirrors.flush
    {next : Client.ClientProg Client.Session}
    (mirrors :
      Mirrors bus computer
        ⟨⟨.flush next, near⟩, up, down, master⟩ port)
    (guards : Guards computer (.flush next))
    (orderly :
      Connection.flushesToSend (.flush next) = true →
        Connection.Answered bus
          ⟨⟨.flush next, near⟩, up, down, master⟩) :
    Mirrors bus computer
      ⟨⟨next, near.flushed⟩, up ++ [], down, master⟩
      (port.discarded near.input.length) := by
  obtain ⟨pending, input, comesTo⟩ := mirrors.input
  dsimp only at input
  have enough : near.input.length ≤ port.input.length := by
    rw [input, List.length_append]
    exact Nat.le_add_right _ _
  have stillSound :
      Sound bus computer.host next
        (port.discarded near.input.length) := by
    rcases guards.1 with begins | ahead
    · exact mirrors.sound_flushed
        (orderly (flushesToSend_of_begins begins))
    · exact mirrors.sound.discarded ahead enough
  refine ⟨mirrors.log, congrArg (· + near.input.length) mirrors.read,
    mirrors.written, mirrors.packets, ⟨pending, ?_, comesTo.unsent⟩,
    stillSound⟩
  change port.input.drop near.input.length = _
  rw [input, List.drop_left]
  rfl

/-- A query is answered alike in the drained exchange. -/
theorem Mirrors.ask
    {query : Client.Query}
    {next : query.Answer → Client.ClientProg Client.Session}
    (mirrors :
      Mirrors bus computer
        ⟨⟨.ask query next, near⟩, up, down, master⟩ port) :
    Mirrors bus computer
      ⟨⟨next (computer.world.answer query near.env).1,
          near.withEnv (computer.world.answer query near.env).2⟩,
        up ++ [], down, master⟩
      port := by
  obtain ⟨log, read, written, packets, ⟨pending, input, comesTo⟩, sound⟩ :=
    mirrors
  have counterpart :
      Process.Calls (drainedWorld bus .clear computer.host)
        ⟨.ask query next, port⟩
        ⟨next
            ((drainedWorld bus .clear computer.host).answer query
              port.env).1,
          port.withEnv
            ((drainedWorld bus .clear computer.host).answer query
              port.env).2⟩ :=
    .ask
  have stillSound := sound.calls counterpart
  cases query with
  | isatty fd =>
      exact ⟨log, read, written, packets,
        ⟨pending, input, comesTo.unsent⟩, stillSound⟩
  | openDevice path =>
      exact ⟨log, read, written, packets,
        ⟨pending, input, comesTo.unsent⟩, stillSound⟩
  | close fd =>
      exact ⟨log, read, written, packets,
        ⟨pending, input, comesTo.unsent⟩, stillSound⟩
  | uninitialised =>
      refine ⟨log, read, written, packets,
        ⟨pending, input, comesTo.unsent⟩, ?_⟩
      change
        Sound bus computer.host
          (next (computer.uninitialised near.env)) port
      rw [← packets]
      exact stillSound

/-- A note is left at the same place in the drained exchange. -/
theorem Mirrors.note
    {event : Client.Note}
    {next : Client.ClientProg Client.Session}
    (mirrors :
      Mirrors bus computer
        ⟨⟨.note event next, near⟩, up, down, master⟩ port) :
    Mirrors bus computer
      ⟨⟨next, near.noted event⟩, up ++ [], down, master⟩
      (port.noted event) := by
  obtain ⟨log, read, written, packets, ⟨pending, input, comesTo⟩, sound⟩ :=
    mirrors
  have counterpart :
      Process.Calls (drainedWorld bus .clear computer.host)
        ⟨.note event next, port⟩ ⟨next, port.noted event⟩ :=
    .note
  refine ⟨?_, read, written, packets,
    ⟨pending, input, comesTo.unsent⟩, sound.calls counterpart⟩
  change port.log ++ [⟨event, port.read, port.written⟩] = _
  rw [log, read, written]
  rfl

end Counterparts

/-- A call of the client has its counterpart in the drained exchange. -/
theorem Mirrors.client
    {connection : Connection ε}
    {port : Port Client.signature (Station ε)}
    (mirrors : Mirrors bus computer connection port)
    (guards : Guards computer connection.client.program)
    (orderly :
      Connection.flushesToSend connection.client.program = true →
        connection.Answered bus)
    {after : Process Client.signature Client.Session Nat}
    (calls : Process.Calls computer.world connection.client after) :
    ∃ later,
      Mirrors bus computer
        { connection with
          client := after
          up := connection.up ++ connection.client.program.output }
        later := by
  obtain ⟨client, up, down, master⟩ := connection
  cases calls with
  | rx enough => exact ⟨_, mirrors.receive enough⟩
  | tx reaction =>
      cases reaction
      obtain ⟨back, later, served⟩ := mirrors.transmit
      exact ⟨_, served⟩
  | poll => exact guards.elim
  | flush flushable => exact ⟨_, mirrors.flush guards orderly⟩
  | ask => exact ⟨_, mirrors.ask⟩
  | note => exact ⟨_, mirrors.note⟩

/-- A step of the master brings it nearer to the drained exchange. -/
theorem Mirrors.master
    {connection : Connection ε}
    {port : Port Client.signature (Station ε)}
    (mirrors : Mirrors bus computer connection port)
    (atWork : AtWork connection.master.program)
    {after : Master.Machine ε}
    (stepped :
      connection.master.step bus.world Master.Turn.resume = some after) :
    Mirrors bus computer
      { connection with
        master := after
        down := connection.down ++ connection.master.program.output }
      port where
  log := mirrors.log
  read := mirrors.read
  written := mirrors.written
  packets := mirrors.packets
  input := by
    obtain ⟨pending, input, comesTo⟩ := mirrors.input
    obtain ⟨left, sent, nearer⟩ := comesTo.step atWork stepped
    refine ⟨left, ?_, nearer⟩
    rw [input, sent, List.append_assoc]
  sound := mirrors.sound

/-- A byte that reaches the master changes nothing in the drained exchange. -/
theorem Mirrors.deliverUp
    {connection : Connection ε}
    {port : Port Client.signature (Station ε)}
    (mirrors : Mirrors bus computer connection port)
    {byte : UInt8}
    {rest : List UInt8}
    (underWay : connection.up = byte :: rest) :
    Mirrors bus computer
      { connection with
        up := rest
        master := reached connection.master byte }
      port where
  log := mirrors.log
  read := mirrors.read
  written := mirrors.written
  packets := mirrors.packets
  input := by
    obtain ⟨pending, input, comesTo⟩ := mirrors.input
    rw [underWay] at comesTo
    exact ⟨pending, input, comesTo.reached⟩
  sound := mirrors.sound

/-- The drained exchange has delivered the byte that reaches the client. -/
theorem Mirrors.deliverDown
    {connection : Connection ε}
    {port : Port Client.signature (Station ε)}
    (mirrors : Mirrors bus computer connection port)
    {byte : UInt8}
    {rest : List UInt8}
    (underWay : connection.down = byte :: rest) :
    Mirrors bus computer
      { connection with
        down := rest
        client := reached connection.client byte }
      port where
  log := mirrors.log
  read := mirrors.read
  written := mirrors.written
  packets := mirrors.packets
  input := by
    obtain ⟨pending, input, comesTo⟩ := mirrors.input
    refine ⟨pending, ?_, comesTo⟩
    rw [input, underWay]
    simp only [reached, List.append_assoc, List.cons_append,
      List.nil_append]
  sound := mirrors.sound

theorem Steady.client
    {connection : Connection ε}
    (steady : Steady computer connection)
    {after : Process Client.signature Client.Session Nat}
    (calls : Process.Calls computer.world connection.client after) :
    Steady computer
      { connection with
        client := after
        up := connection.up ++ connection.client.program.output } where
  guards := steady.guards.calls computer.heeds calls
  atWork := steady.atWork
  counted := by
    rw [← steady.counted, ← calls.read_add_input]
    intro bytes packets back later reaction
    cases reaction
    rfl
  dated entry member := by
    have extended := calls.port_extends
    obtain ⟨added, log, dated⟩ := extended.log
    rw [log] at member
    rcases List.mem_append.mp member with earlier | now
    · exact Nat.le_trans (steady.dated entry earlier) extended.read
    · exact (dated entry now).2

theorem Steady.master
    {connection : Connection ε}
    (steady : Steady computer connection)
    {after : Master.Machine ε}
    (stepped :
      connection.master.step bus.world Master.Turn.resume = some after) :
    Steady computer
      { connection with
        master := after
        down := connection.down ++ connection.master.program.output } where
  guards := steady.guards
  atWork := steady.atWork.step stepped
  counted := by
    rw [Process.step_written stepped, ← steady.counted,
      List.length_append, ← Nat.add_assoc]
  dated := steady.dated

/-- The master is at work whatever happens. -/
theorem AtWork.next
    {connection : Connection ε}
    (atWork : AtWork connection.master.program)
    (action : Action) :
    AtWork (connection.next bus computer action).master.program := by
  cases action with
  | client =>
      rw [Connection.next]
      split
      · exact atWork
      · exact atWork
  | master =>
      rw [Connection.next]
      rcases stepped :
          connection.master.step bus.world Master.Turn.resume with
        _ | after
      · exact atWork
      · exact atWork.step stepped
  | deliverUp =>
      rw [Connection.next]
      split
      · exact atWork
      · exact atWork
  | deliverDown =>
      rw [Connection.next]
      split
      · exact atWork
      · exact atWork

/-- The interleaving comes to a drained exchange. -/
structure Follows
    (bus : Master.Bus ε)
    (computer : Computer)
    (connection : Connection ε) : Prop where
  steady : Steady computer connection
  mirrors : ∃ port, Mirrors bus computer connection port

/-- Every action of an orderly schedule keeps to the drained exchange. -/
theorem Follows.next
    {connection : Connection ε}
    (follows : Follows bus computer connection)
    (action : Action)
    (orderly :
      action = .client →
        Connection.flushesToSend connection.client.program = true →
          connection.Answered bus) :
    Follows bus computer (connection.next bus computer action) := by
  obtain ⟨steady, port, mirrors⟩ := follows
  cases action with
  | client =>
      rw [Connection.next]
      rcases advanced : connection.client.advance computer.world with
        _ | after
      · exact ⟨steady, port, mirrors⟩
      · have calls := Process.calls_of_advance advanced
        exact ⟨steady.client calls,
          mirrors.client steady.guards (orderly rfl) calls⟩
  | master =>
      rw [Connection.next]
      rcases stepped :
          connection.master.step bus.world Master.Turn.resume with
        _ | after
      · exact ⟨steady, port, mirrors⟩
      · exact ⟨steady.master stepped, port,
          mirrors.master steady.atWork stepped⟩
  | deliverUp =>
      rw [Connection.next]
      rcases underWay : connection.up with _ | ⟨byte, rest⟩
      · exact ⟨steady, port, mirrors⟩
      · exact ⟨⟨steady.guards, steady.atWork, steady.counted, steady.dated⟩,
          port, mirrors.deliverUp underWay⟩
  | deliverDown =>
      rw [Connection.next]
      rcases underWay : connection.down with _ | ⟨byte, rest⟩
      · exact ⟨steady, port, mirrors⟩
      · refine ⟨⟨steady.guards, steady.atWork, ?_, steady.dated⟩, port,
          mirrors.deliverDown underWay⟩
        have counted := steady.counted
        rw [underWay, List.length_cons] at counted
        simp only [reached, List.length_append, List.length_singleton]
        omega

/-- An orderly schedule keeps to the drained exchange. -/
theorem Follows.run
    {connection : Connection ε}
    (follows : Follows bus computer connection)
    {schedule : List Action}
    (orderly : connection.Orderly bus computer schedule) :
    Follows bus computer (connection.run bus computer schedule) := by
  induction schedule generalizing connection with
  | nil => exact follows
  | cons action schedule inductionHypothesis =>
      exact inductionHypothesis (follows.next action orderly.1) orderly.2

/-- A drained exchange only adds to what the master has noted. -/
theorem station_extends
    (host : Host ε)
    (program : Client.ClientProg α)
    (port : Port Client.signature (Station ε)) :
    port.env.port.Extends
      (exec (drainedWorld bus .clear host) program port).2.env.port := by
  refine exec_env
    (fun first second => first.port.Extends second.port)
    (fun _ => .refl _) (fun earlier later => earlier.trans later)
    ?_ ?_ program port
  · intro query station
    cases query with
    | isatty fd => exact .refl _
    | openDevice path => exact .refl _
    | close fd => exact .refl _
    | uninitialised => exact .refl _
  · intro bytes station back later served
    have extended := Process.steps_extends (steps_of_serve served).1
    exact ⟨extended.read, extended.written, extended.log⟩

/-- The master has noted the acceptance of every packet whose send is over. -/
theorem Follows.accepted
    {connection : Connection ε}
    (follows : Follows bus computer connection)
    {send : Send}
    (completed : send ∈ completedSends connection.client.port.log) :
    send.code = 0 ∧
      Accepted connection.master.port.log send.written send.read := by
  obtain ⟨steady, port, mirrors⟩ := follows
  obtain ⟨pending, input, comesTo⟩ := mirrors.input
  obtain ⟨added, longer⟩ :=
    exec_log (drainedWorld bus .clear computer.host)
      connection.client.program port
  have known :
      send ∈ completedSends
        (exec (drainedWorld bus .clear computer.host)
          connection.client.program port).2.log := by
    rw [longer, mirrors.log]
    exact (completedSends_append _ added).subset completed
  obtain ⟨code, replied, accepted⟩ :=
    mirrors.sound.faultless.sends send known
  refine ⟨code, ?_⟩
  obtain ⟨entry, noted, stop⟩ :=
    exists_stop_of_mem_completedSends completed
  have readBy := steady.dated entry noted
  have counted := steady.counted
  obtain ⟨later, extended, dated⟩ :=
    (comesTo.extends.trans
      (station_extends computer.host connection.client.program
        port)).log
  rw [extended] at accepted
  refine accepted.before fun receipt member => ?_
  have notEarlier := (dated receipt member).1
  omega

theorem Follows.faithful
    {connection : Connection ε}
    (follows : Follows bus computer connection) :
    Faithful connection.client.port.log connection.master.port.log where
  verdict send completed := by
    obtain ⟨code, accepted⟩ := follows.accepted completed
    exact ⟨fun _ => ⟨send.read, accepted⟩, fun _ => code⟩
  own send completed _ := (follows.accepted completed).2

end Steps

section Rest

variable {ε : Type}
variable {bus : Master.Bus ε}
variable {computer : Computer}

/-- Nothing is outstanding at rest. -/
theorem answered_of_atRest
    {connection : Connection ε}
    (atWork : AtWork connection.master.program)
    (atRest : connection.AtRest) :
    connection.Answered bus where
  up := atRest.1
  down := atRest.2.1
  unread := Process.input_of_idling atRest.2.2
  silent _ steps := silent_of_idling atWork atRest.2.2 steps

/-- A schedule in which the client begins to send at rest is orderly. -/
theorem orderly_of_atRest
    {connection : Connection ε}
    (atWork : AtWork connection.master.program)
    {schedule : List Action}
    (rests :
      connection.SendsWhen Connection.AtRest bus computer schedule) :
    connection.Orderly bus computer schedule := by
  induction schedule generalizing connection with
  | nil => trivial
  | cons action schedule inductionHypothesis =>
      refine ⟨fun client flushes =>
        answered_of_atRest atWork (rests.1 client flushes),
        inductionHypothesis ?_ rests.2⟩
      exact atWork.next action

end Rest

section Sessions

variable {ε : Type}
variable (bus : Master.Bus ε)
variable (computer : Computer)

theorem follows_start
    (clientId masterId : UInt8)
    (rx : Memory)
    (env : ε)
    (device : Client.Word)
    (commands : List Client.Command) :
    Follows bus computer
      (Connection.start clientId masterId rx env device commands) where
  steady :=
    { guards := guards_execAll _ _
      atWork := Or.inl ⟨⟨masterId, .receiving, rx⟩, rfl⟩
      counted := rfl
      dated := fun _ member => by cases member }
  mirrors :=
    ⟨freshPort masterId rx env,
      { log := rfl
        read := rfl
        written := rfl
        packets := rfl
        input := ⟨[], rfl, ⟨⟨rfl, rfl⟩, [], .refl, rfl⟩⟩
        sound := sound_session bus clientId masterId rx env device
          commands }⟩

/--
In every interleaving of a session that begins with `connect`: as long as
nothing is outstanding when the client begins to send a packet, every send that
has returned reports whether the master has accepted its packet, and has taken
the answer to this packet for the answer.
-/
theorem orderlySchedule_faithful
    (clientId masterId : UInt8)
    (rx : Memory)
    (env : ε)
    (device : Client.Word)
    (commands : List Client.Command)
    (schedule : List Action)
    (orderly :
      (Connection.start clientId masterId rx env device
        commands).Orderly bus computer schedule) :
    Faithful
      ((Connection.start clientId masterId rx env device commands).run bus
        computer schedule).client.port.log
      ((Connection.start clientId masterId rx env device commands).run bus
        computer schedule).master.port.log :=
  ((follows_start bus computer clientId masterId rx env device
    commands).run orderly).faithful

end Sessions

/-- A computer whose device is opened as descriptor 3. -/
def plainComputer : Computer where
  device := plainHost.device
  uninitialised _ := fun _ => 0

/-- Steps of the client, bytes to the master, its steps and bytes from it. -/
def turns (client up master down : Nat) : List Action :=
  List.replicate client .client ++ List.replicate up .deliverUp ++
    List.replicate master .master ++ List.replicate down .deliverDown

/-- A broadcast after the connection, each packet answered before the next. -/
theorem orderlySchedule_faithful_apply :
    Faithful
      ((Connection.start 0 7 (fun _ => 0) () devicePath [.apply]).run
        Master.idleBus plainComputer
        (turns 11 5 11 5 ++ turns 14 5 12 5 ++
          turns 6 0 0 0)).client.port.log
      ((Connection.start 0 7 (fun _ => 0) () devicePath [.apply]).run
        Master.idleBus plainComputer
        (turns 11 5 11 5 ++ turns 14 5 12 5 ++
          turns 6 0 0 0)).master.port.log :=
  orderlySchedule_faithful Master.idleBus plainComputer 0 7 (fun _ => 0)
    () devicePath [.apply] _
    (orderly_of_atRest
      (Or.inl ⟨⟨7, .receiving, fun _ => 0⟩, rfl⟩)
      (by decide +kernel))

/--
Two pings after the connection.  The second one is sent before the master has
answered the acknowledgement that ends the first: its send takes this answer for
its own and fails, and the master accepts its packet.
-/
theorem lateAck_unfaithful :
    ¬ Faithful
      ((Connection.start 0 7 (fun _ => 0) () devicePath
        [.ping 5, .ping 5]).run Master.idleBus plainComputer
        (turns 11 5 11 5 ++ turns 14 5 16 10 ++ turns 25 10 26 15 ++
          turns 4 0 0 0)).client.port.log
      ((Connection.start 0 7 (fun _ => 0) () devicePath
        [.ping 5, .ping 5]).run Master.idleBus plainComputer
        (turns 11 5 11 5 ++ turns 14 5 16 10 ++ turns 25 10 26 15 ++
          turns 4 0 0 0)).master.port.log := by
  intro faithful
  have reported :=
    faithful.verdict ⟨15, 15, 1, 19⟩ (by decide +kernel)
  have code : (1 : Int) = 0 := by
    refine reported.mpr ⟨20, ?_⟩
    refine
      ⟨[⟨.receiving, 0, 0⟩, ⟨.received .success, 5, 0⟩,
          ⟨.receiving, 5, 5⟩, ⟨.received .success, 10, 5⟩,
          ⟨.receiving, 10, 15⟩, ⟨.received .success, 15, 15⟩],
        20, [], ?_⟩
    decide +kernel
  exact absurd code (by decide)

end Ammc.Exchange
