import Ammc.ClientShell
import Ammc.ExecutedLines
import Ammc.FleetCommands

namespace Ammc.Exchange

open ByteMemory Serial Packet DcMotor Slave Client Numerals Tokens

/-!
# From a script to the motors

A script is a text.  The shell cuts it into lines and words, finds a command for
the first word of each line, and the command turns the others into numbers, a
packet, and a frame on the bus.  At the end of a script the motors are as its
commands say, up to the first line that is no command, and the program has
ended.
-/

/-! ## What the lines of a script say -/

/-- The words of a line spell a command. -/
inductive Spells : Words → FleetCommand → Prop where
  | setSpeed
      {motor value : List UInt8}
      {addr : UInt8}
      {speed : DcRpm}
      (isAddress : IsAddress .decimal motor addr)
      (isSpeed : Denotes .decimal value speed.toInt) :
      Spells [ascii "set-speed", motor ++ 61 :: value]
        (.speed (.set addr speed))
  | apply : Spells [ascii "apply"] (.speed .apply)
  | setSlaveAddr
      {first second : List UInt8}
      {addrActual addrNew : UInt8}
      (isActual : IsAddress .constant first addrActual)
      (isNew : IsAddress .constant second addrNew) :
      Spells [ascii "set-slave-addr", first, second]
        (.rename addrActual addrNew)

/-- The commands have addresses of slaves. -/
theorem bounds_of_isAddress
    {writing : Notation}
    {argument : List UInt8}
    {addr : UInt8}
    (isAddress : IsAddress writing argument addr) :
    1 ≤ addr ∧ addr ≤ 126 :=
  ⟨UInt8.le_iff_toNat_le.mpr isAddress.positive,
    UInt8.le_iff_toNat_le.mpr isAddress.limited⟩

theorem Spells.valid
    {words : Words}
    {command : FleetCommand}
    (spells : Spells words command) :
    command.Valid := by
  cases spells with
  | setSpeed isAddress _ => exact bounds_of_isAddress isAddress
  | apply => trivial
  | setSlaveAddr isActual isNew =>
      exact ⟨bounds_of_isAddress isActual, bounds_of_isAddress isNew⟩

/-- A line with the name of a command, and other arguments than it takes. -/
inductive Misused : Words → Prop where
  | setSpeed
      {arguments : Words}
      (misused : arguments.length ≠ 1) :
      Misused (ascii "set-speed" :: arguments)
  | apply
      {arguments : Words}
      (misused : arguments ≠ []) :
      Misused (ascii "apply" :: arguments)
  | setSlaveAddr
      {arguments : Words}
      (misused : arguments.length ≠ 2) :
      Misused (ascii "set-slave-addr" :: arguments)

/-- A line after which nothing more of a script is executed. -/
inductive Stops : Words → Prop where
  | unknown
      {name : List UInt8}
      (arguments : Words)
      (notBuiltin : name ∉ shellBuiltins.map Builtin.name)
      (notExternal : name ∉ commandNames) :
      Stops (name :: arguments)
  | misused
      {words : Words}
      (misused : Misused words) :
      Stops words
  | badSpeed
      {argument : List UInt8}
      (refused : (sscanfSpeed argument).1 ≠ 2) :
      Stops [ascii "set-speed", argument]
  | exit : Stops [ascii "exit"]

/--
The lines of a script, and its commands: those of the lines that are reached.
-/
inductive Script : List Words → List FleetCommand → Prop where
  | finished : Script [] []
  | blank
      {rest : List Words}
      {commands : List FleetCommand}
      (script : Script rest commands) :
      Script ([] :: rest) commands
  | command
      {words : Words}
      {rest : List Words}
      {command : FleetCommand}
      {commands : List FleetCommand}
      (spells : Spells words command)
      (script : Script rest commands) :
      Script (words :: rest) (command :: commands)
  | stopped
      {words : Words}
      (few : tooMany words = false)
      (stops : Stops words)
      (rest : List Words) :
      Script (words :: rest) []

/-! ## One line -/

section Lines

variable {uninitialised : List Traced → Memory}
variable {host : Host (List Traced)}
variable {lib : Stdlib}

/-- The surroundings of the client. -/
abbrev fleetWorld
    (uninitialised : List Traced → Memory)
    (host : Host (List Traced)) :
    World Client.signature (Station (List Traced)) :=
  drainedWorld (tracedBus uninitialised) .clear host

/-- The storage of the shell as the state of the fleet. -/
def fleetState
    (storage : Storage (Station (List Traced))) :
    Client.Session × Port Client.signature (Station (List Traced)) :=
  (storage.session, storage.port)

/-- A command that is issued is run on the storage. -/
theorem run_of_issued
    {storage : Storage (Station (List Traced))}
    {command : FleetCommand}
    {next : Client.Session}
    {after : Port Client.signature (Station (List Traced))}
    (issued :
      issueFleet (tracedBus uninitialised) host (fleetState storage)
          command =
        some (next, after))
    {program : Session → ClientProg (Int × Session)}
    (same : program storage.session = command.exec storage.session) :
    Storage.run (fleetWorld uninitialised host) program storage =
      some (0, { storage with session := next, port := after }) := by
  rw [issueFleet] at issued
  rw [Storage.run, same]
  dsimp only [fleetState] at issued
  split at issued
  · rename_i code session port ran
    split at issued
    · rename_i success
      cases issued
      rw [ran]
      dsimp only
      rw [success]
    · cases issued
  · cases issued

/-- The arguments of a spelled command are turned into its numbers. -/
theorem Spells.program
    {name : List UInt8}
    {arguments : Words}
    {command : FleetCommand}
    (spells : Spells (name :: arguments) command)
    {world : World Client.signature (Station (List Traced))} :
    ∃ help : Option (List UInt8),
      ∃ program : Session → Words → ClientProg (Int × Session),
      commandNamed (shellCommands world) name .all =
          some (.external
            { name := name
              help := help
              exec := fun argv =>
                Storage.run world fun session =>
                  program session argv.tail }) ∧
        ∀ session : Session,
          ¬ session.avrFd < 0 →
          program session arguments = command.exec session := by
  cases spells with
  | @setSpeed motor value addr speed isAddress isSpeed =>
      refine ⟨_, setSpeedArgs, rfl, fun session opened => ?_⟩
      rw [setSpeedArgs, if_neg opened,
        sscanfSpeed_of_asked isAddress isSpeed]
      rfl
  | apply =>
      exact ⟨_, applyArgs, rfl, fun session _ => rfl⟩
  | @setSlaveAddr first second addrActual addrNew isActual isNew =>
      refine ⟨_, setSlaveAddrArgs, rfl, fun session opened => ?_⟩
      obtain ⟨actual, actualScanned, _⟩ :=
        scan_append isActual.denotes stops_nil
      obtain ⟨new, newScanned, _⟩ := scan_append isNew.denotes stops_nil
      rw [List.append_nil] at actualScanned newScanned
      rw [setSlaveAddrArgs, if_neg opened,
        sscanfAddress_of_scan actualScanned,
        sscanfAddress_of_scan newScanned,
        converted_of_address isActual actualScanned,
        converted_of_address isNew newScanned]
      rfl

/-- A line that spells a command does to the motors what it says. -/
theorem execute_spelled
    {words : Words}
    {command : FleetCommand}
    (spells : Spells words command)
    {seats : List Seat}
    {state : ShellState (Storage (Station (List Traced)))}
    (attended : Attended host seats (fleetState state.storage)) :
    ∃ after,
      execute (mainShell (fleetWorld uninitialised host) lib) words state =
          some (0, { state with storage := after }, []) ∧
        Attended host
          (seats.mapIdx fun index seat =>
            command.event.act wishes index seat)
          (fleetState after) := by
  obtain ⟨name, arguments, rfl⟩ : ∃ name arguments, words = name :: arguments := by
    cases spells with
    | setSpeed _ _ => exact ⟨_, _, rfl⟩
    | apply => exact ⟨_, _, rfl⟩
    | setSlaveAddr _ _ => exact ⟨_, _, rfl⟩
  obtain ⟨next, issued, stillAttended⟩ :=
    @Attended.step uninitialised host seats _ attended (.issued command)
      spells.valid
  obtain ⟨help, program, named, same⟩ :=
    @Spells.program name arguments command spells
      (fleetWorld uninitialised host)
  have opened := host.device.opened attended.connected
  have ran :=
    @run_of_issued uninitialised host state.storage command next.1 next.2
      issued (fun session => program session arguments)
      (same state.storage.session opened)
  exact
    ⟨{ state.storage with session := next.1, port := next.2 },
      execute_external named ran, stillAttended⟩

/-- A misused command is answered with its help. -/
theorem execute_misused
    {words : Words}
    (misused : Misused words)
    (world : World Client.signature (Station (List Traced)))
    (state : ShellState (Storage (Station (List Traced)))) :
    ∃ messages,
      execute (mainShell world lib) words state =
        some (1, state, messages) := by
  cases misused with
  | @setSpeed arguments misused =>
      have returns :
          setSpeedArgs state.storage.session arguments =
            return (1, state.storage.session) := by
        rcases arguments with _ | ⟨first, _ | ⟨second, more⟩⟩
        · rfl
        · exact absurd rfl misused
        · rfl
      have ran :=
        @Storage.run_return _ world
          (fun session => setSpeedArgs session arguments) 1 state.storage
          returns
      exact ⟨_, execute_external rfl ran⟩
  | @apply arguments misused =>
      have returns :
          applyArgs state.storage.session arguments =
            return (1, state.storage.session) := by
        cases arguments with
        | nil => exact absurd rfl misused
        | cons first more => rfl
      have ran :=
        @Storage.run_return _ world
          (fun session => applyArgs session arguments) 1 state.storage
          returns
      exact ⟨_, execute_external rfl ran⟩
  | @setSlaveAddr arguments misused =>
      have returns :
          setSlaveAddrArgs state.storage.session arguments =
            return (1, state.storage.session) := by
        rcases arguments with _ | ⟨first, _ | ⟨second, _ | ⟨third, more⟩⟩⟩
        · rfl
        · rfl
        · exact absurd rfl misused
        · rfl
      have ran :=
        @Storage.run_return _ world
          (fun session => setSlaveAddrArgs session arguments) 1
          state.storage returns
      exact ⟨_, execute_external rfl ran⟩

/-- A note of the client changes nothing for the motors. -/
theorem Attended.noted
    {seats : List Seat}
    {session : Client.Session}
    {port : Port Client.signature (Station (List Traced))}
    (attended : Attended host seats (session, port))
    (note : Client.Note) :
    Attended host seats (session, port.noted note) :=
  ⟨⟨attended.ready.idle, attended.ready.ids⟩, attended.connected,
    attended.served⟩

/-- A line that is no command leaves the motors alone, and ends the loop. -/
theorem execute_stops
    {words : Words}
    (stops : Stops words)
    {seats : List Seat}
    {state : ShellState (Storage (Station (List Traced)))}
    (exitsOnError : shellFlagGet state shExitOnErr = true)
    (attended : Attended host seats (fleetState state.storage)) :
    ∃ ret next messages,
      execute (mainShell (fleetWorld uninitialised host) lib) words state =
          some (ret, next, messages) ∧
        leaves ret next = true ∧
        Attended host seats (fleetState next.storage) := by
  have failed :
      ∀ ret : Int, ret ≠ 0 →
        ∀ storage : Storage (Station (List Traced)),
          leaves ret { state with storage := storage } = true := by
    intro ret nonzero storage
    have same :
        shellFlagGet { state with storage := storage } shExitOnErr =
          true :=
      exitsOnError
    rw [leaves, same, decide_eq_true nonzero]
    rfl
  cases stops with
  | unknown arguments notBuiltin notExternal =>
      exact
        ⟨127, state, _,
          execute_unknown (commandNamed_other notBuiltin notExternal)
            arguments state,
          failed 127 (by decide) state.storage, attended⟩
  | misused misused =>
      obtain ⟨messages, executed⟩ :=
        @execute_misused lib words misused
          (fleetWorld uninitialised host) state
      exact
        ⟨1, state, messages, executed,
          failed 1 (by decide) state.storage, attended⟩
  | @badSpeed argument refused =>
      have opened := host.device.opened attended.connected
      have rejected :
          setSpeedArgs state.storage.session [argument] =
            shError state.storage.session 1 (badArgument argument) := by
        have opened' : ¬ state.storage.session.avrFd < 0 := opened
        rw [setSpeedArgs, if_neg opened']
        exact if_pos (Or.inl refused)
      have ran :
          Storage.run (fleetWorld uninitialised host)
              (fun session => setSpeedArgs session [argument])
              state.storage =
            some
              (1,
                { state.storage with
                  port :=
                    state.storage.port.noted
                      (.failed 1 (badArgument argument)) }) := by
        rw [Storage.run, rejected]
        rfl
      exact
        ⟨1,
          { state with
            storage :=
              { state.storage with
                port :=
                  state.storage.port.noted
                    (.failed 1 (badArgument argument)) } },
          _, execute_external rfl ran, failed 1 (by decide) _,
          Attended.noted attended _⟩
  | exit =>
      refine ⟨0, _, [], execute_exit state, ?_, attended⟩
      have set :
          ∀ flags : UInt8, (flags ||| shSigExit) &&& shSigExit ≠ 0 :=
        forall_byte (by decide +kernel)
      rw [leaves, Bool.or_eq_true]
      exact Or.inr (decide_eq_true (set state.flags))

/-! ## All lines -/

/-- A script is read without interaction, up to the first error. -/
structure InScript (state : ShellState (Storage (Station (List Traced)))) :
    Prop where
  exitsOnError : shellFlagGet state shExitOnErr = true
  stays : shellFlagGet state shSigExit = false

/-- The words that spell a command are few. -/
theorem Spells.few
    {words : Words}
    {command : FleetCommand}
    (spells : Spells words command) :
    words ≠ [] ∧ tooMany words = false := by
  cases spells with
  | setSpeed _ _ => exact ⟨List.cons_ne_nil _ _, rfl⟩
  | apply => exact ⟨List.cons_ne_nil _ _, rfl⟩
  | setSlaveAddr _ _ => exact ⟨List.cons_ne_nil _ _, rfl⟩

theorem Stops.nonempty
    {words : Words}
    (stops : Stops words) :
    words ≠ [] := by
  cases stops with
  | unknown _ _ _ => exact List.cons_ne_nil _ _
  | badSpeed _ => exact List.cons_ne_nil _ _
  | exit => exact List.cons_ne_nil _ _
  | misused misused =>
      cases misused with
      | setSpeed _ => exact List.cons_ne_nil _ _
      | apply _ => exact List.cons_ne_nil _ _
      | setSlaveAddr _ => exact List.cons_ne_nil _ _

/-- The commands of a script are executed, and then no more. -/
theorem runWords_script
    {lines : List Words}
    {commands : List FleetCommand}
    (script : Script lines commands)
    {seats : List Seat}
    {state : ShellState (Storage (Station (List Traced)))}
    (inScript : InScript state)
    (attended : Attended host seats (fleetState state.storage)) :
    ∃ last,
      ((runWords (mainShell (fleetWorld uninitialised host) lib) tooMany
            lines state).2 = .exhausted last ∨
          (runWords (mainShell (fleetWorld uninitialised host) lib) tooMany
            lines state).2 = .stopped last) ∧
        Attended host
          (KeyedCells.after wishes seats
            (commands.map FleetCommand.event))
          (fleetState last.storage) := by
  induction script generalizing seats state with
  | finished => exact ⟨state, Or.inl rfl, attended⟩
  | blank script inductionHypothesis =>
      have readsOn :
          ReadsOn (mainShell (fleetWorld uninitialised host) lib) [] state
            state :=
        .blank inScript.stays
      rw [readsOn.runWords_eq readsOn.few]
      exact inductionHypothesis inScript attended
  | command spells script inductionHypothesis =>
      obtain ⟨nonempty, few⟩ := spells.few
      obtain ⟨after, executed, stillAttended⟩ :=
        @execute_spelled uninitialised host lib _ _ spells seats state
          attended
      have stillInScript :
          InScript { state with storage := after } :=
        ⟨inScript.exitsOnError, inScript.stays⟩
      have stays :
          leaves 0 { state with storage := after } = false := by
        rw [leaves, stillInScript.stays]
        rfl
      have readsOn := ReadsOn.command few nonempty executed stays
      rw [readsOn.runWords_eq few]
      exact inductionHypothesis stillInScript stillAttended
  | stopped few stops rest =>
      obtain ⟨ret, next, messages, executed, leaving, stillAttended⟩ :=
        @execute_stops uninitialised host lib _ stops seats state
          inScript.exitsOnError attended
      refine ⟨next, Or.inr ?_, stillAttended⟩
      rw [runWords, few, if_neg Bool.noConfusion, if_neg stops.nonempty,
        executed]
      dsimp only
      rw [leaving, if_pos rfl]

/-- A blank line at the end makes no difference. -/
theorem Script.of_concat_blank
    {lines : List Words}
    {commands : List FleetCommand}
    (script : Script (lines ++ [[]]) commands) :
    Script lines commands := by
  induction lines generalizing commands with
  | nil =>
      cases script with
      | blank script => exact script
      | command spells _ => exact absurd rfl spells.few.1
      | stopped _ stops _ => exact absurd rfl stops.nonempty
  | cons words lines inductionHypothesis =>
      cases script with
      | blank script => exact .blank (inductionHypothesis script)
      | command spells script =>
          exact .command spells (inductionHypothesis script)
      | stopped few stops _ => exact .stopped few stops lines

/-- A script as a text that the shell reads line by line. -/
structure IsScript
    (input : Input)
    (commands : List FleetCommand) : Prop where
  complete : input.ending = .endOfFile
  noNul : 0 ∉ input.characters
  short : ∀ line ∈ inputLines input, line.length ≤ shellLineMaxLen
  script : Script ((inputLines input).map lineWords) commands

/-- The pieces of a script are its lines. -/
theorem IsScript.pieceWords
    {input : Input}
    {commands : List FleetCommand}
    (isScript : IsScript input commands) :
    Script (Client.pieceWords input) commands := by
  obtain ⟨characters, ending⟩ := input
  obtain ⟨complete, noNul, short, script⟩ := isScript
  cases complete
  obtain ⟨spare, split, kind⟩ := pieceWords_cases noNul .endOfFile
  have lines :
      (inputLines ⟨characters, .endOfFile⟩).flatMap
          (fun line => (linePieces line).map lineWords) =
        (inputLines ⟨characters, .endOfFile⟩).map lineWords := by
    revert short
    generalize inputLines ⟨characters, .endOfFile⟩ = all
    intro short
    induction all with
    | nil => rfl
    | cons line all inductionHypothesis =>
        rw [List.forall_mem_cons] at short
        have single : linePieces line = [line] :=
          cut_of_short short.1
        rw [List.flatMap_cons, single, inductionHypothesis short.2]
        rfl
  have nothing :
      (linePieces
          (interruptedLine ⟨characters, .endOfFile⟩)).dropLast = [] := by
    have single : linePieces [] = [[]] :=
      cut_of_short (Nat.zero_le _)
    exact congrArg List.dropLast single
  rw [lines, nothing, List.map_nil, List.append_nil] at split
  rw [← split] at script
  rcases kind with rfl | ⟨rfl, _⟩
  · rwa [List.append_nil] at script
  · exact script.of_concat_blank

/-- The loop comes to the end of a script, with the motors as it says. -/
theorem shellLoop_script
    {input : Input}
    {commands : List FleetCommand}
    (isScript : IsScript input commands)
    {seats : List Seat}
    {state : ShellState (Storage (Station (List Traced)))}
    (inScript : InScript state)
    (attended : Attended host seats (fleetState state.storage)) :
    ∃ last bound,
      (∀ rounds,
        bound ≤ rounds →
        (shellLoop (mainShell (fleetWorld uninitialised host) lib) input
              state rounds).status = .left ∧
          (shellLoop (mainShell (fleetWorld uninitialised host) lib) input
              state rounds).state = last) ∧
        Attended host
          (KeyedCells.after wishes seats
            (commands.map FleetCommand.event))
          (fleetState last.storage) := by
  obtain ⟨last, ended, stillAttended⟩ :=
    @runWords_script uninitialised host lib _ _ isScript.pieceWords seats
      state inScript attended
  obtain ⟨bound, settled⟩ :=
    @loop_settles _ (mainShell (fleetWorld uninitialised host) lib)
      { input := input
        state := state
        executed := []
        printed :=
          prompted (mainShell (fleetWorld uninitialised host) lib) state
        status := .running } rfl
  refine ⟨last, bound, fun rounds late => ?_, stillAttended⟩
  obtain ⟨_, status, final⟩ := settled rounds late
  rcases ended with exhausted | stopped
  · dsimp only at status final
    rw [exhausted] at status final
    rw [isScript.complete] at status
    exact ⟨status, final last rfl⟩
  · dsimp only at status final
    rw [stopped] at status final
    exact ⟨status, final last rfl⟩

/-! ## The whole program -/

/-- `connect` reaches the master and leaves the motors as they are. -/
theorem connect_attended
    {session : Client.Session}
    (disconnected : session.avrFd = -1)
    {port : Port Client.signature (Station (List Traced))}
    (settled : Settled port)
    (faultless : Faultless port.log port.env.port.log)
    {seats : List Seat}
    (served : List.Forall₂ Serves seats port.env.port.env)
    (device : Word) :
    ∃ next after,
      exec (fleetWorld uninitialised host) (connect session device) port =
          (some (0, next), after) ∧
        Attended host seats (next, after) := by
  have craftable : Craftable ComType.hnd.code none 0 :=
    craftable_of_none (by decide)
  have agree : Agree 0 ComType.hnd.code port.flushed.env :=
    rfl
  have opened := host.device.opened rfl
  have closed : ¬ session.avrFd > 0 := by
    rw [disconnected]
    decide
  have sent :=
    exec_psend_clear (tracedBus uninitialised) host
      ({ globalId := 0, avrFd := host.device.number } : Client.Session) rfl
      0 craftable port.flushed settled.flushed.idle agree
  have connected :=
    @exec_communicationConnect _ (tracedBus uninitialised) host .clear
      { session with avrFd := host.device.number } _ _ _ _ sent
  refine
    ⟨{ session with
        globalId := packetNextId 0
        avrFd := host.device.number },
      portSent (tracedBus uninitialised) port.flushed 0 0 craftable, ?_, ?_⟩
  · rw [connect, if_neg closed,
      exec_bind_of_done
        (exec_serialOpen (tracedBus uninitialised) device port)]
    simp only [opened, ↓reduceIte]
    rw [connectOver, exec_bind_of_done connected]
    rfl
  · have running :=
      running_portSent (tracedBus uninitialised)
        (show
          ({ globalId := 0, avrFd := host.device.number } :
            Client.Session).avrFd = host.device.number from rfl)
        0 craftable settled.flushed faultless agree
    refine ⟨running.toInStep.ready, rfl, ?_⟩
    have inert :
        Master.Inert
          (packetGetType
            ((sentFrame 0 0 craftable).landed
              port.flushed.env.handler.rx)) := by
      rw [sentFrame_type]
      decide
    have unchanged :
        (portSent (tracedBus uninitialised) port.flushed 0 0
            craftable).env.port.env =
          port.env.port.env := by
      rw [env_portSent, Master.effect_inert (tracedBus uninitialised) inert]
      rfl
    dsimp only
    rw [unchanged]
    exact served

/-- `shell_cleanup` leaves the motors as they are. -/
theorem slaves_shellCleanup
    {seats : List Seat}
    {storage : Storage (Station (List Traced))}
    (attended : Attended host seats (fleetState storage)) :
    (shellCleanup (fleetWorld uninitialised host)
        storage).port.env.port.env =
      storage.port.env.port.env := by
  have number : storage.session.avrFd = host.device.number :=
    attended.connected
  have closed :
      exec (fleetWorld uninitialised host) (serialClose host.device.number)
          storage.port =
        (some 0, storage.port) := by
    have world :=
      drainedWorld_connected (tracedBus uninitialised) .clear host
    rw [serialClose, exec_bind_of_done (exec_validDev world storage.port)]
    rfl
  rw [shellCleanup, if_pos (host.device.positive number)]
  dsimp only
  rw [number, closed]

/--
A client that is asked to connect and to run a script does so, and ends: each
motor is then as the commands of the script say, in their order and up to the
first line that is no command.
-/
theorem script_followed
    (lib : Stdlib)
    {storage : Storage (Station (List Traced))}
    (disconnected : storage.session.avrFd = -1)
    (settled : Settled storage.port)
    (faultless : Faultless storage.port.log storage.port.env.port.log)
    {seats : List Seat}
    (served : List.Forall₂ Serves seats storage.port.env.port.env)
    {input : Input}
    {commands : List FleetCommand}
    (isScript : IsScript input commands)
    (device : Word)
    (terminal : Input) :
    ∃ last bound,
      (∀ rounds,
        bound ≤ rounds →
        clientMain (fleetWorld uninitialised host) lib
            ⟨some device.text, some (some input), terminal⟩ storage rounds =
          .finished last) ∧
        List.Forall₂ Serves
          (KeyedCells.after wishes seats
            (commands.map FleetCommand.event))
          last.port.env.port.env := by
  obtain ⟨next, after, connected, attended⟩ :=
    @connect_attended uninitialised host _ disconnected _ settled faultless
      seats served device
  have executed :
      execute (mainShell (fleetWorld uninitialised host) lib)
          [ascii "connect", device.text] ⟨0, storage⟩ =
        some
          (0, ⟨0, { storage with session := next, port := after }⟩, []) := by
    have ran :
        Storage.run (fleetWorld uninitialised host)
            (fun session => connectArgs session [device.text]) storage =
          some (0, { storage with session := next, port := after }) := by
      rw [Storage.run, connectArgs, connectPath_text, connected]
    exact execute_external rfl ran
  have exits :
      (0 ||| (shScriptMode ||| shExitOnErr)) &&& shExitOnErr ≠ 0 := by
    decide
  have stays :
      (0 ||| (shScriptMode ||| shExitOnErr)) &&& shSigExit = 0 := by
    decide
  have inScript :
      @InScript
        ⟨0 ||| (shScriptMode ||| shExitOnErr),
          { storage with session := next, port := after }⟩ :=
    ⟨decide_eq_true exits, decide_eq_false (not_not.mpr stays)⟩
  obtain ⟨last, bound, ended, reached⟩ :=
    @shellLoop_script uninitialised host lib input commands isScript seats
      _ inScript attended
  refine
    ⟨shellCleanup (fleetWorld uninitialised host) last.storage, bound,
      fun rounds late => ?_, ?_⟩
  · obtain ⟨left, final⟩ := ended rounds late
    rw [clientMain]
    dsimp only
    rw [executed]
    dsimp only
    rw [if_neg (by decide)]
    exact mainLoop_of_left left final
  · rw [slaves_shellCleanup reached]
    exact reached.served

end Lines

/-- A script with two commands, and a line that is none. -/
def renamingScript : Input where
  characters :=
    ascii
      ("set-speed 5=100\n\n set-slave-addr\t5 0x0A \nstart\napply\n")
  ending := .endOfFile

theorem renamingScript_isScript :
    IsScript renamingScript
      [.speed (.set 5 100), .rename 5 10] where
  complete := rfl
  noNul := by decide
  short := by decide +kernel
  script := by
    have words :
        (inputLines renamingScript).map lineWords =
          [[ascii "set-speed", [53] ++ 61 :: [49, 48, 48]], [],
            [ascii "set-slave-addr", [53], [48, 120, 48, 65]],
            [ascii "start"], [ascii "apply"], []] := by
      decide +kernel
    have five : Denotes .decimal [53] (5 : UInt8).toNat :=
      .unsigned (.decimal (by decide) (List.all_eq_true.mp rfl))
    have hundred : Denotes .decimal [49, 48, 48] (100 : DcRpm).toInt :=
      .unsigned (.decimal (by decide) (List.all_eq_true.mp rfl))
    have fiveConstant : Denotes .constant [53] (5 : UInt8).toNat :=
      .unsigned
        (.leading (by decide) (List.all_eq_true.mp rfl) (by decide))
    have ten :
        Denotes .constant [48, 120, 48, 65] (10 : UInt8).toNat :=
      .unsigned
        (.hexadecimal (by decide) (by decide) (List.all_eq_true.mp rfl))
    have isFive : IsAddress .decimal [53] 5 :=
      ⟨five, by decide, by decide⟩
    have isFiveConstant : IsAddress .constant [53] 5 :=
      ⟨fiveConstant, by decide, by decide⟩
    have isTen : IsAddress .constant [48, 120, 48, 65] 10 :=
      ⟨ten, by decide, by decide⟩
    have notBuiltin : ascii "start" ∉ shellBuiltins.map Builtin.name := by
      decide
    have notExternal : ascii "start" ∉ commandNames := by
      decide
    rw [words]
    exact
      .command (.setSpeed isFive hundred)
        (.blank
          (.command (.setSlaveAddr isFiveConstant isTen)
            (.stopped rfl (.unknown [] notBuiltin notExternal) _)))

/-- The storage of a client that has just been started. -/
def startedStorage : Storage (Station (List Traced)) where
  session := ⟨0, -1⟩
  port := freshPort 7 (fun _ => 0) twoSlaves
  printed := []

theorem renamingScript_followed :
    ∃ last bound,
      (∀ rounds,
        bound ≤ rounds →
        clientMain (fleetWorld (fun _ _ => 0) slavesHost) plainStdlib
            ⟨some devicePath.text, some (some renamingScript),
              ⟨[], .endOfFile⟩⟩
            startedStorage rounds =
          .finished last) ∧
        List.Forall₂ Serves
          (KeyedCells.after wishes twoSeats
            ([FleetCommand.speed (.set 5 100), .rename 5 10].map
              FleetCommand.event))
          last.port.env.port.env :=
  script_followed plainStdlib rfl (freshPort_settled _ _ _)
    (freshPort_faultless _ _ _) twoSlaves_attended.served
    renamingScript_isScript devicePath _

end Ammc.Exchange
