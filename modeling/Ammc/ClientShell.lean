import Ammc.ConnectionRuns
import Ammc.ShellLookup

namespace Ammc.Client

open Serial

/-!
# The client's shell

The external commands of the client are run on its storage, with the words of
the command line behind the name as arguments.  `main` makes one shell with
them, connects it if it is asked to, and runs its loop on a script or on the
terminal.
-/

/-- What the commands act on, and what the built-in ones have printed. -/
structure Storage (ε : Type) where
  session : Session
  port : Port signature ε
  printed : List (List UInt8)

/-- A text on the standard output. -/
def Storage.print : Console (Storage ε) :=
  fun text storage =>
    { storage with printed := storage.printed ++ [text] }

/-- The words of a line are neither empty nor do they contain a NUL. -/
def Word.ofText (text : List UInt8) : Option Word :=
  if isWord : text ≠ [] ∧ 0 ∉ text then
    some ⟨text, isWord.1, isWord.2⟩
  else
    none

/-- `dev_echo`, from the arguments on. -/
def devEchoArgs
    (session : Session)
    (args : Words) : ClientProg (Int × Session) :=
  match args.mapM Word.ofText with
  | some args => devEcho session args
  | none => return (1, session)

section Commands

variable {ε : Type} (world : World signature ε)

/-- A program is run in the client's surroundings. -/
def Storage.run
    (program : Session → ClientProg (Int × Session))
    (storage : Storage ε) : Option (Int × Storage ε) :=
  match exec world (program storage.session) storage.port with
  | (some (ret, session), port) =>
      some (ret, { storage with session := session, port := port })
  | (none, _) => none

/-- A program that returns at once leaves the storage as it is. -/
theorem Storage.run_return
    {program : Session → ClientProg (Int × Session)}
    {ret : Int}
    {storage : Storage ε}
    (returns : program storage.session = return (ret, storage.session)) :
    Storage.run world program storage = some (ret, storage) := by
  rw [Storage.run, returns]
  rfl

/-- An entry of `_shell_commands`. -/
def entry
    (name help : String)
    (program : Session → Words → ClientProg (Int × Session)) :
    ExternalCommand (Storage ε) where
  name := ascii name
  help := some (ascii help)
  exec argv := Storage.run world fun session => program session argv.tail

/-- `_shell_commands` -/
def shellCommands : List (ExternalCommand (Storage ε)) :=
  [entry world "connect"
      ("Usage: connect <device_path>\nConnect to an ammc device, given " ++
        "its dev file (e.g. /dev/ttyACM0)\nIf it is already connected, " ++
        "reconnect")
      connectArgs,
    entry world "disconnect"
      ("Usage: disconnect\nClose an existing connection - Has no effect " ++
        "on the device")
      disconnectArgs,
    entry world "dev-echo"
      ("Usage: dev-echo <arg> [arg2 arg3 ...]\nSend a string to the " ++
        "device, which should send it back")
      devEchoArgs,
    entry world "ping"
      "Usage: ping <slave_id>\nPing a slave controller by address"
      pingArgs,
    entry world "get-speed"
      "Usage: get-speed [motor-id]\nGet the speed of a DC motor in RPM"
      getSpeedArgs,
    entry world "set-speed"
      ("Usage: set-speed [<motor-id>=<value>]\nSet the speed of a DC " ++
        "motor in RPM")
      setSpeedArgs,
    entry world "apply"
      ("Usage: apply\nTell all the slaves to apply the previously set " ++
        "speed")
      applyArgs,
    entry world "set-slave-addr"
      ("Usage: set-slave-addr <actual-addr> <new-addr>\nSet a new TWI " ++
        "address for a slave controller")
      setSlaveAddrArgs]

/-- The call of `shell_new` in `main`. -/
def mainCall : NewCall (Storage ε) where
  prompt := some (ascii "ammc> ")
  commands := some (shellCommands world)
  mallocShell := true
  mallocCommands := true
  strdupPrompt := true

variable (lib : Stdlib)

/-- The shell that `main` makes, before its lookup is attached. -/
def mainData : ShellData (Storage ε) where
  prompt := ascii "ammc> "
  commands := (lib.qsort ExternalCommand.key).sort (shellCommands world)

/-- The shell of `main`. -/
def mainShell : Shell (Storage ε) :=
  (Shells.after lib [mainCall world]).toShell lib Storage.print
    (mainData world lib)

variable {world lib}

/-- It is the one that `shell_new` returns. -/
theorem mainData_created :
    (mainData world lib, shellCommands world) ∈
      (Shells.after lib [mainCall world]).created :=
  List.mem_singleton.mpr rfl

/-- The names of the client's own commands. -/
def commandNames : List (List UInt8) :=
  ["connect", "disconnect", "dev-echo", "ping", "get-speed", "set-speed",
    "apply", "set-slave-addr"].map ascii

theorem names_shellCommands :
    (shellCommands world).map ExternalCommand.name = commandNames :=
  rfl

/-- No two commands of the client have the same name. -/
theorem nodup_shellCommands :
    ((shellCommands world).map ExternalCommand.name).Nodup := by
  rw [names_shellCommands]
  decide

/-- Nothing is found under another name. -/
theorem commandNamed_other
    {name : List UInt8}
    (notBuiltin : name ∉ shellBuiltins.map Builtin.name)
    (notExternal : name ∉ commandNames) :
    commandNamed (shellCommands world) name .all = none := by
  rw [← @names_shellCommands ε world] at notExternal
  have noBuiltin :
      (shellBuiltins.find? fun cmd => cmd.name = name) = none := by
    rw [List.find?_eq_none]
    exact fun cmd member same =>
      notBuiltin (of_decide_eq_true same ▸ List.mem_map_of_mem member)
  have noExternal :
      ((shellCommands world).find? fun cmd => cmd.name = name) = none := by
    rw [List.find?_eq_none]
    exact fun cmd member same =>
      notExternal (of_decide_eq_true same ▸ List.mem_map_of_mem member)
  rw [commandNamed, noBuiltin, noExternal]
  rfl

/-- A command is run by its name. -/
theorem execute_named
    {name : List UInt8}
    {cmd : Found (Storage ε)}
    (named : commandNamed (shellCommands world) name .all = some cmd)
    (arguments : Words)
    (state : ShellState (Storage ε)) :
    execute (mainShell world lib) (name :: arguments) state =
      (cmd.command lib Storage.print
        (Shells.after lib [mainCall world]).statics
        (mainData world lib)).run (name :: arguments) state := by
  have all := Shells.sound_after lib [mainCall world]
  exact
    execute_of_found lib Storage.print all.statics
      (all.tabled _ mainData_created) nodup_shellCommands named arguments
      state

/-- An external command is run on the storage. -/
theorem execute_external
    {name : List UInt8}
    {cmd : ExternalCommand (Storage ε)}
    (named :
      commandNamed (shellCommands world) name .all =
        some (.external cmd))
    {arguments : Words}
    {state : ShellState (Storage ε)}
    {ret : Int}
    {after : Storage ε}
    (ran : cmd.exec (name :: arguments) state.storage = some (ret, after)) :
    execute (mainShell world lib) (name :: arguments) state =
      some
        (ret, { state with storage := after },
          if ret = 1 then cmd.help.toList.map Message.help else []) := by
  rw [execute_named named, ShellCommand.run, Found.command]
  dsimp only
  rw [Found.exec]
  dsimp only
  rw [ran]
  rfl

/-- `exit` makes the shell leave. -/
theorem execute_exit (state : ShellState (Storage ε)) :
    execute (mainShell world lib) [ascii "exit"] state =
      some (0, { state with flags := state.flags ||| shSigExit }, []) := by
  have named :
      commandNamed (shellCommands world) (ascii "exit") .all =
        some (.builtin .exit) :=
    rfl
  rw [execute_named named]
  rfl

/-- A word that is not the name of a command is reported. -/
theorem execute_unknown
    {name : List UInt8}
    (unnamed : commandNamed (shellCommands world) name .all = none)
    (arguments : Words)
    (state : ShellState (Storage ε)) :
    execute (mainShell world lib) (name :: arguments) state =
      some (127, state, [.commandNotFound name]) := by
  have all := Shells.sound_after lib [mainCall world]
  exact
    execute_of_unnamed lib Storage.print all.statics
      (all.tabled _ mainData_created) nodup_shellCommands unnamed arguments
      state

end Commands

/-! ## The program -/

/-- What `main` finds in its arguments, and which file the script is. -/
structure MainOptions where
  avrDevPath : Option (List UInt8)
  /-- The file behind the path of the script, if it can be opened. -/
  scriptFile : Option (Option Input)
  terminal : Input

/-- Where the program is, or how it has ended. -/
inductive MainStatus (ε : Type) where
  | failed (storage : Storage ε)
  | hung
  | looping (loop : Looping (Storage ε))
  | finished (storage : Storage ε)

section Main

variable {ε : Type} (world : World signature ε) (lib : Stdlib)

/-- `shell_cleanup`; a failed close is logged, and nothing else is done. -/
def shellCleanup (storage : Storage ε) : Storage ε :=
  if storage.session.avrFd > 0 then
    { storage with
      port :=
        (exec world (serialClose storage.session.avrFd) storage.port).2 }
  else
    storage

/-- The part of `main` from the script on, after some rounds of the loop. -/
def mainLoop
    (options : MainOptions)
    (state : ShellState (Storage ε))
    (rounds : Nat) : MainStatus ε :=
  match options.scriptFile with
  | some none => .failed state.storage
  | script =>
      let state :=
        if script.isSome then
          { state with
            flags := state.flags ||| (shScriptMode ||| shExitOnErr) }
        else
          state
      let loop :=
        shellLoop (mainShell world lib)
          (script.join.getD options.terminal) state rounds
      if loop.status = .left then
        .finished (shellCleanup world loop.state.storage)
      else
        .looping loop

/-- `main`, once its arguments are parsed, after some rounds of the loop. -/
def clientMain
    (options : MainOptions)
    (storage : Storage ε)
    (rounds : Nat) : MainStatus ε :=
  let state : ShellState (Storage ε) := ⟨0, storage⟩
  match options.avrDevPath with
  | none => mainLoop world lib options state rounds
  | some path =>
      match
        execute (mainShell world lib) [ascii "connect", path] state with
      | none => .hung
      | some (ret, state, _) =>
          if ret ≠ 0 then
            .failed state.storage
          else
            mainLoop world lib options state rounds

variable {world lib}

/-- With a script that can be opened, the program ends with its loop. -/
theorem mainLoop_of_left
    {path : Option (List UInt8)}
    {input terminal : Input}
    {state last : ShellState (Storage ε)}
    {rounds : Nat}
    (left :
      (shellLoop (mainShell world lib) input
        { state with
          flags := state.flags ||| (shScriptMode ||| shExitOnErr) }
        rounds).status = .left)
    (final :
      (shellLoop (mainShell world lib) input
        { state with
          flags := state.flags ||| (shScriptMode ||| shExitOnErr) }
        rounds).state = last) :
    mainLoop world lib ⟨path, some (some input), terminal⟩ state rounds =
      .finished (shellCleanup world last.storage) := by
  rw [← final]
  exact if_pos left

end Main

end Ammc.Client
