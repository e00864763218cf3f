import Ammc.ShellTermination
import Ammc.SortedTable

namespace Ammc.Client

open SortedTable

/-!
# The commands of a shell

`shell_new` sorts the given commands by their names, and the built-in ones when
it is the first to come across them; `shell_command_get` searches the sorted
tables.  What the standard library's `qsort` and `bsearch` do beyond what they
promise is left open.
-/

/-- The bytes of a string of the program's text. -/
def ascii (text : String) : List UInt8 :=
  text.toList.map fun c => UInt8.ofNat c.toNat

/-- `strcmp`; only the sign of its result is used. -/
def strcmp : List UInt8 → List UInt8 → Ordering :=
  List.compareLex compare

/-- `cmdcmp`, on the names of two commands; a null pointer comes first. -/
def cmdcmp :
    Option (List UInt8) → Option (List UInt8) → Ordering
  | none, none => .eq
  | none, some _ => .lt
  | some _, none => .gt
  | some first, some second => strcmp first second

instance : Std.TransCmp strcmp :=
  inferInstanceAs (Std.TransCmp (List.compareLex compare))

instance : Std.LawfulEqCmp strcmp :=
  inferInstanceAs (Std.LawfulEqCmp (List.compareLex compare))

theorem cmdcmp_swap {first second : Option (List UInt8)} :
    cmdcmp first second = (cmdcmp second first).swap := by
  cases first with
  | none =>
      cases second with
      | none => rfl
      | some name => rfl
  | some name =>
      cases second with
      | none => rfl
      | some other =>
          have swapped : strcmp name other = (strcmp other name).swap :=
            Std.OrientedCmp.eq_swap
          exact swapped

theorem cmdcmp_isLE_trans
    {first second third : Option (List UInt8)}
    (before : (cmdcmp first second).isLE = true)
    (behind : (cmdcmp second third).isLE = true) :
    (cmdcmp first third).isLE = true := by
  cases first with
  | none =>
      cases third with
      | none => rfl
      | some name => rfl
  | some name =>
      cases second with
      | none => cases before
      | some other =>
          cases third with
          | none => cases behind
          | some last =>
              have both : (strcmp name last).isLE = true :=
                @Std.TransCmp.isLE_trans _ strcmp _ name other last before
                  behind
              exact both

theorem cmdcmp_self {name : Option (List UInt8)} :
    cmdcmp name name = .eq := by
  cases name with
  | none => rfl
  | some name =>
      have same : strcmp name name = .eq :=
        Std.ReflCmp.compare_self
      exact same

theorem eq_of_cmdcmp
    {first second : Option (List UInt8)}
    (same : cmdcmp first second = .eq) :
    first = second := by
  cases first with
  | none =>
      cases second with
      | none => rfl
      | some name => cases same
  | some name =>
      cases second with
      | none => cases same
      | some other =>
          exact congrArg some (Std.LawfulEqCmp.eq_of_compare same)

instance : Std.TransCmp cmdcmp where
  eq_swap := cmdcmp_swap
  isLE_trans := cmdcmp_isLE_trans

instance : Std.LawfulEqCmp cmdcmp where
  compare_self := cmdcmp_self
  eq_of_compare := eq_of_cmdcmp

/-- `qsort` and `bsearch`, as far as they are documented. -/
structure Stdlib where
  qsort : {α : Type} → (key : α → Option (List UInt8)) → Sorter cmdcmp key
  bsearch :
    {α : Type} → (key : α → Option (List UInt8)) → Searcher cmdcmp key

/-- A standard library. -/
def plainStdlib : Stdlib where
  qsort key := mergeSorter cmdcmp key
  bsearch key := halvingSearcher cmdcmp key

/-- The functions of `_shell_builtins`. -/
inductive Builtin where
  | echo
  | help
  | exit
  deriving Repr, DecidableEq

/-- The `name` of a built-in command. -/
def Builtin.name : Builtin → List UInt8
  | .echo => ascii "echo"
  | .help => ascii "help"
  | .exit => ascii "exit"

/-- The `help` of a built-in command. -/
def Builtin.helpText : Builtin → List UInt8
  | .echo =>
      ascii "Usage: echo [arg1 arg2 ...]\nPrint back the arguments given"
  | .help =>
      ascii
        ("Usage: help [command]\nDisplay the entire command set, or a " ++
          "description of a specific command")
  | .exit => ascii "Exit from the shell"

/-- `_shell_builtins` -/
def shellBuiltins : List Builtin :=
  [.echo, .help, .exit]

/-- `shell_command_t` of an external command, which is given the storage. -/
structure ExternalCommand (σ : Type) where
  name : List UInt8
  help : Option (List UInt8)
  exec : Words → σ → Option (Int × σ)

/-- The key of a built-in command. -/
def Builtin.key (cmd : Builtin) : Option (List UInt8) :=
  some cmd.name

/-- The key of an external command. -/
def ExternalCommand.key (cmd : ExternalCommand σ) : Option (List UInt8) :=
  some cmd.name

/-- The static variables of the module. -/
structure Statics where
  builtins : List Builtin
  builtinsSorted : Bool

/-- `_shell_builtins` and `_shell_builtins_sorted` at the start. -/
def Statics.initial : Statics where
  builtins := shellBuiltins
  builtinsSorted := false

/-- What `shell_new` fills in; the flags and the storage are kept apart. -/
structure ShellData (σ : Type) where
  prompt : List UInt8
  commands : List (ExternalCommand σ)

/-- The arguments of `shell_new`, and which of its allocations succeed. -/
structure NewCall (σ : Type) where
  prompt : Option (List UInt8)
  commands : Option (List (ExternalCommand σ))
  mallocShell : Bool
  mallocCommands : Bool
  strdupPrompt : Bool

/-- `default_prompt` -/
def defaultPrompt : List UInt8 := ascii "> "

/-- `shell_new` -/
def shellNew
    (lib : Stdlib)
    (call : NewCall σ)
    (statics : Statics) : Option (ShellData σ) × Statics :=
  match call.commands with
  | none => (none, statics)
  | some commands =>
      if commands.length = 0 then
        (none, statics)
      else if call.mallocShell && call.mallocCommands &&
          call.strdupPrompt then
        (some
          { prompt := call.prompt.getD defaultPrompt
            commands := (lib.qsort ExternalCommand.key).sort commands },
          if statics.builtinsSorted then
            statics
          else
            { builtins := (lib.qsort Builtin.key).sort statics.builtins
              builtinsSorted := true })
      else
        (none, statics)

/-- A command that was found. -/
inductive Found (σ : Type) where
  | builtin (cmd : Builtin)
  | external (cmd : ExternalCommand σ)

/-- `shell_command_get`, for one type of commands. -/
def shellCommandGetTyped
    (lib : Stdlib)
    (statics : Statics)
    (shell : ShellData σ)
    (name : List UInt8) : CommandType → Option (Found σ)
  | .builtin =>
      ((lib.bsearch Builtin.key).search (some name)
        statics.builtins).map .builtin
  | .external =>
      ((lib.bsearch ExternalCommand.key).search (some name)
        shell.commands).map .external
  | _ => none

/-- `shell_command_get` -/
def shellCommandGet
    (lib : Stdlib)
    (statics : Statics)
    (shell : ShellData σ)
    (name : List UInt8) : CommandType → Option (Found σ)
  | .all =>
      -- the types between `CMD_TYPE_ALL` and `CMD_TYPE_NONE`
      [.builtin, .external].findSome?
        (shellCommandGetTyped lib statics shell name)
  | type => shellCommandGetTyped lib statics shell name type

/-! ## Which command is found -/

/-- The command with a name, where the tables are walked through. -/
def commandNamed
    (given : List (ExternalCommand σ))
    (name : List UInt8) : CommandType → Option (Found σ)
  | .builtin =>
      (shellBuiltins.find? fun cmd => cmd.name = name).map .builtin
  | .external => (given.find? fun cmd => cmd.name = name).map .external
  | .all =>
      ((shellBuiltins.find? fun cmd => cmd.name = name).map .builtin).or
        ((given.find? fun cmd => cmd.name = name).map .external)
  | .none => none

/-- The built-in commands have different names. -/
theorem nodup_builtin_keys : (shellBuiltins.map Builtin.key).Nodup := by
  decide

/-- The table of built-in commands is an arrangement of them. -/
structure Statics.Sound (statics : Statics) : Prop where
  perm : statics.builtins.Perm shellBuiltins
  ordered :
    statics.builtinsSorted = true →
      Ordered cmdcmp Builtin.key statics.builtins

theorem Statics.sound_initial : Statics.initial.Sound where
  perm := List.Perm.refl _
  ordered := by
    rintro ⟨⟩

/-- A shell has the given commands in order, and so has the module its own. -/
structure Tabled
    (statics : Statics)
    (shell : ShellData σ)
    (given : List (ExternalCommand σ)) : Prop where
  perm : shell.commands.Perm given
  ordered : Ordered cmdcmp ExternalCommand.key shell.commands
  builtins : statics.builtinsSorted = true

/-- The shells that were returned, with what was given for each of them. -/
structure Shells (σ : Type) where
  statics : Statics
  created : List (ShellData σ × List (ExternalCommand σ))

/-- A call of `shell_new`. -/
def Shells.call
    (lib : Stdlib)
    (shells : Shells σ)
    (call : NewCall σ) : Shells σ where
  statics := (shellNew lib call shells.statics).2
  created :=
    shells.created ++
      ((shellNew lib call shells.statics).1.map fun shell =>
        (shell, call.commands.getD [])).toList

/-- The calls of `shell_new`, one after the other. -/
def Shells.after
    (lib : Stdlib)
    (calls : List (NewCall σ)) : Shells σ :=
  calls.foldl (Shells.call lib) ⟨Statics.initial, []⟩

/-- What a call of `shell_new` does. -/
theorem shellNew_cases
    (lib : Stdlib)
    (call : NewCall σ)
    (statics : Statics) :
    shellNew lib call statics = (none, statics) ∨
      ∃ given prompt,
        call.commands = some given ∧
          shellNew lib call statics =
            (some
              { prompt := prompt
                commands := (lib.qsort ExternalCommand.key).sort given },
              if statics.builtinsSorted then
                statics
              else
                { builtins :=
                    (lib.qsort Builtin.key).sort statics.builtins
                  builtinsSorted := true }) := by
  rw [shellNew]
  cases commands : call.commands with
  | none => exact Or.inl rfl
  | some given =>
      dsimp only
      split
      · exact Or.inl rfl
      · split
        · exact Or.inr ⟨given, _, rfl, rfl⟩
        · exact Or.inl rfl

/-- A table that is sorted remains one that is sorted. -/
theorem shellNew_statics
    (lib : Stdlib)
    (call : NewCall σ)
    {statics : Statics}
    (sound : statics.Sound) :
    (shellNew lib call statics).2.Sound ∧
      (statics.builtinsSorted = true →
        (shellNew lib call statics).2 = statics) := by
  rcases shellNew_cases lib call statics with
    failed | ⟨given, prompt, _, created⟩
  · rw [failed]
    exact ⟨sound, fun _ => rfl⟩
  · rw [created]
    dsimp only
    split
    · exact ⟨sound, fun _ => rfl⟩
    · rename_i unsorted
      refine ⟨⟨?_, fun _ => ?_⟩, fun sorted => absurd sorted unsorted⟩
      · exact ((lib.qsort Builtin.key).perm _).trans sound.perm
      · exact (lib.qsort Builtin.key).ordered _

/-- A returned shell has its commands in order. -/
theorem shellNew_tabled
    (lib : Stdlib)
    (call : NewCall σ)
    {statics : Statics}
    {shell : ShellData σ}
    (created : (shellNew lib call statics).1 = some shell) :
    Tabled (shellNew lib call statics).2 shell
      (call.commands.getD []) := by
  rcases shellNew_cases lib call statics with
    failed | ⟨given, prompt, commands, succeeded⟩
  · rw [failed] at created
    cases created
  · rw [succeeded] at created ⊢
    cases created
    rw [commands]
    refine
      ⟨(lib.qsort ExternalCommand.key).perm _,
        (lib.qsort ExternalCommand.key).ordered _, ?_⟩
    dsimp only
    split
    · assumption
    · rfl

/-- All shells that were ever returned have their tables in order. -/
structure Shells.Sound (shells : Shells σ) : Prop where
  statics : shells.statics.Sound
  tabled :
    ∀ created ∈ shells.created,
      Tabled shells.statics created.1 created.2

theorem Shells.Sound.call
    (lib : Stdlib)
    {shells : Shells σ}
    (sound : shells.Sound)
    (call : NewCall σ) :
    (shells.call lib call).Sound := by
  obtain ⟨statics, kept⟩ := shellNew_statics lib call sound.statics
  refine ⟨statics, fun created member => ?_⟩
  rcases List.mem_append.mp member with earlier | new
  · have tabled := sound.tabled created earlier
    have same : (shells.call lib call).statics = shells.statics :=
      kept tabled.builtins
    rw [same]
    exact tabled
  · rw [Option.mem_toList, Option.map_eq_some_iff] at new
    obtain ⟨shell, returned, rfl⟩ := new
    exact shellNew_tabled lib call returned

theorem Shells.sound_after
    (lib : Stdlib)
    (calls : List (NewCall σ)) :
    (Shells.after lib calls).Sound := by
  have all :
      ∀ shells : Shells σ,
        shells.Sound → (calls.foldl (Shells.call lib) shells).Sound := by
    induction calls with
    | nil => exact fun _ sound => sound
    | cons call later inductionHypothesis =>
        exact fun shells sound =>
          inductionHypothesis (shells.call lib call) (sound.call lib call)
  exact
    all _ ⟨Statics.sound_initial, fun _ member => absurd member List.not_mem_nil⟩

/-- Commands with different names are found by their names. -/
theorem Tabled.found
    (lib : Stdlib)
    {statics : Statics}
    (sound : statics.Sound)
    {shell : ShellData σ}
    {given : List (ExternalCommand σ)}
    (tabled : Tabled statics shell given)
    (distinct : (given.map ExternalCommand.name).Nodup)
    (name : List UInt8)
    (type : CommandType) :
    shellCommandGet lib statics shell name type =
      commandNamed given name type := by
  have keys : (given.map ExternalCommand.key).Nodup := by
    have sameKeys :
        given.map ExternalCommand.key =
          (given.map ExternalCommand.name).map some := by
      rw [List.map_map]
      rfl
    rw [sameKeys]
    exact distinct.map (Option.some_injective _)
  have builtin :
      shellCommandGetTyped lib statics shell name .builtin =
        commandNamed given name .builtin := by
    rw [shellCommandGetTyped,
      (lib.bsearch Builtin.key).search_perm nodup_builtin_keys sound.perm
        (sound.ordered tabled.builtins)]
    simp only [Builtin.key, Option.some.injEq]
    rfl
  have external :
      shellCommandGetTyped lib statics shell name .external =
        commandNamed given name .external := by
    rw [shellCommandGetTyped,
      (lib.bsearch ExternalCommand.key).search_perm keys tabled.perm
        tabled.ordered]
    simp only [ExternalCommand.key, Option.some.injEq]
    rfl
  cases type with
  | builtin => exact builtin
  | external => exact external
  | none => rfl
  | all =>
      rw [shellCommandGet, List.findSome?_cons, builtin,
        List.findSome?_cons, external, List.findSome?_nil]
      have both :
          commandNamed given name .all =
            (commandNamed given name .builtin).or
              (commandNamed given name .external) :=
        rfl
      rw [both]
      cases commandNamed given name .builtin with
      | some found => rfl
      | none =>
          cases commandNamed given name .external with
          | some found => rfl
          | none => rfl

/--
Whatever shells are made, in every one of them each command with a name of its
own is found by this name, the built-in ones first, and nothing else is found.
-/
theorem shellCommandGet_exact
    (lib : Stdlib)
    (calls : List (NewCall σ))
    {created : ShellData σ × List (ExternalCommand σ)}
    (member : created ∈ (Shells.after lib calls).created)
    (distinct : (created.2.map ExternalCommand.name).Nodup)
    (name : List UInt8)
    (type : CommandType) :
    shellCommandGet lib (Shells.after lib calls).statics created.1 name
        type =
      commandNamed created.2 name type :=
  have sound := Shells.sound_after lib calls
  (sound.tabled created member).found lib sound.statics distinct name type

/-- A shell with a command that is named like a built-in one. -/
def shadowedCalls : List (NewCall Unit) :=
  [{ prompt := none
     commands := none
     mallocShell := true
     mallocCommands := true
     strdupPrompt := true },
    { prompt := none
      commands :=
        some
          [⟨ascii "ping", none, fun _ _ => none⟩,
            ⟨ascii "exit", none, fun _ _ => none⟩]
      mallocShell := true
      mallocCommands := true
      strdupPrompt := true }]

theorem shadowed_exit_found :
    ∃ created ∈ (Shells.after plainStdlib shadowedCalls).created,
      shellCommandGet plainStdlib
          (Shells.after plainStdlib shadowedCalls).statics created.1
          (ascii "exit") .all =
        commandNamed created.2 (ascii "exit") .all :=
  have distinct : [ascii "ping", ascii "exit"].Nodup := by decide
  ⟨(_, _), List.mem_singleton.mpr rfl,
    shellCommandGet_exact plainStdlib shadowedCalls
      (List.mem_singleton.mpr rfl) distinct (ascii "exit") .all⟩

/-! ## The built-in commands -/

/-- What a text that is printed does to the storage that records it. -/
abbrev Console (σ : Type) := List UInt8 → σ → σ

/-- A command has printed a text. -/
def ShellState.printing
    (console : Console σ)
    (text : List UInt8)
    (state : ShellState σ) : ShellState σ :=
  { state with storage := console text state.storage }

/-- The arguments, with blanks between them and a newline behind them. -/
def echoLine : Words → List UInt8
  | [] => []
  | [last] => last ++ [10]
  | argument :: arguments => argument ++ 32 :: echoLine arguments

/-- `_builtin_echo` -/
def builtinEcho
    (console : Console σ)
    (argv : Words)
    (state : ShellState σ) : Option (Int × ShellState σ) :=
  some (0, state.printing console (echoLine argv.tail))

/-- The `name` of a command. -/
def Found.name : Found σ → List UInt8
  | .builtin cmd => cmd.name
  | .external cmd => cmd.name

/-- The `help` of a command. -/
def Found.help : Found σ → Option (List UInt8)
  | .builtin cmd => some cmd.helpText
  | .external cmd => cmd.help

/-- `_print_command_list` -/
def commandList
    (statics : Statics)
    (shell : ShellData σ) : List UInt8 :=
  let lines (names : List (List UInt8)) : List UInt8 :=
    (names.map fun name => ascii " - " ++ name ++ [10]).flatten
  ascii "\nBuilt-in commands: " ++
      ascii (toString statics.builtins.length) ++ [10] ++
    lines (statics.builtins.map Builtin.name) ++
    ascii "\nExternal commands: " ++
      ascii (toString shell.commands.length) ++ [10] ++
    lines (shell.commands.map ExternalCommand.name) ++ [10]

/-- `_print_command_specific_help` -/
def specificHelp (cmd : Found σ) : List UInt8 :=
  match cmd.help with
  | some help => help ++ [10]
  | none => ascii "No help for command " ++ cmd.name ++ [10]

/-- The message for a name that nothing has. -/
def unknownCommand (name : List UInt8) : List UInt8 :=
  ascii "Unknown command: " ++ name ++ [10]

section Building

variable (lib : Stdlib) (console : Console σ)
variable (statics : Statics) (shell : ShellData σ)

/-- `_builtin_help` -/
def builtinHelp
    (argv : Words)
    (state : ShellState σ) : Option (Int × ShellState σ) :=
  match argv with
  | [_] => some (0, state.printing console (commandList statics shell))
  | [_, name] =>
      match shellCommandGet lib statics shell name .all with
      | some cmd => some (0, state.printing console (specificHelp cmd))
      | none => some (2, state.printing console (unknownCommand name))
  | _ => some (1, state)

/-- What `exec` does with the shell, or with its storage. -/
def Found.exec : Found σ → Words → ShellState σ → Option (Int × ShellState σ)
  | .builtin .echo => builtinEcho console
  | .builtin .help => builtinHelp lib console statics shell
  | .builtin .exit => builtinExit.exec
  | .external cmd => fun argv state =>
      (cmd.exec argv state.storage).map fun returned =>
        (returned.1, { state with storage := returned.2 })

/-- A command as the shell calls it. -/
def Found.command (cmd : Found σ) : ShellCommand σ where
  help := cmd.help
  exec := cmd.exec lib console statics shell

/-- The shell with its lookup. -/
def ShellData.toShell : Shell σ where
  prompt := shell.prompt
  get name type :=
    (shellCommandGet lib statics shell name type).map
      (Found.command lib console statics shell)

variable {statics shell}

/-- The command that a word stands for is executed. -/
theorem execute_of_found
    (sound : statics.Sound)
    {given : List (ExternalCommand σ)}
    (tabled : Tabled statics shell given)
    (distinct : (given.map ExternalCommand.name).Nodup)
    {name : List UInt8}
    {cmd : Found σ}
    (named : commandNamed given name .all = some cmd)
    (arguments : Words)
    (state : ShellState σ) :
    execute (shell.toShell lib console statics) (name :: arguments) state =
      (cmd.command lib console statics shell).run (name :: arguments)
        state := by
  have found := tabled.found lib sound distinct name
  rw [execute, List.headD_cons, ShellData.toShell]
  dsimp only
  rw [found, found]
  have both :
      commandNamed given name .all =
        (commandNamed given name .builtin).or
          (commandNamed given name .external) :=
    rfl
  rw [both] at named
  cases builtin : commandNamed given name .builtin with
  | some first =>
      rw [builtin] at named
      cases named
      rfl
  | none =>
      rw [builtin, Option.none_or] at named
      rw [named]
      rfl

/-- A word that stands for nothing is reported. -/
theorem execute_of_unnamed
    (sound : statics.Sound)
    {given : List (ExternalCommand σ)}
    (tabled : Tabled statics shell given)
    (distinct : (given.map ExternalCommand.name).Nodup)
    {name : List UInt8}
    (unnamed : commandNamed given name .all = none)
    (arguments : Words)
    (state : ShellState σ) :
    execute (shell.toShell lib console statics) (name :: arguments) state =
      some (127, state, [.commandNotFound name]) := by
  have found := tabled.found lib sound distinct name
  have both :
      commandNamed given name .all =
        (commandNamed given name .builtin).or
          (commandNamed given name .external) :=
    rfl
  rw [both, Option.or_eq_none_iff] at unnamed
  rw [execute, List.headD_cons, ShellData.toShell]
  dsimp only
  rw [found, found, unnamed.1, unnamed.2]
  rfl

/-- What is found has the name that was looked for. -/
theorem name_of_commandNamed
    {given : List (ExternalCommand σ)}
    {name : List UInt8}
    {cmd : Found σ}
    (named : commandNamed given name .all = some cmd) :
    cmd.name = name := by
  rw [commandNamed, Option.or_eq_some_iff] at named
  rcases named with builtin | ⟨_, external⟩
  · obtain ⟨found, search, rfl⟩ := Option.map_eq_some_iff.mp builtin
    have same := List.find?_some search
    exact of_decide_eq_true same
  · obtain ⟨found, search, rfl⟩ := Option.map_eq_some_iff.mp external
    have same := List.find?_some search
    exact of_decide_eq_true same

/-- `help` with the name of a command. -/
theorem run_help
    (name : List UInt8)
    (state : ShellState σ) :
    (Found.command lib console statics shell (.builtin .help)).run
        [ascii "help", name] state =
      some
        ((shellCommandGet lib statics shell name .all).elim
          (2, state.printing console (unknownCommand name), [])
          fun cmd => (0, state.printing console (specificHelp cmd), [])) := by
  rw [ShellCommand.run, Found.command]
  dsimp only
  rw [Found.exec, builtinHelp]
  cases shellCommandGet lib statics shell name .all with
  | some cmd => rfl
  | none => rfl

/-- A shell that was returned, with the tables as they are now. -/
def Shells.toShell
    (lib : Stdlib)
    (console : Console σ)
    (shells : Shells σ)
    (created : ShellData σ) : Shell σ :=
  created.toShell lib console shells.statics

/--
`help` describes the very command that a name would execute, and knows no other
names than those under which something is executed.
-/
theorem help_describes_executed
    (calls : List (NewCall σ))
    {created : ShellData σ × List (ExternalCommand σ)}
    (member : created ∈ (Shells.after lib calls).created)
    (distinct : (created.2.map ExternalCommand.name).Nodup)
    (name : List UInt8)
    (arguments : Words)
    (state : ShellState σ) :
    (∃ cmd : Found σ,
        cmd.name = name ∧
          execute ((Shells.after lib calls).toShell lib console created.1)
              (name :: arguments) state =
            (cmd.command lib console (Shells.after lib calls).statics
              created.1).run (name :: arguments) state ∧
          execute ((Shells.after lib calls).toShell lib console created.1)
              [ascii "help", name] state =
            some (0, state.printing console (specificHelp cmd), [])) ∨
      execute ((Shells.after lib calls).toShell lib console created.1)
            (name :: arguments) state =
          some (127, state, [.commandNotFound name]) ∧
        execute ((Shells.after lib calls).toShell lib console created.1)
            [ascii "help", name] state =
          some (2, state.printing console (unknownCommand name), []) := by
  have all := Shells.sound_after lib calls
  have tabled := all.tabled created member
  have helpNamed :
      commandNamed created.2 (ascii "help") .all =
        some (.builtin .help) :=
    rfl
  have helped :=
    execute_of_found lib console all.statics tabled distinct helpNamed [name]
      state
  rw [run_help, tabled.found lib all.statics distinct name .all] at helped
  cases named : commandNamed created.2 name .all with
  | some cmd =>
      rw [named] at helped
      exact
        Or.inl
          ⟨cmd, name_of_commandNamed named,
            execute_of_found lib console all.statics tabled distinct named
              arguments state, helped⟩
  | none =>
      rw [named] at helped
      exact
        Or.inr
          ⟨execute_of_unnamed lib console all.statics tabled distinct named
            arguments state, helped⟩

end Building

theorem shadowed_exit_described :
    ∃ created ∈ (Shells.after plainStdlib shadowedCalls).created,
      (∃ cmd : Found Unit,
          cmd.name = ascii "exit" ∧
            execute
                ((Shells.after plainStdlib shadowedCalls).toShell
                  plainStdlib (fun _ _ => ()) created.1)
                [ascii "exit"] ⟨0, ()⟩ =
              (cmd.command plainStdlib (fun _ _ => ())
                (Shells.after plainStdlib shadowedCalls).statics
                created.1).run [ascii "exit"] ⟨0, ()⟩ ∧
            execute
                ((Shells.after plainStdlib shadowedCalls).toShell
                  plainStdlib (fun _ _ => ()) created.1)
                [ascii "help", ascii "exit"] ⟨0, ()⟩ =
              some (0, ⟨0, ()⟩, [])) ∨
        execute
              ((Shells.after plainStdlib shadowedCalls).toShell plainStdlib
                (fun _ _ => ()) created.1)
              [ascii "exit"] ⟨0, ()⟩ =
            some (127, ⟨0, ()⟩, [.commandNotFound (ascii "exit")]) ∧
          execute
              ((Shells.after plainStdlib shadowedCalls).toShell plainStdlib
                (fun _ _ => ()) created.1)
              [ascii "help", ascii "exit"] ⟨0, ()⟩ =
            some (2, ⟨0, ()⟩, []) :=
  have distinct : [ascii "ping", ascii "exit"].Nodup := by decide
  ⟨(_, _), List.mem_singleton.mpr rfl,
    help_describes_executed plainStdlib (fun _ _ => ()) shadowedCalls
      (List.mem_singleton.mpr rfl) distinct (ascii "exit") [] ⟨0, ()⟩⟩

end Ammc.Client
