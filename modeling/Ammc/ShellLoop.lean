import Ammc.ShellLine

namespace Ammc.Client

open ByteMemory Tokens

/-!
# The loop of the shell

`shell_loop` reads a piece of its input with `fgets` and hands it to
`_shell_exec`, until the input is at its end or a command makes it leave.  What
the commands do is a parameter of the shell: a command may also never return.
The loop is run round by round, so that one that never ends remains visible.
-/

/-- The words of a command line, the name of the command first. -/
abbrev Words := List (List UInt8)

/-- `SH_SIG_EXIT` -/
def shSigExit : UInt8 := 1

/-- `SH_SCRIPT_MODE` -/
def shScriptMode : UInt8 := 2

/-- `SH_EXIT_ON_ERR` -/
def shExitOnErr : UInt8 := 4

/-- What a command may change: the flags of the shell, and its storage. -/
structure ShellState (σ : Type) where
  flags : UInt8
  storage : σ

/-- `shell_flag_get` -/
def shellFlagGet
    (state : ShellState σ)
    (flag : UInt8) : Bool :=
  state.flags &&& flag ≠ 0

/-- `command_type_t` -/
inductive CommandType where
  | all
  | builtin
  | external
  | none
  deriving Repr, DecidableEq

/-- `shell_command_t`; a command that never returns has no result. -/
structure ShellCommand (σ : Type) where
  help : Option (List UInt8)
  exec : Words → ShellState σ → Option (Int × ShellState σ)

/-- `shell_t`; `shell_new` always sets the lookup of commands. -/
structure Shell (σ : Type) where
  prompt : List UInt8
  get : List UInt8 → CommandType → Option (ShellCommand σ)

/-- What the shell itself prints. -/
inductive Message where
  | prompt (text : List UInt8)
  | help (text : List UInt8)
  | commandNotFound (name : List UInt8)
  | readError
  | goodBye
  deriving Repr, DecidableEq

/-- A command is run, and its help is shown if it reports a syntax error. -/
def ShellCommand.run
    (cmd : ShellCommand σ)
    (argv : Words)
    (state : ShellState σ) :
    Option (Int × ShellState σ × List Message) :=
  match cmd.exec argv state with
  | none => none
  | some (ret, state) =>
      some
        (ret, state,
          if ret = 1 then cmd.help.toList.map Message.help else [])

/-- `_execute` -/
def execute
    (shell : Shell σ)
    (argv : Words)
    (state : ShellState σ) :
    Option (Int × ShellState σ × List Message) :=
  match shell.get (argv.headD []) .builtin with
  | some cmd => cmd.run argv state
  | none =>
      match shell.get (argv.headD []) .external with
      | some cmd => cmd.run argv state
      | none => some (127, state, [.commandNotFound (argv.headD [])])

/-- What becomes of a string that is handed to `_shell_exec`. -/
inductive Verdict (σ : Type) where
  | overrun
  | blank
  | executed
      (argv : Words)
      (result : Option (Int × ShellState σ × List Message))

/-- The strings that `tokenize_line` has left in `argv`. -/
def argvWords (line : List UInt8) : Words :=
  let (argc, argv) := tokenizeLine line (Argv.uninitialised fun _ => none)
  (List.range argc).map fun index => (argv.entry index).getD []

/-- `tokenize_line` has assigned an element behind the array. -/
def overrunsArgv (line : List UInt8) : Bool :=
  (tokenizeLine line (Argv.uninitialised fun _ => none)).2.written.any
    fun index => argvLength ≤ index

/-- `_shell_exec` -/
def shellExec
    (shell : Shell σ)
    (line : List UInt8)
    (state : ShellState σ) : Verdict σ :=
  if overrunsArgv line then
    .overrun
  else if (argvWords line).length = 0 then
    .blank
  else
    .executed (argvWords line) (execute shell (argvWords line) state)

/--
Where the loop is: in the middle of it, behind it, in a command that never
returns, or beyond what the language defines.
-/
inductive Status where
  | running
  | left
  | hung
  | undefined
  deriving Repr, DecidableEq

/-- The variables of the loop, what it has executed and what it has printed. -/
structure Looping (σ : Type) where
  input : Input
  state : ShellState σ
  executed : List Words
  printed : List Message
  status : Status

/-- `_prompt` -/
def prompted
    (shell : Shell σ)
    (state : ShellState σ) : List Message :=
  if shellFlagGet state shScriptMode then [] else [.prompt shell.prompt]

/-- The loop is left, and says so. -/
def Looping.leave (loop : Looping σ) : Looping σ :=
  { loop with
    status := .left
    printed :=
      loop.printed ++
        if shellFlagGet loop.state shScriptMode then [] else [.goodBye] }

/-- What follows a return of `_shell_exec`. -/
def Looping.judge
    (shell : Shell σ)
    (loop : Looping σ)
    (ret : Int) : Looping σ :=
  if ret ≠ 0 ∧ shellFlagGet loop.state shExitOnErr then
    loop.leave
  else if shellFlagGet loop.state shSigExit then
    loop.leave
  else
    { loop with printed := loop.printed ++ prompted shell loop.state }

/-- A read has failed: the loop goes on with what is left, if anything. -/
def Looping.skip
    (loop : Looping σ)
    (left : Input) : Looping σ :=
  { loop with
    input := left
    printed := loop.printed ++ [.readError] }

/-- One round of `shell_loop`. -/
def Looping.round
    (shell : Shell σ)
    (loop : Looping σ) : Looping σ :=
  match fgets (shellLineMaxLen + 2) loop.input with
  | (none, left) =>
      if left.ending = .endOfFile then
        { loop with input := left }.leave
      else
        loop.skip left
  | (some characters, left) =>
      let loop := { loop with input := left }
      match shellExec shell (characters.takeWhile (· ≠ 0)) loop.state with
      | .overrun => { loop with status := .undefined }
      | .blank => loop.judge shell 0
      | .executed argv none =>
          { loop with
            executed := loop.executed ++ [argv]
            status := .hung }
      | .executed argv (some (ret, state, messages)) =>
          { loop with
            state := state
            executed := loop.executed ++ [argv]
            printed := loop.printed ++ messages }.judge shell ret

/-- Some rounds, as long as the loop is running. -/
def Looping.after
    (shell : Shell σ)
    (loop : Looping σ) : Nat → Looping σ
  | 0 => loop
  | count + 1 =>
      if loop.status = .running then
        (loop.round shell).after shell count
      else
        loop

/-- `shell_loop`, after some rounds. -/
def shellLoop
    (shell : Shell σ)
    (input : Input)
    (state : ShellState σ)
    (rounds : Nat) : Looping σ :=
  Looping.after shell
    { input := input
      state := state
      executed := []
      printed := prompted shell state
      status := .running }
    rounds

/-! ## Reading the pieces -/

/-- What is read up to a newline is the beginning of the input. -/
theorem upToNewline_prefix
    (limit : Nat)
    (characters : List UInt8) :
    upToNewline limit characters <+: characters := by
  induction limit, characters using upToNewline.induct with
  | case1 characters => exact List.nil_prefix
  | case2 limit => exact List.nil_prefix
  | case3 limit characters =>
      rw [upToNewline, if_pos rfl]
      exact List.prefix_append [10] characters
  | case4 limit c characters other inductionHypothesis =>
      rw [upToNewline, if_neg other]
      exact (List.prefix_cons_inj c).mpr inductionHypothesis

/-- Reading stops early at a newline or at the end only. -/
theorem upToNewline_eq_of_early
    {limit : Nat}
    {characters : List UInt8}
    (early : (upToNewline limit characters).length < limit)
    (unfinished : (upToNewline limit characters).getLast? ≠ some 10) :
    upToNewline limit characters = characters := by
  induction limit, characters using upToNewline.induct with
  | case1 characters => exact absurd early (Nat.not_lt_zero _)
  | case2 limit => rfl
  | case3 limit characters =>
      rw [upToNewline, if_pos rfl] at unfinished
      exact absurd rfl unfinished
  | case4 limit c characters other inductionHypothesis =>
      rw [upToNewline, if_neg other] at early unfinished ⊢
      rw [inductionHypothesis (Nat.lt_of_succ_lt_succ early)]
      intro newline
      apply unfinished
      rw [List.getLast?_cons, newline]
      rfl

/-- A read brings the next piece, or there is none and nothing is left. -/
theorem fgets_cases (input : Input) :
    (fgets (shellLineMaxLen + 2) input = (none, ⟨[], input.ending⟩) ∧
        (input.characters = [] ∨ input.ending = .readError)) ∨
      ∃ piece rest,
        piece ≠ [] ∧
          piece = upToNewline (shellLineMaxLen + 1) input.characters ∧
          input.characters = piece ++ rest ∧
          fgets (shellLineMaxLen + 2) input =
            (some piece, ⟨rest, input.ending⟩) := by
  have limit : shellLineMaxLen + 2 - 1 = shellLineMaxLen + 1 :=
    rfl
  rw [fgets, limit]
  generalize found :
    upToNewline (shellLineMaxLen + 1) input.characters = piece
  by_cases empty : piece = []
  · have nothing : input.characters = [] := by
      rw [← found] at empty
      have whole :=
        @upToNewline_eq_of_early (shellLineMaxLen + 1) input.characters
          (by rw [empty]; exact Nat.zero_lt_succ _)
          (by rw [empty]; exact Option.some_ne_none 10 ∘ Eq.symm)
      rw [← whole, empty]
    rw [if_pos empty, nothing, List.drop_nil]
    exact Or.inl ⟨rfl, Or.inl rfl⟩
  · rw [if_neg empty]
    by_cases interrupted :
        piece.length < shellLineMaxLen + 1 ∧ piece.getLast? ≠ some 10 ∧
          input.ending = .readError
    · obtain ⟨early, unfinished, failing⟩ := interrupted
      have whole : piece = input.characters := by
        rw [← found] at early unfinished ⊢
        exact upToNewline_eq_of_early early unfinished
      rw [if_pos ⟨early, unfinished, failing⟩, whole, List.drop_length]
      exact Or.inl ⟨rfl, Or.inr failing⟩
    · rw [if_neg interrupted]
      obtain ⟨rest, split⟩ :=
        upToNewline_prefix (shellLineMaxLen + 1) input.characters
      rw [found] at split
      rw [← split, List.drop_left]
      exact Or.inr ⟨piece, rest, empty, rfl, rfl, rfl⟩

/-- What a successful read leaves is shorter. -/
theorem length_left_lt
    {input left : Input}
    {piece : List UInt8}
    (read : fgets (shellLineMaxLen + 2) input = (some piece, left)) :
    left.characters.length < input.characters.length := by
  rcases fgets_cases input with ⟨nothing, _⟩ | ⟨_, rest, nonempty, _, split, found⟩
  · rw [nothing] at read
    cases read
  · rw [found] at read
    cases read
    have positive := List.length_pos_iff.mpr nonempty
    rw [split, List.length_append]
    exact Nat.lt_add_of_pos_left positive

/-- The pieces in which the loop reads an input. -/
def pieces (input : Input) : List (List UInt8) :=
  match _ : fgets (shellLineMaxLen + 2) input with
  | (none, _) => []
  | (some piece, left) => piece :: pieces left
termination_by input.characters.length
decreasing_by exact length_left_lt (by assumption)

theorem pieces_of_none
    {input left : Input}
    (read : fgets (shellLineMaxLen + 2) input = (none, left)) :
    pieces input = [] := by
  rw [pieces]
  split
  · rfl
  · rename_i other
    rw [read] at other
    cases other

theorem pieces_of_some
    {input left : Input}
    {piece : List UInt8}
    (read : fgets (shellLineMaxLen + 2) input = (some piece, left)) :
    pieces input = piece :: pieces left := by
  rw [pieces]
  split
  · rename_i other
    rw [read] at other
    cases other
  · rename_i other
    rw [read] at other
    cases other
    rfl

/-- The words of the pieces; a string ends at its first NUL. -/
def pieceWords (input : Input) : List Words :=
  (pieces input).map fun piece =>
    tokens isDelimiter (piece.takeWhile (· ≠ 0))

/-! ## The words of a piece -/

theorem argvWords_eq (line : List UInt8) :
    argvWords line = tokens isDelimiter line := by
  have length :
      (tokenizeLine line (Argv.uninitialised fun _ => none)).1 =
        (tokens isDelimiter line).length := by
    rw [tokenizeLine_eq]
  apply List.ext_getElem
  · rw [argvWords]
    dsimp only
    rw [List.length_map, List.length_range, length]
  · intro index inArgv inTokens
    have counted :
        index ≤ (tokenizeLine line (Argv.uninitialised fun _ => none)).1 := by
      rw [length]
      exact Nat.le_of_lt inTokens
    simp only [argvWords, List.getElem_map, List.getElem_range]
    rw [entry_tokenizeLine line _ counted,
      List.getElem?_eq_getElem inTokens]
    rfl

/-- More words than the array `argv` holds, with the `NULL` behind them. -/
def tooMany (words : Words) : Bool :=
  argvLength ≤ words.length

theorem overrunsArgv_eq (line : List UInt8) :
    overrunsArgv line = tooMany (tokens isDelimiter line) := by
  rw [Bool.eq_iff_iff, overrunsArgv, tooMany, List.any_eq_true,
    decide_eq_true_iff]
  constructor
  · rintro ⟨index, assigned, outside⟩
    have upTo := (mem_written_tokenizeLine line _ index).mp assigned
    exact Nat.le_trans (of_decide_eq_true outside) upTo
  · intro many
    exact
      ⟨_, (mem_written_tokenizeLine line _ _).mpr (Nat.le_refl _),
        decide_eq_true many⟩

/-! ## What the rounds come to -/

/-- Why no further command is executed. -/
inductive Stop (σ : Type) where
  | exhausted (state : ShellState σ)
  | stopped (state : ShellState σ)
  | hung
  | undefined

/-- A return that makes the loop leave. -/
def leaves
    (ret : Int)
    (state : ShellState σ) : Bool :=
  (ret ≠ 0 && shellFlagGet state shExitOnErr) ||
    shellFlagGet state shSigExit

/--
Commands are executed one after the other, with the words of each; `overruns`
tells which words cannot be held.  A line without words has no command.
-/
def runWords
    (shell : Shell σ)
    (overruns : Words → Bool) :
    List Words → ShellState σ → List Words × Stop σ
  | [], state => ([], .exhausted state)
  | words :: rest, state =>
      if overruns words then
        ([], .undefined)
      else if words = [] then
        if shellFlagGet state shSigExit then
          ([], .stopped state)
        else
          runWords shell overruns rest state
      else
        match execute shell words state with
        | none => ([words], .hung)
        | some (ret, after, _) =>
            if leaves ret after then
              ([words], .stopped after)
            else
              let later := runWords shell overruns rest after
              (words :: later.1, later.2)

/-- The status in which the loop stays. -/
def Stop.status (ending : Ending) : Stop σ → Status
  | .exhausted _ =>
      match ending with
      | .endOfFile => .left
      | .readError => .running
  | .stopped _ => .left
  | .hung => .hung
  | .undefined => .undefined

/-- The state of the shell then. -/
def Stop.state : Stop σ → Option (ShellState σ)
  | .exhausted state => some state
  | .stopped state => some state
  | .hung => none
  | .undefined => none

/-- The loop has come to the outcome, after the commands in `earlier`. -/
structure Settled
    (ending : Ending)
    (earlier : List Words)
    (outcome : List Words × Stop σ)
    (loop : Looping σ) : Prop where
  executed : loop.executed = earlier ++ outcome.1
  status : loop.status = outcome.2.status ending
  state : ∀ state, outcome.2.state = some state → loop.state = state

/-- A loop that is not running stays as it is. -/
theorem after_of_over
    (shell : Shell σ)
    {loop : Looping σ}
    (ended : loop.status ≠ .running)
    (count : Nat) :
    loop.after shell count = loop := by
  cases count with
  | zero => rfl
  | succ count => rw [Looping.after, if_neg ended]

theorem after_of_running
    (shell : Shell σ)
    {loop : Looping σ}
    (running : loop.status = .running)
    (count : Nat) :
    loop.after shell (count + 1) = (loop.round shell).after shell count := by
  rw [Looping.after, if_pos running]

/-- A settled loop that is not running is settled for good. -/
theorem settled_of_over
    {shell : Shell σ}
    {ending : Ending}
    {earlier : List Words}
    {outcome : List Words × Stop σ}
    {loop : Looping σ}
    (settled : Settled ending earlier outcome loop)
    (ended : loop.status ≠ .running)
    (count : Nat) :
    Settled ending earlier outcome (loop.after shell count) := by
  rwa [after_of_over shell ended]

/-- Without anything to read after an error, the loop goes round and round. -/
theorem after_readError
    (shell : Shell σ)
    {loop : Looping σ}
    (running : loop.status = .running)
    (exhausted : pieces loop.input = [])
    (failing : loop.input.ending = .readError)
    (count : Nat) :
    Settled .readError loop.executed ([], .exhausted loop.state)
      (loop.after shell count) := by
  induction count generalizing loop with
  | zero =>
      exact
        ⟨(List.append_nil _).symm, running, fun _ same =>
          Option.some.inj same⟩
  | succ count inductionHypothesis =>
      rw [after_of_running shell running]
      rcases fgets_cases loop.input with
        ⟨nothing, _⟩ | ⟨_, _, _, _, _, found⟩
      · have round :
            loop.round shell = loop.skip ⟨[], loop.input.ending⟩ := by
          rw [Looping.round, nothing]
          dsimp only
          rw [if_neg (failing ▸ Ending.noConfusion)]
        have again : pieces ⟨[], loop.input.ending⟩ = [] :=
          @pieces_of_none ⟨[], loop.input.ending⟩
            ⟨[], loop.input.ending⟩ rfl
        rw [round]
        exact
          @inductionHypothesis (loop.skip ⟨[], loop.input.ending⟩) running
            again failing
      · rw [pieces_of_some found] at exhausted
        cases exhausted

/-- The loop comes to the outcome and stays there. -/
def Settles
    (shell : Shell σ)
    (loop : Looping σ)
    (ending : Ending)
    (earlier : List Words)
    (outcome : List Words × Stop σ) : Prop :=
  ∃ bound,
    ∀ count,
      bound ≤ count →
      Settled ending earlier outcome (loop.after shell count)

/-- What the loop comes to after one more round, it comes to. -/
theorem Settles.of_round
    {shell : Shell σ}
    {loop next : Looping σ}
    {ending : Ending}
    {earlier : List Words}
    {outcome : List Words × Stop σ}
    (running : loop.status = .running)
    (round : loop.round shell = next)
    (settles : Settles shell next ending earlier outcome) :
    Settles shell loop ending earlier outcome := by
  obtain ⟨bound, settled⟩ := settles
  refine ⟨bound + 1, fun count late => ?_⟩
  obtain ⟨further, rfl⟩ := Nat.exists_eq_add_of_le late
  rw [Nat.add_right_comm, after_of_running shell running, round]
  exact settled _ (Nat.le_add_right _ _)

/-- A loop that is over has come to its outcome. -/
theorem Settles.of_over
    {shell : Shell σ}
    {loop : Looping σ}
    {ending : Ending}
    {earlier : List Words}
    {outcome : List Words × Stop σ}
    (settled : Settled ending earlier outcome loop)
    (ended : loop.status ≠ .running) :
    Settles shell loop ending earlier outcome :=
  ⟨0, fun count _ => settled_of_over settled ended count⟩

/-- A command that was executed is the first of the outcome. -/
theorem Settles.cons
    {shell : Shell σ}
    {loop : Looping σ}
    {ending : Ending}
    {earlier : List Words}
    {words : Words}
    {outcome : List Words × Stop σ}
    (settles : Settles shell loop ending (earlier ++ [words]) outcome) :
    Settles shell loop ending earlier
      (words :: outcome.1, outcome.2) := by
  obtain ⟨bound, settled⟩ := settles
  refine ⟨bound, fun count late => ?_⟩
  obtain ⟨executed, status, state⟩ := settled count late
  refine ⟨?_, status, state⟩
  rw [executed, List.append_assoc]
  rfl

theorem shellExec_eq
    (shell : Shell σ)
    (line : List UInt8)
    (state : ShellState σ) :
    shellExec shell line state =
      if tooMany (tokens isDelimiter line) then
        .overrun
      else if tokens isDelimiter line = [] then
        .blank
      else
        .executed (tokens isDelimiter line)
          (execute shell (tokens isDelimiter line) state) := by
  rw [shellExec, overrunsArgv_eq, argvWords_eq]
  by_cases many : tooMany (tokens isDelimiter line) = true
  · rw [if_pos many, if_pos many]
  · rw [if_neg many, if_neg many]
    by_cases blank : tokens isDelimiter line = []
    · rw [if_pos (List.length_eq_zero_iff.mpr blank), if_pos blank]
    · rw [if_neg (mt List.length_eq_zero_iff.mp blank), if_neg blank]

/-- The loop is left where the return makes it leave. -/
theorem judge_eq
    (shell : Shell σ)
    (loop : Looping σ)
    (ret : Int) :
    loop.judge shell ret =
      if leaves ret loop.state then
        loop.leave
      else
        { loop with
          printed := loop.printed ++ prompted shell loop.state } := by
  rw [Looping.judge, leaves]
  by_cases failed : ret ≠ 0 ∧ shellFlagGet loop.state shExitOnErr = true
  · rw [if_pos failed, if_pos]
    simp [failed]
  · rw [if_neg failed]
    by_cases exits : shellFlagGet loop.state shSigExit = true
    · rw [if_pos exits, if_pos]
      simp [exits]
    · rw [if_neg exits, if_neg]
      simp only [Bool.or_eq_true, Bool.and_eq_true, decide_eq_true_eq,
        not_or]
      exact ⟨failed, exits⟩

/-- A leave settles the loop. -/
theorem settled_leave
    {loop : Looping σ}
    {ending : Ending} :
    Settled ending loop.executed ([], .stopped loop.state) loop.leave :=
  ⟨(List.append_nil _).symm, rfl, fun _ same => Option.some.inj same⟩

/-- After a return that is no reason to leave, the loop reads on. -/
theorem settles_judge
    {shell : Shell σ}
    {loop : Looping σ}
    {ret : Int}
    {later : List Words × Stop σ}
    (continues :
      leaves ret loop.state = false →
      ∀ next : Looping σ,
        next.input = loop.input →
        next.state = loop.state →
        next.executed = loop.executed →
        next.status = loop.status →
        Settles shell next loop.input.ending loop.executed later) :
    Settles shell (loop.judge shell ret) loop.input.ending loop.executed
      (if leaves ret loop.state then ([], .stopped loop.state)
        else later) := by
  rw [judge_eq]
  cases leaving : leaves ret loop.state with
  | true =>
      rw [if_pos rfl, if_pos rfl]
      exact .of_over settled_leave Status.noConfusion
  | false =>
      rw [if_neg Bool.noConfusion, if_neg Bool.noConfusion]
      exact continues leaving _ rfl rfl rfl rfl

/-- A command that hangs, or words that do not fit, are the end. -/
theorem settles_stuck
    {shell : Shell σ}
    {loop : Looping σ}
    {ending : Ending}
    {earlier executed : List Words}
    {stop : Stop σ}
    (all : loop.executed = earlier ++ executed)
    (status : loop.status = stop.status ending)
    (stateless : stop.state = none)
    (ended : loop.status ≠ .running) :
    Settles shell loop ending earlier (executed, stop) := by
  refine .of_over ⟨all, status, fun state same => ?_⟩ ended
  rw [stateless] at same
  cases same

section Round

variable {shell : Shell σ} {loop : Looping σ}
variable {piece : List UInt8} {left : Input}

/-- A piece that was read is handed to `_shell_exec`. -/
theorem round_overrun
    (found :
      fgets (shellLineMaxLen + 2) loop.input = (some piece, left))
    (executes :
      shellExec shell (piece.takeWhile (· ≠ 0)) loop.state = .overrun) :
    loop.round shell =
      { loop with
        input := left
        status := .undefined } := by
  rw [Looping.round, found]
  dsimp only
  rw [executes]

theorem round_blank
    (found :
      fgets (shellLineMaxLen + 2) loop.input = (some piece, left))
    (executes :
      shellExec shell (piece.takeWhile (· ≠ 0)) loop.state = .blank) :
    loop.round shell = { loop with input := left }.judge shell 0 := by
  rw [Looping.round, found]
  dsimp only
  rw [executes]

theorem round_hung
    {argv : Words}
    (found :
      fgets (shellLineMaxLen + 2) loop.input = (some piece, left))
    (executes :
      shellExec shell (piece.takeWhile (· ≠ 0)) loop.state =
        .executed argv none) :
    loop.round shell =
      { loop with
        input := left
        executed := loop.executed ++ [argv]
        status := .hung } := by
  rw [Looping.round, found]
  dsimp only
  rw [executes]

theorem round_returned
    {argv : Words}
    {ret : Int}
    {after : ShellState σ}
    {messages : List Message}
    (found :
      fgets (shellLineMaxLen + 2) loop.input = (some piece, left))
    (executes :
      shellExec shell (piece.takeWhile (· ≠ 0)) loop.state =
        .executed argv (some (ret, after, messages))) :
    loop.round shell =
      { loop with
        input := left
        state := after
        executed := loop.executed ++ [argv]
        printed := loop.printed ++ messages }.judge shell ret := by
  rw [Looping.round, found]
  dsimp only
  rw [executes]

end Round

/-- What a piece comes to, in front of what follows. -/
theorem settles_read
    {shell : Shell σ}
    {loop : Looping σ}
    {piece : List UInt8}
    {left : Input}
    {later : List Words}
    (running : loop.status = .running)
    (found :
      fgets (shellLineMaxLen + 2) loop.input = (some piece, left))
    (continues :
      ∀ next : Looping σ,
        next.input = left →
        next.status = .running →
        Settles shell next left.ending next.executed
          (runWords shell tooMany later next.state)) :
    Settles shell loop left.ending loop.executed
      (runWords shell tooMany
        (tokens isDelimiter (piece.takeWhile (· ≠ 0)) :: later)
        loop.state) := by
  have executes :=
    shellExec_eq shell (piece.takeWhile (· ≠ 0)) loop.state
  generalize tokens isDelimiter (piece.takeWhile (· ≠ 0)) = words
    at executes
  rw [runWords]
  by_cases many : tooMany words = true
  · rw [if_pos many] at executes ⊢
    exact
      .of_round running (round_overrun found executes)
        (settles_stuck (List.append_nil _).symm rfl rfl
          Status.noConfusion)
  · rw [if_neg many] at executes ⊢
    by_cases blank : words = []
    · rw [if_pos blank] at executes ⊢
      refine
        .of_round running (round_blank found executes) (settles_judge ?_)
      intro _ next input state executed status
      have settles := continues next input (status.trans running)
      rwa [executed, state] at settles
    · rw [if_neg blank] at executes ⊢
      cases result : execute shell words loop.state with
      | none =>
          rw [result] at executes
          exact
            .of_round running (round_hung found executes)
              (settles_stuck rfl rfl rfl Status.noConfusion)
      | some returned =>
          obtain ⟨ret, after, messages⟩ := returned
          rw [result] at executes
          refine .of_round running (round_returned found executes) ?_
          have judged :=
            @settles_judge σ shell
              { loop with
                input := left
                state := after
                executed := loop.executed ++ [words]
                printed := loop.printed ++ messages }
              ret (runWords shell tooMany later after)
              fun _ next input state executed status => by
                have settles :=
                  continues next input (status.trans running)
                rwa [executed, state] at settles
          have first := Settles.cons judged
          dsimp only
          cases leaving : leaves ret after with
          | true =>
              rw [leaving, if_pos rfl] at first
              rw [if_pos rfl]
              exact first
          | false =>
              rw [leaving, if_neg Bool.noConfusion] at first
              rw [if_neg Bool.noConfusion]
              exact first

/-- The loop comes to what the words of its pieces come to. -/
theorem loop_settles
    (shell : Shell σ)
    {loop : Looping σ}
    (running : loop.status = .running) :
    Settles shell loop loop.input.ending loop.executed
      (runWords shell tooMany (pieceWords loop.input) loop.state) := by
  induction size_eq : loop.input.characters.length
    using Nat.strong_induction_on generalizing loop with
  | _ size inductionHypothesis =>
    rcases fgets_cases loop.input with
      ⟨nothing, _⟩ | ⟨piece, rest, nonempty, _, split, found⟩
    · have none : pieces loop.input = [] :=
        pieces_of_none nothing
      rw [pieceWords, none, List.map_nil, runWords]
      cases ending : loop.input.ending with
      | endOfFile =>
          have round :
              loop.round shell =
                { loop with input := ⟨[], .endOfFile⟩ }.leave := by
            rw [Looping.round, nothing, ending]
            rfl
          refine Settles.of_round running round (.of_over ?_ ?_)
          · exact
              ⟨(List.append_nil _).symm, rfl, fun _ same =>
                Option.some.inj same⟩
          · exact Status.noConfusion
      | readError =>
          exact
            ⟨0, fun count _ =>
              after_readError shell running none ending count⟩
    · have listed :
          pieceWords loop.input =
            tokens isDelimiter (piece.takeWhile (· ≠ 0)) ::
              pieceWords ⟨rest, loop.input.ending⟩ := by
        rw [pieceWords, pieces_of_some found, List.map_cons]
        rfl
      rw [listed]
      have smaller : rest.length < size := by
        rw [← size_eq]
        exact length_left_lt found
      have settles :=
        @settles_read σ shell loop piece ⟨rest, loop.input.ending⟩
          (pieceWords ⟨rest, loop.input.ending⟩) running found
          fun next left nextRunning => by
            have later :=
              inductionHypothesis rest.length smaller nextRunning
                (congrArg (fun input => input.characters.length) left)
            rwa [left] at later
      exact settles

end Ammc.Client
