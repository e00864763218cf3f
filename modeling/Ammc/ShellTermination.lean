import Ammc.ShellLoop

namespace Ammc.Client

/-!
# When the loop of the shell ends

The loop is left where a command, or the exit flag, asks for it, and at the end
of the file.  After a read error it reads once more, and so on: nothing but an
end of file makes a failing read leave the loop.
-/

/-! ## From piece to piece -/

/-- After a piece with these words the loop reads on. -/
inductive ReadsOn
    (shell : Shell σ) :
    Words → ShellState σ → ShellState σ → Prop where
  | blank
      {state : ShellState σ}
      (stays : shellFlagGet state shSigExit = false) :
      ReadsOn shell [] state state
  | command
      {words : Words}
      {state next : ShellState σ}
      {ret : Int}
      {messages : List Message}
      (few : tooMany words = false)
      (nonempty : words ≠ [])
      (returned :
        execute shell words state = some (ret, next, messages))
      (stays : leaves ret next = false) :
      ReadsOn shell words state next

/-- A piece with these words makes the loop leave. -/
inductive MakesLeave
    (shell : Shell σ) :
    Words → ShellState σ → Prop where
  | blank
      {state : ShellState σ}
      (exits : shellFlagGet state shSigExit = true) :
      MakesLeave shell [] state
  | command
      {words : Words}
      {state next : ShellState σ}
      {ret : Int}
      {messages : List Message}
      (few : tooMany words = false)
      (nonempty : words ≠ [])
      (returned :
        execute shell words state = some (ret, next, messages))
      (exits : leaves ret next = true) :
      MakesLeave shell words state

/-- The command of a piece with these words never returns. -/
structure Hangs
    (shell : Shell σ)
    (words : Words)
    (state : ShellState σ) : Prop where
  few : tooMany words = false
  nonempty : words ≠ []
  never : execute shell words state = none

/-- The loop gets through the pieces as far as `rest`. -/
inductive Reached
    (shell : Shell σ) :
    List Words → ShellState σ →
      List Words → ShellState σ → Prop where
  | here
      {rest : List Words}
      {state : ShellState σ} :
      Reached shell rest state rest state
  | later
      {words : Words}
      {further rest : List Words}
      {state next last : ShellState σ}
      (readsOn : ReadsOn shell words state next)
      (reached : Reached shell further next rest last) :
      Reached shell (words :: further) state rest last

/-- What is executed for a piece with these words. -/
def commandOf (words : Words) : List Words :=
  if words = [] then [] else [words]

theorem commandOf_of_nonempty
    {words : Words}
    (nonempty : words ≠ []) :
    commandOf words = [words] := by
  rw [commandOf, if_neg nonempty]

theorem not_tooMany_nil : tooMany [] = false := by
  decide

theorem ReadsOn.few
    {shell : Shell σ}
    {words : Words}
    {state next : ShellState σ}
    (readsOn : ReadsOn shell words state next) :
    tooMany words = false := by
  cases readsOn with
  | blank _ => exact not_tooMany_nil
  | command few _ _ _ => exact few

/-- Where the loop reads on, what follows is added to the command. -/
theorem ReadsOn.runWords_eq
    {shell : Shell σ}
    {words : Words}
    {state next : ShellState σ}
    (readsOn : ReadsOn shell words state next)
    {overruns : Words → Bool}
    (fits : overruns words = false)
    (rest : List Words) :
    runWords shell overruns (words :: rest) state =
      (commandOf words ++ (runWords shell overruns rest next).1,
        (runWords shell overruns rest next).2) := by
  rw [runWords, fits, if_neg Bool.noConfusion]
  cases readsOn with
  | blank stays =>
      rw [if_pos rfl, stays, if_neg Bool.noConfusion]
      rfl
  | command _ nonempty returned stays =>
      rw [if_neg nonempty, returned]
      dsimp only
      rw [stays, if_neg Bool.noConfusion, commandOf_of_nonempty nonempty]
      rfl

/-- Where the loop is left, the command is the last one. -/
theorem MakesLeave.runWords_eq
    {shell : Shell σ}
    {words : Words}
    {state : ShellState σ}
    (makesLeave : MakesLeave shell words state) :
    ∃ last,
      ∀ (overruns : Words → Bool) (rest : List Words),
        overruns words = false →
        runWords shell overruns (words :: rest) state =
          (commandOf words, .stopped last) := by
  cases makesLeave with
  | blank exits =>
      refine ⟨state, fun overruns rest fits => ?_⟩
      rw [runWords, fits, if_neg Bool.noConfusion, if_pos rfl, exits,
        if_pos rfl]
      rfl
  | @command _ _ next _ _ _ nonempty returned exits =>
      refine ⟨next, fun overruns rest fits => ?_⟩
      rw [runWords, fits, if_neg Bool.noConfusion, if_neg nonempty,
        returned]
      dsimp only
      rw [exits, if_pos rfl, commandOf_of_nonempty nonempty]

theorem MakesLeave.few
    {shell : Shell σ}
    {words : Words}
    {state : ShellState σ}
    (makesLeave : MakesLeave shell words state) :
    tooMany words = false := by
  cases makesLeave with
  | blank _ => exact not_tooMany_nil
  | command few _ _ _ => exact few

theorem Hangs.runWords_eq
    {shell : Shell σ}
    {words : Words}
    {state : ShellState σ}
    (hangs : Hangs shell words state)
    {overruns : Words → Bool}
    (fits : overruns words = false)
    (rest : List Words) :
    runWords shell overruns (words :: rest) state =
      (commandOf words, .hung) := by
  rw [runWords, fits, if_neg Bool.noConfusion, if_neg hangs.nonempty,
    hangs.never, commandOf_of_nonempty hangs.nonempty]

/-- What can become of words that `argv` has room for. -/
theorem step_cases
    (shell : Shell σ)
    {words : Words}
    (few : tooMany words = false)
    (state : ShellState σ) :
    (∃ next, ReadsOn shell words state next) ∨
      MakesLeave shell words state ∨
      Hangs shell words state := by
  by_cases blank : words = []
  · subst blank
    cases exits : shellFlagGet state shSigExit with
    | true => exact Or.inr (Or.inl (.blank exits))
    | false => exact Or.inl ⟨state, .blank exits⟩
  · cases returned : execute shell words state with
    | none => exact Or.inr (Or.inr ⟨few, blank, returned⟩)
    | some result =>
        obtain ⟨ret, next, messages⟩ := result
        cases exits : leaves ret next with
        | true =>
            exact Or.inr (Or.inl (.command few blank returned exits))
        | false => exact Or.inl ⟨next, .command few blank returned exits⟩

/-- What the loop comes to is decided where it gets to. -/
theorem Reached.stop_eq
    {shell : Shell σ}
    {all rest : List Words}
    {state last : ShellState σ}
    (reached : Reached shell all state rest last) :
    (runWords shell tooMany all state).2 =
      (runWords shell tooMany rest last).2 := by
  induction reached with
  | here => rfl
  | later readsOn _ inductionHypothesis =>
      rw [readsOn.runWords_eq readsOn.few, inductionHypothesis]

theorem runWords_of_tooMany
    (shell : Shell σ)
    {words : Words}
    (many : tooMany words = true)
    (rest : List Words)
    (state : ShellState σ) :
    runWords shell tooMany (words :: rest) state = ([], .undefined) := by
  rw [runWords, if_pos many]

/-- Where the loop gets to, and why it gets no further. -/
inductive GetsTo
    (shell : Shell σ)
    (all : List Words)
    (state : ShellState σ) : Stop σ → Prop where
  | exhausted
      {last : ShellState σ}
      (reached : Reached shell all state [] last) :
      GetsTo shell all state (.exhausted last)
  | stopped
      {words : Words}
      {rest : List Words}
      {last after : ShellState σ}
      (reached : Reached shell all state (words :: rest) last)
      (makesLeave : MakesLeave shell words last) :
      GetsTo shell all state (.stopped after)
  | hung :
      GetsTo shell all state .hung
  | undefined
      {words : Words}
      {rest : List Words}
      {last : ShellState σ}
      (reached : Reached shell all state (words :: rest) last)
      (many : tooMany words = true) :
      GetsTo shell all state .undefined

/-- A piece in front, after which the loop reads on. -/
theorem GetsTo.later
    {shell : Shell σ}
    {words : Words}
    {further : List Words}
    {state next : ShellState σ}
    {stop : Stop σ}
    (readsOn : ReadsOn shell words state next)
    (getsTo : GetsTo shell further next stop) :
    GetsTo shell (words :: further) state stop := by
  cases getsTo with
  | exhausted reached => exact .exhausted (.later readsOn reached)
  | stopped reached makesLeave =>
      exact .stopped (.later readsOn reached) makesLeave
  | hung => exact .hung
  | undefined reached many =>
      exact .undefined (.later readsOn reached) many

theorem getsTo_runWords
    (shell : Shell σ)
    (all : List Words)
    (state : ShellState σ) :
    GetsTo shell all state (runWords shell tooMany all state).2 := by
  induction all generalizing state with
  | nil => exact .exhausted .here
  | cons words further inductionHypothesis =>
      cases few : tooMany words with
      | true =>
          rw [runWords_of_tooMany shell few]
          exact .undefined .here few
      | false =>
          rcases step_cases shell few state with
            ⟨next, readsOn⟩ | makesLeave | hangs
          · rw [readsOn.runWords_eq few]
            exact .later readsOn (inductionHypothesis next)
          · obtain ⟨last, stopped⟩ := makesLeave.runWords_eq
            rw [stopped _ _ few]
            exact .stopped .here makesLeave
          · rw [hangs.runWords_eq few]
            exact .hung

/-! ## The end of the loop -/

/-- The loop is left at some time. -/
def Terminates
    (shell : Shell σ)
    (input : Input)
    (state : ShellState σ) : Prop :=
  ∃ rounds, (shellLoop shell input state rounds).status = .left

/-- Every command that is executed returns. -/
def AllReturn
    (shell : Shell σ)
    (input : Input)
    (state : ShellState σ) : Prop :=
  ∀ rounds, (shellLoop shell input state rounds).status ≠ .hung

/-- Rounds that follow rounds. -/
theorem after_add
    (shell : Shell σ)
    (loop : Looping σ)
    (count further : Nat) :
    loop.after shell (count + further) =
      (loop.after shell count).after shell further := by
  induction count generalizing loop with
  | zero =>
      rw [Nat.zero_add]
      rfl
  | succ count inductionHypothesis =>
      rw [Nat.add_right_comm]
      by_cases running : loop.status = .running
      · rw [after_of_running shell running, after_of_running shell running,
          inductionHypothesis]
      · rw [after_of_over shell running, after_of_over shell running,
          after_of_over shell running]

/-- The status in which the loop stays is the one of the outcome. -/
theorem status_settles
    (shell : Shell σ)
    (input : Input)
    (state : ShellState σ) :
    ∃ bound,
      ∀ rounds,
        bound ≤ rounds →
        (shellLoop shell input state rounds).status =
          (runWords shell tooMany (pieceWords input) state).2.status
            input.ending := by
  obtain ⟨bound, settled⟩ :=
    @loop_settles σ shell
      { input := input
        state := state
        executed := []
        printed := prompted shell state
        status := .running }
      rfl
  exact ⟨bound, fun rounds late => (settled rounds late).status⟩

/-- A loop that is over at some time has come to its outcome. -/
theorem status_eq_of_over
    {shell : Shell σ}
    {input : Input}
    {state : ShellState σ}
    {rounds : Nat}
    (ended : (shellLoop shell input state rounds).status ≠ .running) :
    (shellLoop shell input state rounds).status =
      (runWords shell tooMany (pieceWords input) state).2.status
        input.ending := by
  obtain ⟨bound, settled⟩ := status_settles shell input state
  have late := settled (rounds + bound) (Nat.le_add_left _ _)
  rw [← late, shellLoop, shellLoop, after_add]
  rw [shellLoop] at ended
  rw [after_of_over shell ended]

theorem terminates_iff_status
    (shell : Shell σ)
    (input : Input)
    (state : ShellState σ) :
    Terminates shell input state ↔
      (runWords shell tooMany (pieceWords input) state).2.status
        input.ending = .left := by
  constructor
  · rintro ⟨rounds, left⟩
    have ended :
        (shellLoop shell input state rounds).status ≠ .running := by
      rw [left]
      exact Status.noConfusion
    rw [← status_eq_of_over ended, left]
  · intro left
    obtain ⟨bound, settled⟩ := status_settles shell input state
    exact ⟨bound, (settled bound (Nat.le_refl _)).trans left⟩

/-- Behind the last piece, the loop is left at the end of the file only. -/
theorem endOfFile_of_exhausted
    {last : ShellState σ}
    {ending : Ending}
    (left : (Stop.exhausted last).status ending = .left) :
    ending = .endOfFile := by
  cases ending with
  | endOfFile => rfl
  | readError => cases left

/--
The loop is left if and only if a piece that is reached makes it leave, or the
end of the file is behind pieces that can all be held in `argv`.
-/
theorem terminates_iff
    {shell : Shell σ}
    {input : Input}
    {state : ShellState σ}
    (returns : AllReturn shell input state) :
    Terminates shell input state ↔
      (∃ words rest last,
          Reached shell (pieceWords input) state (words :: rest) last ∧
            MakesLeave shell words last) ∨
        (input.ending = .endOfFile ∧
          ∀ words rest last,
            Reached shell (pieceWords input) state (words :: rest) last →
            words.length < argvLength) := by
  rw [terminates_iff_status]
  have getsTo := getsTo_runWords shell (pieceWords input) state
  generalize outcome :
    (runWords shell tooMany (pieceWords input) state).2 = stop at getsTo
  constructor
  · intro left
    cases getsTo with
    | exhausted reached =>
        refine Or.inr ⟨endOfFile_of_exhausted left, ?_⟩
        intro words rest last found
        by_contra many
        have undefined := found.stop_eq
        rw [outcome,
          runWords_of_tooMany shell (decide_eq_true (Nat.not_lt.mp many))]
          at undefined
        cases undefined
    | stopped reached makesLeave =>
        exact Or.inl ⟨_, _, _, reached, makesLeave⟩
    | hung => cases left
    | undefined _ _ => cases left
  · rintro (⟨words, rest, last, reached, makesLeave⟩ | ⟨ending, few⟩)
    · obtain ⟨after, stopped⟩ := makesLeave.runWords_eq
      have same := reached.stop_eq
      rw [outcome, stopped tooMany rest makesLeave.few] at same
      rw [same]
      rfl
    · cases getsTo with
      | exhausted _ =>
          rw [ending]
          rfl
      | stopped _ _ => rfl
      | hung =>
          obtain ⟨bound, settled⟩ := status_settles shell input state
          have hangs := settled bound (Nat.le_refl _)
          rw [outcome] at hangs
          exact absurd hangs (returns bound)
      | undefined reached many =>
          exact
            absurd (of_decide_eq_true many)
              (Nat.not_le.mpr (few _ _ _ reached))

/-- `exit` -/
def exitName : List UInt8 := [101, 120, 105, 116]

/-- `_builtin_exit`, with the help that is shown for it. -/
def builtinExit : ShellCommand σ where
  help :=
    some
      [69, 120, 105, 116, 32, 102, 114, 111, 109, 32, 116, 104, 101, 32,
        115, 104, 101, 108, 108]
  exec argv state :=
    if argv.length ≠ 1 then
      some (1, state)
    else
      some (0, { state with flags := state.flags ||| shSigExit })

/-- A shell whose only command is `exit`. -/
def exitShell : Shell Unit where
  prompt := [62, 32]
  get name type :=
    if name = exitName ∧ type = .builtin then some builtinExit else none

/-- The flags that `main` sets for a script. -/
def scriptState : ShellState Unit where
  flags := shScriptMode ||| shExitOnErr
  storage := ()

/-- `exit` and a newline, and a read error behind them. -/
def exitInput : Input where
  characters := exitName ++ [10]
  ending := .readError

theorem exitInput_terminates :
    Terminates exitShell exitInput scriptState := by
  have first :
      (shellLoop exitShell exitInput scriptState 1).status = .left := by
    decide +kernel
  have returns : AllReturn exitShell exitInput scriptState := by
    intro rounds hangs
    have same :=
      status_eq_of_over
        (show (shellLoop exitShell exitInput scriptState rounds).status ≠
            .running by
          rw [hangs]
          exact Status.noConfusion)
    rw [← status_eq_of_over (by rw [first]; exact Status.noConfusion),
      first, hangs] at same
    cases same
  refine (terminates_iff returns).mpr (Or.inl ?_)
  have words : pieceWords exitInput = [[exitName]] := by
    decide +kernel
  rw [words]
  refine ⟨[exitName], [], scriptState, .here, ?_⟩
  exact
    @MakesLeave.command _ exitShell [exitName] scriptState
      { scriptState with flags := scriptState.flags ||| shSigExit } 0 []
      (by decide) (by decide) rfl (by decide)

/-- A script that cannot be read at all, as the path of a directory gives. -/
def unreadableScript : Input where
  characters := []
  ending := .readError

/-- The loop reads again and again, and no command is executed. -/
theorem unreadableScript_loops :
    AllReturn exitShell unreadableScript scriptState ∧
      ¬ Terminates exitShell unreadableScript scriptState := by
  have running :
      ∀ rounds,
        (shellLoop exitShell unreadableScript scriptState rounds).status =
          .running := by
    intro rounds
    have nothing : pieces unreadableScript = [] :=
      @pieces_of_none unreadableScript unreadableScript rfl
    exact
      (@after_readError Unit exitShell
        { input := unreadableScript
          state := scriptState
          executed := []
          printed := prompted exitShell scriptState
          status := .running }
        rfl nothing rfl rounds).status
  constructor
  · intro rounds hangs
    rw [running] at hangs
    cases hangs
  · rintro ⟨rounds, left⟩
    rw [running] at left
    cases left

end Ammc.Client
