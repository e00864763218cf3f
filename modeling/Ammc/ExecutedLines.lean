import Ammc.ShellLines

namespace Ammc.Client

open Tokens

/-!
# One command for each line

The commands of an input are those of its lines, one after the other, until one
of them ends the loop.  The loop executes them if each line that it gets to has
all its words in one of its pieces, and no more of them than `argv` holds.
-/

/-! ## What is to be executed -/

/-- No line has too many words. -/
def unlimited (_ : Words) : Bool :=
  false

/-- The commands of the lines, and why no further one is executed. -/
def commandsOf
    (shell : Shell σ)
    (input : Input)
    (state : ShellState σ) : List Words × Stop σ :=
  runWords shell unlimited ((inputLines input).map lineWords) state

/-- The loop has executed the commands of the lines, and is left in time. -/
structure Executes
    (shell : Shell σ)
    (input : Input)
    (state : ShellState σ)
    (loop : Looping σ) : Prop where
  executed : loop.executed = (commandsOf shell input state).1
  stops :
    ∀ last,
      (commandsOf shell input state).2 = .stopped last →
      loop.status = .left
  defined : loop.status ≠ .undefined

/-- From some round on, the commands of the lines are what was executed. -/
def ExecutesLines
    (shell : Shell σ)
    (input : Input)
    (state : ShellState σ) : Prop :=
  ∃ bound,
    ∀ rounds,
      bound ≤ rounds →
      Executes shell input state (shellLoop shell input state rounds)

/-- With the exit flag set, the loop is left after the first piece. -/
def readPieces
    (state : ShellState σ)
    (pieces : List α) : List α :=
  if shellFlagGet state shSigExit then pieces.take 1 else pieces

/-- One of the pieces has all the words, and `argv` has room for them. -/
structure LineFits
    (state : ShellState σ)
    (line : List UInt8) : Prop where
  few : (lineWords line).length < argvLength
  whole :
    ∃ piece ∈ readPieces state (linePieces line),
      lineWords piece = lineWords line

/-- Of a line that is interrupted, no piece that fills the buffer has words. -/
def RestFits
    (state : ShellState σ)
    (rest : List UInt8) : Prop :=
  ∀ piece ∈ readPieces state (linePieces rest).dropLast,
    lineWords piece = []

/-- Every line that is reached fits, and what is interrupted behind them. -/
def LinesFit
    (shell : Shell σ)
    (rest : List UInt8) : List (List UInt8) → ShellState σ → Prop
  | [], state => RestFits state rest
  | line :: lines, state =>
      LineFits state line ∧
        ∀ next,
          ReadsOn shell (lineWords line) state next →
          LinesFit shell rest lines next

/-! ## Blank pieces -/

/-- Blank pieces in front are passed over. -/
theorem runWords_skip
    {shell : Shell σ}
    {state : ShellState σ}
    (stays : shellFlagGet state shSigExit = false)
    {front : List Words}
    (blank : ∀ words ∈ front, words = [])
    (rest : List Words) :
    runWords shell tooMany (front ++ rest) state =
      runWords shell tooMany rest state := by
  induction front with
  | nil => rfl
  | cons words front inductionHypothesis =>
      rw [List.forall_mem_cons] at blank
      have readsOn : ReadsOn shell [] state state :=
        .blank stays
      rw [blank.1, List.cons_append, readsOn.runWords_eq readsOn.few,
        inductionHypothesis blank.2]
      rfl

/-- The exit flag is not set when the loop reads on. -/
theorem ReadsOn.stays
    {shell : Shell σ}
    {words : Words}
    {state next : ShellState σ}
    (readsOn : ReadsOn shell words state next) :
    shellFlagGet next shSigExit = false := by
  cases readsOn with
  | blank stays => exact stays
  | command _ _ _ stays =>
      rw [leaves, Bool.or_eq_false_iff] at stays
      exact stays.2

/-- Blank pieces behind words make no difference to them. -/
theorem runWords_absorb
    (shell : Shell σ)
    (words : Words)
    {behind : List Words}
    (blank : ∀ other ∈ behind, other = [])
    (rest : List Words)
    (state : ShellState σ) :
    runWords shell tooMany (words :: (behind ++ rest)) state =
      runWords shell tooMany (words :: rest) state := by
  cases few : tooMany words with
  | true =>
      rw [runWords_of_tooMany shell few, runWords_of_tooMany shell few]
  | false =>
      rcases step_cases shell few state with
        ⟨next, readsOn⟩ | makesLeave | hangs
      · rw [readsOn.runWords_eq few, readsOn.runWords_eq few,
          runWords_skip readsOn.stays blank]
      · obtain ⟨last, stopped⟩ := makesLeave.runWords_eq
        rw [stopped _ _ few, stopped _ _ few]
      · rw [hangs.runWords_eq few, hangs.runWords_eq few]

/-- An empty piece at the end is missed neither by the commands nor the end. -/
theorem runWords_spare
    (shell : Shell σ)
    (all : List Words)
    (state : ShellState σ) :
    (runWords shell tooMany (all ++ [[]]) state).1 =
        (runWords shell tooMany all state).1 ∧
      (runWords shell tooMany (all ++ [[]]) state).2.status .endOfFile =
        (runWords shell tooMany all state).2.status .endOfFile := by
  induction all generalizing state with
  | nil =>
      rw [List.nil_append]
      rcases step_cases shell not_tooMany_nil state with
        ⟨next, readsOn⟩ | makesLeave | hangs
      · rw [readsOn.runWords_eq readsOn.few]
        exact ⟨rfl, rfl⟩
      · obtain ⟨last, stopped⟩ := makesLeave.runWords_eq
        rw [stopped _ _ not_tooMany_nil]
        exact ⟨rfl, rfl⟩
      · exact absurd rfl hangs.nonempty
  | cons words all inductionHypothesis =>
      rw [List.cons_append]
      cases few : tooMany words with
      | true =>
          rw [runWords_of_tooMany shell few, runWords_of_tooMany shell few]
          exact ⟨rfl, rfl⟩
      | false =>
          rcases step_cases shell few state with
            ⟨next, readsOn⟩ | makesLeave | hangs
          · obtain ⟨executed, status⟩ := inductionHypothesis next
            rw [readsOn.runWords_eq few, readsOn.runWords_eq few]
            exact ⟨congrArg (commandOf words ++ ·) executed, status⟩
          · obtain ⟨last, stopped⟩ := makesLeave.runWords_eq
            rw [stopped _ _ few, stopped _ _ few]
            exact ⟨rfl, rfl⟩
          · rw [hangs.runWords_eq few, hangs.runWords_eq few]
            exact ⟨rfl, rfl⟩

/-! ## The pieces of one line -/

theorem mem_readPieces_of_mem
    {state : ShellState σ}
    {pieces : List α}
    {piece : α}
    (member : piece ∈ readPieces state pieces) :
    piece ∈ pieces := by
  rw [readPieces] at member
  split at member
  · exact List.mem_of_mem_take member
  · exact member

/-- The first piece is read in any case. -/
theorem head_mem_readPieces
    (state : ShellState σ)
    (piece : α)
    (behind : List α) :
    piece ∈ readPieces state (piece :: behind) := by
  rw [readPieces]
  split
  · exact List.mem_cons_self
  · exact List.mem_cons_self

/-- In front of a piece that is read the exit flag has not been set. -/
theorem split_of_mem_readPieces
    {state : ShellState σ}
    {pieces : List α}
    {piece : α}
    (member : piece ∈ readPieces state pieces) :
    ∃ front behind,
      pieces = front ++ piece :: behind ∧
        (front = [] ∨ shellFlagGet state shSigExit = false) := by
  rw [readPieces] at member
  cases exits : shellFlagGet state shSigExit with
  | true =>
      rw [exits, if_pos rfl] at member
      cases pieces with
      | nil => cases member
      | cons first behind =>
          rw [List.take_succ_cons, List.take_zero, List.mem_singleton]
            at member
          rw [member]
          exact ⟨[], behind, rfl, Or.inl rfl⟩
  | false =>
      rw [exits, if_neg Bool.noConfusion] at member
      obtain ⟨front, behind, split⟩ := List.append_of_mem member
      exact ⟨front, behind, split, Or.inr rfl⟩

theorem flatten_linePieces (line : List UInt8) :
    (linePieces line).flatten = line :=
  flatten_cut shellLineMaxLen line

/-- The pieces of a line that fits come to the whole line. -/
theorem LineFits.runWords_eq
    {shell : Shell σ}
    {state : ShellState σ}
    {line : List UInt8}
    (fits : LineFits state line)
    (rest : List Words) :
    runWords shell tooMany
        ((linePieces line).map lineWords ++ rest) state =
      runWords shell tooMany (lineWords line :: rest) state := by
  obtain ⟨piece, member, whole⟩ := fits.whole
  obtain ⟨front, behind, split, stays⟩ := split_of_mem_readPieces member
  have all :
      lineWords piece = lineWords (front ++ piece :: behind).flatten := by
    rw [← split, flatten_linePieces, whole]
  have blank := blank_others all
  have blankFront : ∀ words ∈ front.map lineWords, words = [] := by
    rw [List.forall_mem_map]
    exact fun other inFront => blank other (List.mem_append_left _ inFront)
  have blankBehind : ∀ words ∈ behind.map lineWords, words = [] := by
    rw [List.forall_mem_map]
    exact fun other after => blank other (List.mem_append_right _ after)
  rw [split, List.map_append, List.map_cons, List.append_assoc,
    List.cons_append, whole]
  rcases stays with rfl | stays
  · exact runWords_absorb shell _ blankBehind rest state
  · rw [runWords_skip stays blankFront,
      runWords_absorb shell _ blankBehind]

/-- A line within the limit fits: there is a single piece. -/
theorem lineFits_of_short
    (state : ShellState σ)
    {line : List UInt8}
    (short : line.length ≤ shellLineMaxLen) :
    LineFits state line := by
  have pieces : linePieces line = [line] :=
    cut_of_short short
  constructor
  · have bound := two_mul_length_tokens_le isDelimiter line
    rw [lineWords, argvLength, shellLineMaxLen]
    rw [shellLineMaxLen] at short
    omega
  · rw [pieces]
    exact ⟨line, head_mem_readPieces state line [], rfl⟩

/-- Words are executed, where they are not too many. -/
theorem head_runWords_cons
    {overruns : Words → Bool}
    {words : Words}
    (shell : Shell σ)
    (fits : overruns words = false)
    (nonempty : words ≠ [])
    (rest : List Words)
    (state : ShellState σ) :
    (runWords shell overruns (words :: rest) state).1.head? =
      some words := by
  rw [runWords, fits, if_neg Bool.noConfusion, if_neg nonempty]
  cases execute shell words state with
  | none => rfl
  | some result =>
      obtain ⟨ret, next, messages⟩ := result
      dsimp only
      split
      · rfl
      · rfl

/--
The first command comes from a piece that is read, and `argv` had room for it,
unless none of the pieces in front has words.
-/
theorem head_runWords
    {shell : Shell σ}
    {state : ShellState σ}
    {front rest : List Words}
    {command : Words}
    (first :
      (runWords shell tooMany (front ++ rest) state).1.head? =
        some command) :
    (tooMany command = false ∧ command ∈ readPieces state front) ∨
      ∀ words ∈ front, words = [] := by
  induction front with
  | nil => exact Or.inr (List.forall_mem_nil _)
  | cons words front inductionHypothesis =>
      rw [List.cons_append] at first
      cases few : tooMany words with
      | true =>
          rw [runWords_of_tooMany shell few] at first
          cases first
      | false =>
          by_cases blank : words = []
          · subst blank
            cases exits : shellFlagGet state shSigExit with
            | true =>
                obtain ⟨last, stopped⟩ :=
                  (@MakesLeave.blank _ shell state exits).runWords_eq
                rw [stopped _ _ few] at first
                cases first
            | false =>
                have readsOn : ReadsOn shell [] state state :=
                  .blank exits
                rw [readsOn.runWords_eq few] at first
                rcases inductionHypothesis first with
                  ⟨held, member⟩ | blank
                · rw [readPieces, exits, if_neg Bool.noConfusion]
                    at member ⊢
                  exact Or.inl ⟨held, List.mem_cons_of_mem _ member⟩
                · exact Or.inr (List.forall_mem_cons.mpr ⟨rfl, blank⟩)
          · have head :=
              head_runWords_cons shell few blank (front ++ rest) state
            have same : words = command :=
              Option.some.inj (head.symm.trans first)
            rw [← same]
            exact Or.inl ⟨few, head_mem_readPieces state words front⟩

/-- The first command is not the line, if the line does not fit. -/
theorem head_of_unfit
    {shell : Shell σ}
    {state : ShellState σ}
    {line : List UInt8}
    (unfit : ¬ LineFits state line)
    (rest : List Words) :
    lineWords line ≠ [] ∧
      (runWords shell tooMany
          ((linePieces line).map lineWords ++ rest) state).1.head? ≠
        some (lineWords line) := by
  have blank_iff :
      lineWords line = [] ↔
        ∀ piece ∈ linePieces line, lineWords piece = [] := by
    rw [lineWords]
    conv_lhs => rw [← flatten_linePieces line]
    exact tokens_flatten_eq_nil_iff
  have nonempty : lineWords line ≠ [] := by
    intro blank
    apply unfit
    refine ⟨by rw [blank]; decide, ?_⟩
    obtain ⟨first, behind, split⟩ :=
      List.exists_cons_of_ne_nil (cut_ne_nil shellLineMaxLen line)
    have pieces : linePieces line = first :: behind :=
      split
    have member : first ∈ linePieces line := by
      rw [pieces]
      exact List.mem_cons_self
    refine ⟨first, ?_, ?_⟩
    · rw [pieces]
      exact head_mem_readPieces state first behind
    · rw [blank, blank_iff.mp blank first member]
  refine ⟨nonempty, fun first => ?_⟩
  rcases head_runWords first with ⟨few, member⟩ | blank
  · apply unfit
    refine ⟨Nat.not_le.mp (of_decide_eq_false few), ?_⟩
    have mapped :
        readPieces state ((linePieces line).map lineWords) =
          (readPieces state (linePieces line)).map lineWords := by
      rw [readPieces, readPieces, apply_ite (List.map lineWords),
        List.map_take]
    rw [mapped] at member
    obtain ⟨piece, read, same⟩ := List.mem_map.mp member
    exact ⟨piece, read, same⟩
  · rw [List.forall_mem_map] at blank
    exact nonempty (blank_iff.mpr blank)

/-! ## Line by line -/

/-- The loop comes to what the commands of the lines come to. -/
structure Agrees
    (ending : Ending)
    (outcome commands : List Words × Stop σ) : Prop where
  executed : outcome.1 = commands.1
  stops :
    ∀ last,
      commands.2 = .stopped last →
      outcome.2.status ending = .left
  defined : outcome.2.status ending ≠ .undefined

/-- The same command in front makes no difference. -/
theorem agrees_append_iff
    {ending : Ending}
    {outcome commands : List Words × Stop σ}
    (first : List Words) :
    Agrees ending (first ++ outcome.1, outcome.2)
        (first ++ commands.1, commands.2) ↔
      Agrees ending outcome commands := by
  constructor
  · rintro ⟨executed, stops, defined⟩
    exact ⟨List.append_cancel_left executed, stops, defined⟩
  · rintro ⟨executed, stops, defined⟩
    exact ⟨congrArg (first ++ ·) executed, stops, defined⟩

/-- Whether the loop reads on is seen where nothing follows. -/
theorem ReadsOn.exhausted
    {shell : Shell σ}
    {words : Words}
    {state next : ShellState σ}
    (readsOn : ReadsOn shell words state next) :
    (runWords shell tooMany [words] state).2 = .exhausted next := by
  rw [readsOn.runWords_eq readsOn.few]
  rfl

/-- After the same words, what follows has to agree. -/
theorem agrees_cons_iff
    {shell : Shell σ}
    {words : Words}
    {state : ShellState σ}
    (few : tooMany words = false)
    (ending : Ending)
    (all lines : List Words) :
    Agrees ending
        (runWords shell tooMany (words :: all) state)
        (runWords shell unlimited (words :: lines) state) ↔
      ∀ next,
        ReadsOn shell words state next →
        Agrees ending
          (runWords shell tooMany all next)
          (runWords shell unlimited lines next) := by
  have held : unlimited words = false :=
    rfl
  rcases step_cases shell few state with
    ⟨next, readsOn⟩ | makesLeave | hangs
  · rw [readsOn.runWords_eq few, readsOn.runWords_eq held,
      agrees_append_iff]
    constructor
    · intro agrees other again
      have exhausted := readsOn.exhausted
      rw [again.exhausted] at exhausted
      rwa [Stop.exhausted.inj exhausted]
    · intro later
      exact later next readsOn
  · obtain ⟨last, stopped⟩ := makesLeave.runWords_eq
    rw [stopped _ _ few, stopped _ _ held]
    refine
      iff_of_true ⟨rfl, fun _ _ => rfl, Status.noConfusion⟩ ?_
    intro next readsOn
    have exhausted := readsOn.exhausted
    rw [stopped _ _ few] at exhausted
    cases exhausted
  · rw [hangs.runWords_eq few, hangs.runWords_eq held]
    refine
      iff_of_true ⟨rfl, fun _ stops => ?_, Status.noConfusion⟩ ?_
    · cases stops
    · intro next readsOn
      have exhausted := readsOn.exhausted
      rw [hangs.runWords_eq few] at exhausted
      cases exhausted

/-- Nothing is to be executed: the pieces that are read have no words. -/
theorem agrees_nil_iff
    {shell : Shell σ}
    {ending : Ending}
    {all : List Words}
    {state : ShellState σ} :
    Agrees ending
        (runWords shell tooMany all state)
        (runWords shell unlimited [] state) ↔
      ∀ words ∈ readPieces state all, words = [] := by
  induction all with
  | nil =>
      refine iff_of_true ⟨rfl, ?_, ?_⟩ ?_
      · rintro last ⟨⟩
      · cases ending with
        | endOfFile => exact Status.noConfusion
        | readError => exact Status.noConfusion
      · intro words member
        cases mem_readPieces_of_mem member
  | cons words all inductionHypothesis =>
      by_cases blank : words = []
      · subst blank
        cases exits : shellFlagGet state shSigExit with
        | true =>
            obtain ⟨last, stopped⟩ :=
              (@MakesLeave.blank _ shell state exits).runWords_eq
            rw [stopped _ _ not_tooMany_nil, readPieces, exits, if_pos rfl]
            refine iff_of_true ⟨rfl, ?_, Status.noConfusion⟩ ?_
            · rintro _ ⟨⟩
            · intro words member
              exact List.mem_singleton.mp member
        | false =>
            have readsOn : ReadsOn shell [] state state :=
              .blank exits
            rw [readPieces, exits, if_neg Bool.noConfusion]
              at inductionHypothesis ⊢
            rw [readsOn.runWords_eq readsOn.few, List.forall_mem_cons,
              and_iff_right rfl]
            exact inductionHypothesis
      · refine iff_of_false ?_ ?_
        · rintro ⟨executed, _, defined⟩
          cases few : tooMany words with
          | true =>
              rw [runWords_of_tooMany shell few] at defined
              exact defined rfl
          | false =>
              have head := head_runWords_cons shell few blank all state
              rw [executed] at head
              cases head
        · intro nothing
          exact
            blank (nothing words (head_mem_readPieces state words all))

/--
The pieces come to the commands of the lines if and only if the lines that are
reached fit.
-/
theorem agrees_iff
    (shell : Shell σ)
    (ending : Ending)
    (rest : List UInt8)
    (lines : List (List UInt8))
    (state : ShellState σ) :
    Agrees ending
        (runWords shell tooMany
          (lines.flatMap (fun line => (linePieces line).map lineWords) ++
            (linePieces rest).dropLast.map lineWords)
          state)
        (runWords shell unlimited (lines.map lineWords) state) ↔
      LinesFit shell rest lines state := by
  induction lines generalizing state with
  | nil =>
      rw [List.flatMap_nil, List.nil_append, List.map_nil, agrees_nil_iff,
        LinesFit, RestFits, readPieces, readPieces, ← List.map_take,
        ← apply_ite (List.map lineWords), List.forall_mem_map]
  | cons line lines inductionHypothesis =>
      rw [List.flatMap_cons, List.map_cons, List.append_assoc, LinesFit]
      by_cases fits : LineFits state line
      · have few : tooMany (lineWords line) = false :=
          decide_eq_false (Nat.not_le.mpr fits.few)
        rw [fits.runWords_eq, agrees_cons_iff few, and_iff_right fits]
        exact
          forall_congr' fun next =>
            imp_congr_right fun _ => inductionHypothesis next
      · refine iff_of_false (fun agrees => ?_) fun both => fits both.1
        obtain ⟨nonempty, differs⟩ :=
          @head_of_unfit σ shell state line fits
            (lines.flatMap (fun line => (linePieces line).map lineWords) ++
              (linePieces rest).dropLast.map lineWords)
        rw [agrees.executed] at differs
        exact differs (head_runWords_cons shell rfl nonempty _ state)

/-! ## The whole input -/

theorem agrees_congr
    {ending : Ending}
    {outcome other commands : List Words × Stop σ}
    (executed : outcome.1 = other.1)
    (status : outcome.2.status ending = other.2.status ending) :
    Agrees ending outcome commands ↔ Agrees ending other commands := by
  constructor
  · rintro ⟨same, stops, defined⟩
    rw [executed] at same
    rw [status] at stops defined
    exact ⟨same, stops, defined⟩
  · rintro ⟨same, stops, defined⟩
    rw [← executed] at same
    rw [← status] at stops defined
    exact ⟨same, stops, defined⟩

/-- The loop executes the lines if its outcome agrees with their commands. -/
theorem executesLines_iff_agrees
    (shell : Shell σ)
    (input : Input)
    (state : ShellState σ) :
    ExecutesLines shell input state ↔
      Agrees input.ending
        (runWords shell tooMany (pieceWords input) state)
        (commandsOf shell input state) := by
  obtain ⟨settledFrom, settled⟩ :=
    @loop_settles σ shell
      { input := input
        state := state
        executed := []
        printed := prompted shell state
        status := .running }
      rfl
  constructor
  · rintro ⟨bound, executes⟩
    obtain ⟨executed, stops, defined⟩ :=
      executes (settledFrom + bound) (Nat.le_add_left _ _)
    obtain ⟨outcome, status, _⟩ :=
      settled (settledFrom + bound) (Nat.le_add_right _ _)
    rw [← shellLoop] at outcome status
    rw [outcome, List.nil_append] at executed
    rw [status] at stops defined
    exact ⟨executed, stops, defined⟩
  · rintro ⟨executed, stops, defined⟩
    refine ⟨settledFrom, fun rounds late => ?_⟩
    obtain ⟨outcome, status, _⟩ := settled rounds late
    rw [← shellLoop] at outcome status
    dsimp only at status
    rw [← status] at stops defined
    exact ⟨outcome.trans executed, stops, defined⟩

/--
The loop executes one command for each line that is not blank, in order and
with all the words of the line, and is left after the first one that asks for
it, if and only if every line that is reached fits.
-/
theorem executesLines_iff
    {input : Input}
    (noNul : 0 ∉ input.characters)
    (shell : Shell σ)
    (state : ShellState σ) :
    ExecutesLines shell input state ↔
      LinesFit shell (interruptedLine input) (inputLines input) state := by
  obtain ⟨characters, ending⟩ := input
  obtain ⟨spare, split, kind⟩ := pieceWords_cases noNul ending
  rw [executesLines_iff_agrees, ← agrees_iff shell ending, ← split]
  rcases kind with rfl | ⟨rfl, rfl⟩
  · rw [List.append_nil]
    rfl
  · obtain ⟨executed, status⟩ :=
      runWords_spare shell (pieceWords ⟨characters, .endOfFile⟩) state
    exact agrees_congr executed.symm status.symm

theorem exitInput_executes :
    ExecutesLines exitShell exitInput scriptState := by
  have noNul : 0 ∉ exitInput.characters := by
    decide
  have noNewline : 10 ∉ exitName := by
    decide
  obtain ⟨lines, rest⟩ := inputLines_append noNewline [] .readError
  refine (executesLines_iff noNul exitShell scriptState).mpr ?_
  rw [exitInput, lines, rest]
  refine ⟨lineFits_of_short scriptState (by decide), ?_⟩
  intro next _ piece member
  have inFull := mem_readPieces_of_mem member
  have nothing : linePieces (interruptedLine ⟨[], .readError⟩) = [[]] :=
    cut_of_short (Nat.zero_le _)
  rw [nothing] at inFull
  cases inFull

/-- A first line that does not fit is not executed as it is. -/
theorem not_executesLines_of_unfit
    {line : List UInt8}
    (noNewline : 10 ∉ line)
    (noNul : 0 ∉ line)
    {state : ShellState σ}
    (unfit : ¬ LineFits state line)
    (shell : Shell σ)
    (rest : List UInt8)
    (ending : Ending) :
    ¬ ExecutesLines shell ⟨line ++ 10 :: rest, ending⟩ state := by
  intro executes
  have agrees := (executesLines_iff_agrees _ _ _).mp executes
  obtain ⟨nonempty, differs⟩ :=
    @head_of_unfit σ shell state line unfit (pieceWords ⟨rest, ending⟩)
  rw [← pieceWords_line noNewline noNul, agrees.executed, commandsOf,
    (inputLines_append noNewline rest ending).1, List.map_cons] at differs
  exact differs (head_runWords_cons shell rfl nonempty _ state)

/-- A word of 2048 characters, one more than the buffer holds. -/
def longWord : List UInt8 :=
  List.replicate (shellLineMaxLen + 1) 97 ++ [98]

/-- A shell in which nothing has been executed yet. -/
def freshState : ShellState Unit where
  flags := 0
  storage := ()

/-- The word is executed as two commands. -/
theorem longWord_split :
    0 ∉ longWord ++ [10] ∧
      ¬ ExecutesLines exitShell ⟨longWord ++ [10], .endOfFile⟩
        freshState := by
  have letters : ∀ c ∈ longWord, c = 97 ∨ c = 98 := by
    intro c member
    rcases List.mem_append.mp member with first | last
    · exact Or.inl (List.eq_of_mem_replicate first)
    · exact Or.inr (List.mem_singleton.mp last)
  have noNul : 0 ∉ longWord := by
    intro member
    exact absurd (letters 0 member) (by decide)
  have noNewline : 10 ∉ longWord := by
    intro member
    exact absurd (letters 10 member) (by decide)
  have size : longWord.length = shellLineMaxLen + 2 := by
    rw [longWord, List.length_append, List.length_replicate,
      List.length_singleton]
  have isToken : IsToken isDelimiter longWord := by
    refine ⟨List.append_ne_nil_of_right_ne_nil _ (by decide), ?_⟩
    intro c member
    rcases letters c member with rfl | rfl
    · rfl
    · rfl
  have unfit : ¬ LineFits freshState longWord := by
    rintro ⟨_, piece, read, whole⟩
    exact
      tokens_ne_of_long isToken (by rw [size]; exact Nat.lt_succ_self _)
        (mem_readPieces_of_mem read) whole
  refine
    ⟨?_,
      not_executesLines_of_unfit noNewline noNul unfit exitShell []
        .endOfFile⟩
  rw [List.mem_append, not_or]
  exact ⟨noNul, by decide⟩

end Ammc.Client
