import Ammc.ShellTermination
import Ammc.TextPieces

namespace Ammc.Client

open Tokens

/-!
# Lines and commands

The loop takes each piece that it reads for a line.  A line that is longer than
the buffer comes in several pieces, so its commands depend on where the pieces
end.
-/

/-! ## The lines of an input -/

/-- The words of a text. -/
def lineWords (text : List UInt8) : Words :=
  tokens isDelimiter text

/--
The lines that an input delivers, without their newlines; the last one is empty
where the input ends with a newline.
-/
def inputLines (input : Input) : List (List UInt8) :=
  match input.ending with
  | .endOfFile => input.characters.splitOn 10
  | .readError => (input.characters.splitOn 10).dropLast

/-- The beginning of the line that a read error interrupts. -/
def interruptedLine (input : Input) : List UInt8 :=
  match input.ending with
  | .endOfFile => []
  | .readError => (input.characters.splitOn 10).getLastD []

theorem inputLines_append
    {line : List UInt8}
    (noNewline : 10 ∉ line)
    (rest : List UInt8)
    (ending : Ending) :
    inputLines ⟨line ++ 10 :: rest, ending⟩ =
        line :: inputLines ⟨rest, ending⟩ ∧
      interruptedLine ⟨line ++ 10 :: rest, ending⟩ =
        interruptedLine ⟨rest, ending⟩ := by
  have split :
      (line ++ 10 :: rest).splitOn 10 = line :: rest.splitOn 10 :=
    List.splitOn_append_cons_self_of_not_mem noNewline rest
  have nonempty : rest.splitOn 10 ≠ [] :=
    List.splitOn_ne_nil 10 rest
  cases ending with
  | endOfFile => exact ⟨split, rfl⟩
  | readError =>
      simp only [inputLines, interruptedLine, split]
      constructor
      · exact List.dropLast_cons_of_ne_nil nonempty
      · rw [List.getLastD_cons, List.getLastD_eq_getLast?,
          List.getLastD_eq_getLast?,
          List.getLast?_eq_some_getLast nonempty]
        rfl

theorem splitOn_of_last
    {line : List UInt8}
    (noNewline : 10 ∉ line) :
    line.splitOn 10 = [line] :=
  List.splitOn_eq_singleton noNewline

/-- An input is a single line, or there is a first line and a rest. -/
theorem line_cases (characters : List UInt8) :
    10 ∉ characters ∨
      ∃ line rest, 10 ∉ line ∧ characters = line ++ 10 :: rest := by
  by_cases newline : 10 ∈ characters
  · obtain ⟨line, rest, split, noNewline⟩ :=
      List.eq_append_cons_of_mem newline
    exact Or.inr ⟨line, rest, noNewline, split⟩
  · exact Or.inl newline

/-! ## Lines in pieces -/

/-- A line is read up to its newline, unless it is too long. -/
theorem upToNewline_line
    {line : List UInt8}
    (noNewline : 10 ∉ line)
    (rest : List UInt8)
    (limit : Nat) :
    upToNewline limit (line ++ 10 :: rest) =
      (line ++ [10]).take limit := by
  induction line generalizing limit with
  | nil =>
      cases limit with
      | zero => rfl
      | succ limit =>
          rw [List.nil_append, upToNewline, if_pos rfl, List.nil_append,
            List.take_succ_cons, List.take_nil]
  | cons c line inductionHypothesis =>
      rw [List.mem_cons, not_or] at noNewline
      cases limit with
      | zero => rfl
      | succ limit =>
          rw [List.cons_append, upToNewline, if_neg (Ne.symm noNewline.1),
            inductionHypothesis noNewline.2, List.cons_append,
            List.take_succ_cons]

/-- Without a newline there is only the limit. -/
theorem upToNewline_last
    {line : List UInt8}
    (noNewline : 10 ∉ line)
    (limit : Nat) :
    upToNewline limit line = line.take limit := by
  induction line generalizing limit with
  | nil =>
      cases limit with
      | zero => rfl
      | succ limit => rfl
  | cons c line inductionHypothesis =>
      rw [List.mem_cons, not_or] at noNewline
      cases limit with
      | zero => rfl
      | succ limit =>
          rw [upToNewline, if_neg (Ne.symm noNewline.1),
            inductionHypothesis noNewline.2, List.take_succ_cons]

/-- A piece that is complete is returned. -/
theorem fgets_of_complete
    {characters piece : List UInt8}
    {ending : Ending}
    (found : upToNewline (shellLineMaxLen + 1) characters = piece)
    (nonempty : piece ≠ [])
    (complete :
      piece.length < shellLineMaxLen + 1 → piece.getLast? ≠ some 10 →
        ending = .endOfFile) :
    fgets (shellLineMaxLen + 2) ⟨characters, ending⟩ =
      (some piece, ⟨characters.drop piece.length, ending⟩) := by
  have limit : shellLineMaxLen + 2 - 1 = shellLineMaxLen + 1 :=
    rfl
  rw [fgets, limit]
  dsimp only
  rw [found, if_neg nonempty, if_neg]
  rintro ⟨early, unfinished, failing⟩
  rw [complete early unfinished] at failing
  cases failing

/-- The words of the first piece, in front of those of the others. -/
theorem pieceWords_of_read
    {input left : Input}
    {piece : List UInt8}
    (read : fgets (shellLineMaxLen + 2) input = (some piece, left))
    (noNul : 0 ∉ piece) :
    pieceWords input = lineWords piece :: pieceWords left := by
  have whole : piece.takeWhile (· ≠ 0) = piece := by
    refine List.takeWhile_eq_self_iff.mpr fun c member => ?_
    refine decide_eq_true ?_
    rintro rfl
    exact noNul member
  rw [pieceWords, pieces_of_some read, List.map_cons, whole]
  rfl

/-- Where nothing is read there are no words. -/
theorem pieceWords_of_none
    {input left : Input}
    (read : fgets (shellLineMaxLen + 2) input = (none, left)) :
    pieceWords input = [] := by
  rw [pieceWords, pieces_of_none read, List.map_nil]

/-- The beginning of a line that is too long fills the buffer. -/
theorem pieceWords_long
    {line : List UInt8}
    (noNewline : 10 ∉ line)
    (noNul : 0 ∉ line)
    (long : ¬ line.length ≤ shellLineMaxLen)
    {tail : List UInt8}
    (nextLine : tail = [] ∨ ∃ rest, tail = 10 :: rest)
    (ending : Ending) :
    pieceWords ⟨line ++ tail, ending⟩ =
      lineWords (line.take (shellLineMaxLen + 1)) ::
        pieceWords
          ⟨line.drop (shellLineMaxLen + 1) ++ tail, ending⟩ := by
  have enough : shellLineMaxLen + 1 ≤ line.length :=
    Nat.not_le.mp long
  have full :
      (line.take (shellLineMaxLen + 1)).length = shellLineMaxLen + 1 :=
    List.length_take_of_le enough
  have found :
      upToNewline (shellLineMaxLen + 1) (line ++ tail) =
        line.take (shellLineMaxLen + 1) := by
    rcases nextLine with rfl | ⟨rest, rfl⟩
    · rw [List.append_nil, upToNewline_last noNewline]
    · rw [upToNewline_line noNewline, List.take_append_of_le_length enough]
  have read :=
    @fgets_of_complete (line ++ tail) _ ending found
      (List.ne_nil_of_length_pos (by rw [full]; exact Nat.succ_pos _))
      (fun early _ => absurd full (Nat.ne_of_lt early))
  rw [full, List.drop_append_of_le_length enough] at read
  exact
    pieceWords_of_read read fun member => noNul (List.mem_of_mem_take member)

/-- The pieces in which a line is read. -/
def linePieces (line : List UInt8) : List (List UInt8) :=
  cut shellLineMaxLen line

/-- The pieces of a line that fill the buffer, and what comes behind them. -/
theorem pieceWords_cut
    {line : List UInt8}
    (noNewline : 10 ∉ line)
    (noNul : 0 ∉ line)
    {tail : List UInt8}
    (nextLine : tail = [] ∨ ∃ rest, tail = 10 :: rest)
    (ending : Ending) :
    ∃ full last,
      linePieces line = full ++ [last] ∧
        last.length ≤ shellLineMaxLen ∧
        10 ∉ last ∧ 0 ∉ last ∧
        pieceWords ⟨line ++ tail, ending⟩ =
          full.map lineWords ++ pieceWords ⟨last ++ tail, ending⟩ := by
  induction line using cut.induct shellLineMaxLen with
  | case1 line short =>
      exact
        ⟨[], line, cut_of_short short, short, noNewline, noNul, rfl⟩
  | case2 line long inductionHypothesis =>
      obtain ⟨full, last, split, short, newline, nul, words⟩ :=
        inductionHypothesis
          (fun member => noNewline (List.mem_of_mem_drop member))
          (fun member => noNul (List.mem_of_mem_drop member))
      refine
        ⟨line.take (shellLineMaxLen + 1) :: full, last, ?_, short, newline,
          nul, ?_⟩
      · rw [linePieces, cut_of_long long, List.cons_append, ← split]
        rfl
      · rw [pieceWords_long noNewline noNul long nextLine, words,
          List.map_cons, List.cons_append]

/-- A line is read in its pieces. -/
theorem pieceWords_line
    {line : List UInt8}
    (noNewline : 10 ∉ line)
    (noNul : 0 ∉ line)
    (rest : List UInt8)
    (ending : Ending) :
    pieceWords ⟨line ++ 10 :: rest, ending⟩ =
      (linePieces line).map lineWords ++ pieceWords ⟨rest, ending⟩ := by
  obtain ⟨full, last, split, short, newline, nul, words⟩ :=
    pieceWords_cut noNewline noNul (Or.inr ⟨rest, rfl⟩) ending
  have size : (last ++ [10]).length = last.length + 1 := by
    rw [List.length_append, List.length_singleton]
  have found :
      upToNewline (shellLineMaxLen + 1) (last ++ 10 :: rest) =
        last ++ [10] := by
    rw [upToNewline_line newline, List.take_of_length_le]
    rw [size]
    exact Nat.succ_le_succ short
  have read :=
    @fgets_of_complete (last ++ 10 :: rest) _ ending found
      (List.append_ne_nil_of_right_ne_nil last (List.cons_ne_nil 10 []))
      (fun _ unfinished => absurd List.getLast?_concat unfinished)
  have left : (last ++ 10 :: rest).drop (last ++ [10]).length = rest := by
    rw [List.append_cons last 10 rest, List.drop_left]
  rw [left] at read
  have noNulBefore : 0 ∉ last ++ [10] := by
    rw [List.mem_append, not_or]
    exact ⟨nul, by decide⟩
  have same : lineWords (last ++ [10]) = lineWords last :=
    tokens_append_separators last (List.forall_mem_singleton.mpr rfl)
  rw [words, pieceWords_of_read read noNulBefore, same, split,
    List.map_append, List.append_assoc]
  rfl

/-- Of a line that a read error interrupts, the last piece is lost. -/
theorem pieceWords_interrupted
    {line : List UInt8}
    (noNewline : 10 ∉ line)
    (noNul : 0 ∉ line) :
    pieceWords ⟨line, .readError⟩ =
      (linePieces line).dropLast.map lineWords := by
  obtain ⟨full, last, split, short, newline, nul, words⟩ :=
    pieceWords_cut noNewline noNul (Or.inl rfl) .readError
  have found : upToNewline (shellLineMaxLen + 1) last = last := by
    rw [upToNewline_last newline, List.take_of_length_le]
    exact Nat.le_succ_of_le short
  have lost :
      fgets (shellLineMaxLen + 2) ⟨last, .readError⟩ =
        (none, ⟨[], .readError⟩) := by
    have limit : shellLineMaxLen + 2 - 1 = shellLineMaxLen + 1 :=
      rfl
    rw [fgets, limit]
    dsimp only
    rw [found, List.drop_length]
    by_cases empty : last = []
    · rw [if_pos empty]
    · have unfinished : last.getLast? ≠ some 10 := by
        intro same
        exact newline (List.mem_of_getLast? same)
      rw [if_neg empty, if_pos]
      exact ⟨Nat.lt_succ_of_le short, unfinished, rfl⟩
  rw [List.append_nil, List.append_nil, pieceWords_of_none lost,
    List.append_nil] at words
  rw [words, split, List.dropLast_concat]

/-- The last line is read in its pieces, but an empty piece is not read. -/
theorem pieceWords_last
    {line : List UInt8}
    (noNewline : 10 ∉ line)
    (noNul : 0 ∉ line) :
    (linePieces line).map lineWords = pieceWords ⟨line, .endOfFile⟩ ∨
      (linePieces line).map lineWords =
        pieceWords ⟨line, .endOfFile⟩ ++ [[]] := by
  obtain ⟨full, last, split, short, newline, nul, words⟩ :=
    pieceWords_cut noNewline noNul (Or.inl rfl) .endOfFile
  have found : upToNewline (shellLineMaxLen + 1) last = last := by
    rw [upToNewline_last newline, List.take_of_length_le]
    exact Nat.le_succ_of_le short
  rw [List.append_nil, List.append_nil] at words
  rw [split, List.map_append, words]
  by_cases empty : last = []
  · right
    have none : pieceWords ⟨last, .endOfFile⟩ = [] := by
      rw [empty]
      exact @pieceWords_of_none ⟨[], .endOfFile⟩ ⟨[], .endOfFile⟩ rfl
    rw [none, List.append_nil, empty]
    rfl
  · left
    have read :=
      @fgets_of_complete last _ .endOfFile found empty (fun _ _ => rfl)
    rw [List.drop_length] at read
    have none : pieceWords ⟨[], .endOfFile⟩ = [] :=
      @pieceWords_of_none ⟨[], .endOfFile⟩ ⟨[], .endOfFile⟩ rfl
    rw [pieceWords_of_read read nul, none]
    rfl

/--
The pieces that are read are those of the lines, and the full ones of a line
that is interrupted; an empty piece may be missing at the end of the file.
-/
theorem pieceWords_cases
    {characters : List UInt8}
    (noNul : 0 ∉ characters)
    (ending : Ending) :
    ∃ spare,
      pieceWords ⟨characters, ending⟩ ++ spare =
          (inputLines ⟨characters, ending⟩).flatMap
              (fun line => (linePieces line).map lineWords) ++
            (linePieces (interruptedLine ⟨characters, ending⟩)).dropLast.map
              lineWords ∧
        (spare = [] ∨ (spare = [[]] ∧ ending = .endOfFile)) := by
  induction size_eq : characters.length
    using Nat.strong_induction_on generalizing characters with
  | _ size inductionHypothesis =>
    rcases line_cases characters with
      noNewline | ⟨line, rest, noNewline, rfl⟩
    · cases ending with
      | endOfFile =>
          have lines :
              inputLines ⟨characters, .endOfFile⟩ = [characters] :=
            splitOn_of_last noNewline
          have nothing : linePieces [] = [[]] :=
            cut_of_short (Nat.zero_le _)
          rw [lines, List.flatMap_singleton]
          dsimp only [interruptedLine]
          rw [nothing, List.dropLast_singleton, List.map_nil,
            List.append_nil]
          rcases pieceWords_last noNewline noNul with same | spare
          · exact ⟨[], by rw [same, List.append_nil], Or.inl rfl⟩
          · exact ⟨[[]], spare.symm, Or.inr ⟨rfl, rfl⟩⟩
      | readError =>
          have lines : inputLines ⟨characters, .readError⟩ = [] := by
            simp only [inputLines, splitOn_of_last noNewline,
              List.dropLast_singleton]
          have last :
              interruptedLine ⟨characters, .readError⟩ = characters := by
            simp only [interruptedLine, splitOn_of_last noNewline]
            rfl
          rw [lines, last, pieceWords_interrupted noNewline noNul]
          exact ⟨[], List.append_nil _, Or.inl rfl⟩
    · rw [List.mem_append, List.mem_cons, not_or, not_or] at noNul
      obtain ⟨inLine, -, inRest⟩ := noNul
      have smaller : rest.length < size := by
        rw [← size_eq, List.length_append, List.length_cons]
        omega
      obtain ⟨spare, split, kind⟩ :=
        inductionHypothesis rest.length smaller inRest rfl
      obtain ⟨lines, last⟩ := inputLines_append noNewline rest ending
      refine ⟨spare, ?_, kind⟩
      rw [lines, last, pieceWords_line noNewline inLine,
        List.append_assoc, split, List.flatMap_cons, List.append_assoc]

end Ammc.Client
