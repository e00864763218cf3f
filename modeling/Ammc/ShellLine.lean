import Ammc.ClientCommands
import Ammc.Tokens
import Mathlib.Data.List.TakeWhile

namespace Ammc.Client

open ByteMemory Tokens

/-!
# From an input line to `argv`

`shell_loop` reads its lines with `fgets`, `shell_exec` copies the line it is
given.  Either way `_shell_exec` hands the string to `tokenize_line`, together
with an array of fixed length.  The assignments to the array are recorded, so
that one behind its end remains visible.
-/

/-- `SHELL_LINE_MAX_LEN` -/
def shellLineMaxLen : Nat := 2046

/-- The length of the array `argv` in `_shell_exec`. -/
def argvLength : Nat := shellLineMaxLen / 2 + 1

/-! ## Reading a line -/

/-- What comes behind the last character of an input. -/
inductive Ending where
  | endOfFile
  | readError
  deriving Repr, DecidableEq

/-- What can still be read from a stream. -/
structure Input where
  characters : List UInt8
  ending : Ending
  deriving Repr, DecidableEq

/-- The characters up to a newline, and at most `limit` of them. -/
def upToNewline : Nat → List UInt8 → List UInt8
  | 0, _ => []
  | _ + 1, [] => []
  | limit + 1, c :: characters =>
      if c = 10 then [c] else c :: upToNewline limit characters

/--
The characters that `fgets` stores, if it does not return `NULL`, and what is
left of the input.  A line that is interrupted by a read error is lost.
-/
def fgets
    (size : Nat)
    (input : Input) : Option (List UInt8) × Input :=
  let line := upToNewline (size - 1) input.characters
  let left :=
    { input with characters := input.characters.drop line.length }
  if line = [] then
    (none, left)
  else if line.length < size - 1 ∧ line.getLast? ≠ some 10 ∧
      input.ending = .readError then
    (none, left)
  else
    (some line, left)

/-- `strncpy` from a string with the characters `text`. -/
def strncpy
    (dest : Memory)
    (text : List UInt8)
    (count : Nat) : Memory :=
  dest.store 0
    (text.take count ++ List.replicate (count - text.length) 0)

/-- The copy that `shell_exec` makes of its line. -/
def shellExecCopy
    (line : Memory)
    (text : List UInt8) : Memory :=
  (strncpy line text shellLineMaxLen).store (shellLineMaxLen - 1) [0]

/-- The strings that `_shell_exec` is called with. -/
inductive Obtained : List UInt8 → Prop where
  | fgets
      {input left : Input}
      {characters : List UInt8}
      (line : Memory)
      (read : fgets (shellLineMaxLen + 2) input = (some characters, left)) :
      Obtained
        (cString (line.store 0 (characters ++ [0])) (shellLineMaxLen + 2))
  | copied
      (line : Memory)
      {text : List UInt8}
      (noNul : 0 ∉ text) :
      Obtained (cString (shellExecCopy line text) shellLineMaxLen)

/-! ## Cutting it into words -/

/-- The delimiters of `tokenize_line`. -/
def isDelimiter (c : UInt8) : Bool :=
  c = 32 || c = 9 || c = 10

/-- A character of a word. -/
def inWord (c : UInt8) : Bool :=
  !isDelimiter c

/--
`strtok` with these delimiters.  `saved` is the string at the pointer that it
keeps between two calls; the string that it returns ends where it has put a NUL.
-/
def strtok
    (str : Option (List UInt8))
    (saved : List UInt8) : Option (List UInt8) × List UInt8 :=
  let text := (str.getD saved).dropWhile isDelimiter
  if text = [] then
    (none, [])
  else
    (some (text.takeWhile inWord), (text.dropWhile inWord).tail)

/-- The pointers in `argv`, and the indices that have been assigned so far. -/
structure Argv where
  entry : Nat → Option (List UInt8)
  written : List Nat

/-- `argv[index] = pointer` -/
def Argv.assign
    (argv : Argv)
    (index : Nat)
    (pointer : Option (List UInt8)) : Argv where
  entry := Function.update argv.entry index pointer
  written := argv.written ++ [index]

/-- An array in which nothing has been assigned yet. -/
def Argv.uninitialised (entry : Nat → Option (List UInt8)) : Argv where
  entry := entry
  written := []

/-- What `strtok` leaves is shorter than what it was given. -/
theorem length_saved_lt
    {saved token rest : List UInt8}
    (found : strtok none saved = (some token, rest)) :
    rest.length < saved.length := by
  rw [strtok, Option.getD_none] at found
  split at found
  · cases found
  · rename_i nonempty
    cases found
    have dropped :=
      (List.dropWhile_suffix isDelimiter (l := saved)).length_le
    have positive := List.length_pos_iff.mpr nonempty
    have taken :=
      (List.dropWhile_suffix inWord
        (l := saved.dropWhile isDelimiter)).length_le
    rw [List.length_tail]
    omega

/-- The loop of `tokenize_line`. -/
def tokenizeLoop
    (argc : Nat)
    (saved : List UInt8)
    (argv : Argv) : Nat × Argv :=
  match found : strtok none saved with
  | (none, _) => (argc, argv.assign argc none)
  | (some token, rest) =>
      tokenizeLoop (argc + 1) rest (argv.assign argc (some token))
termination_by saved.length
decreasing_by exact length_saved_lt found

/-- `tokenize_line` -/
def tokenizeLine
    (line : List UInt8)
    (argv : Argv) : Nat × Argv :=
  let (token, saved) := strtok (some line) []
  let argv := argv.assign 0 token
  if token = none then
    (0, argv)
  else
    let (argc, argv) := tokenizeLoop 1 saved argv
    (argc, argv.assign argc none)

/-! ## What is assigned -/

/-- Consecutive assignments. -/
def Argv.assignFrom
    (argv : Argv)
    (index : Nat) : List (Option (List UInt8)) → Argv
  | [] => argv
  | pointer :: pointers =>
      (argv.assign index pointer).assignFrom (index + 1) pointers

theorem Argv.written_assignFrom
    (argv : Argv)
    (index : Nat)
    (pointers : List (Option (List UInt8))) :
    (argv.assignFrom index pointers).written =
      argv.written ++ List.range' index pointers.length := by
  induction pointers generalizing argv index with
  | nil => rw [assignFrom, List.length_nil, List.range'_zero, List.append_nil]
  | cons pointer pointers inductionHypothesis =>
      rw [assignFrom, inductionHypothesis, assign, List.append_assoc,
        List.length_cons, List.range'_succ]
      rfl

/-- Later assignments do not change what is in front of them. -/
theorem Argv.entry_assignFrom_before
    (argv : Argv)
    {index position : Nat}
    (before : position < index)
    (pointers : List (Option (List UInt8))) :
    (argv.assignFrom index pointers).entry position =
      argv.entry position := by
  induction pointers generalizing argv index with
  | nil => rfl
  | cons pointer pointers inductionHypothesis =>
      rw [assignFrom, inductionHypothesis _ (by omega), assign]
      exact Function.update_of_ne (Nat.ne_of_lt before) _ _

theorem Argv.entry_assignFrom
    (argv : Argv)
    (index : Nat)
    {pointers : List (Option (List UInt8))}
    {position : Nat}
    (inRange : position < pointers.length) :
    (argv.assignFrom index pointers).entry (index + position) =
      pointers[position] := by
  induction pointers generalizing argv index position with
  | nil => exact absurd inRange (Nat.not_lt_zero position)
  | cons pointer pointers inductionHypothesis =>
      cases position with
      | zero =>
          rw [Nat.add_zero, assignFrom,
            entry_assignFrom_before _ (Nat.lt_succ_self index), assign]
          exact Function.update_self _ _ _
      | succ position =>
          have inRest : position < pointers.length :=
            Nat.lt_of_succ_lt_succ inRange
          rw [assignFrom, List.getElem_cons_succ, ← Nat.add_assoc,
            Nat.add_right_comm]
          exact inductionHypothesis _ _ inRest

/-! ## `strtok` finds the tokens -/

/-- A leading delimiter is skipped. -/
theorem strtok_cons
    {c : UInt8}
    (delimiter : isDelimiter c = true)
    (text : List UInt8) :
    strtok none (c :: text) = strtok none text := by
  rw [strtok, strtok, Option.getD_none, Option.getD_none,
    List.dropWhile_cons_of_pos delimiter]

/-- A word is returned without what stops it. -/
theorem strtok_append
    {token rest : List UInt8}
    (isToken : IsToken isDelimiter token)
    (stops : ∀ c, rest[0]? = some c → isDelimiter c = true) :
    strtok none (token ++ rest) = (some token, rest.tail) := by
  obtain ⟨kept, taken, left⟩ := isToken.cut stops
  have nonempty : token ++ rest ≠ [] :=
    List.append_ne_nil_of_left_ne_nil isToken.nonempty rest
  have same : inWord = fun c => !isDelimiter c :=
    rfl
  rw [strtok, Option.getD_none, kept, if_neg nonempty, same, taken, left]

/-- A call finds the next token, or there is none. -/
theorem strtok_cases (text : List UInt8) :
    (strtok none text = (none, []) ∧ tokens isDelimiter text = []) ∨
      ∃ token rest,
        strtok none text = (some token, rest) ∧
          tokens isDelimiter text = token :: tokens isDelimiter rest := by
  induction text using token_induction isDelimiter with
  | nil => exact Or.inl ⟨rfl, tokens_nil⟩
  | skip c text delimiter inductionHypothesis =>
      rw [strtok_cons delimiter, tokens_cons_of_separator delimiter]
      exact inductionHypothesis
  | last token isToken =>
      right
      have found :=
        @strtok_append token [] isToken (by rintro c ⟨⟩)
      rw [List.append_nil] at found
      refine ⟨token, [], found, ?_⟩
      rw [tokens_of_isToken isToken, tokens_nil]
  | next token c text isToken delimiter _ =>
      right
      have stops :
          ∀ d, (c :: text)[0]? = some d → isDelimiter d = true := by
        rintro d ⟨⟩
        exact delimiter
      exact
        ⟨token, text, strtok_append isToken stops,
          tokens_append isToken delimiter text⟩

/-- The loop ends where no token is left. -/
theorem tokenizeLoop_last
    {argc : Nat}
    {saved rest : List UInt8}
    {argv : Argv}
    (found : strtok none saved = (none, rest)) :
    tokenizeLoop argc saved argv = (argc, argv.assign argc none) := by
  rw [tokenizeLoop]
  split
  · rfl
  · rename_i _ _ other
    rw [found] at other
    cases other

/-- The loop assigns a token and goes on behind it. -/
theorem tokenizeLoop_next
    {argc : Nat}
    {saved token rest : List UInt8}
    {argv : Argv}
    (found : strtok none saved = (some token, rest)) :
    tokenizeLoop argc saved argv =
      tokenizeLoop (argc + 1) rest (argv.assign argc (some token)) := by
  rw [tokenizeLoop]
  split
  · rename_i _ other
    rw [found] at other
    cases other
  · rename_i _ _ other
    rw [found] at other
    cases other
    rfl

/-- The loop assigns the tokens, and `NULL` behind them. -/
theorem tokenizeLoop_eq
    (argc : Nat)
    (saved : List UInt8)
    (argv : Argv) :
    tokenizeLoop argc saved argv =
      (argc + (tokens isDelimiter saved).length,
        argv.assignFrom argc
          ((tokens isDelimiter saved).map some ++ [none])) := by
  induction argc, saved, argv using tokenizeLoop.induct with
  | case1 argc saved argv rest found =>
      rcases strtok_cases saved with ⟨_, noTokens⟩ | ⟨token, later, next, _⟩
      · rw [tokenizeLoop_last found, noTokens]
        rfl
      · rw [found] at next
        cases next
  | case2 argc saved argv token rest found inductionHypothesis =>
      rcases strtok_cases saved with ⟨ends, _⟩ | ⟨_, _, next, further⟩
      · rw [found] at ends
        cases ends
      · rw [found] at next
        cases next
        rw [tokenizeLoop_next found, inductionHypothesis, further,
          List.length_cons, Nat.add_right_comm, Nat.add_assoc]
        rfl

/--
`tokenize_line` counts the tokens and assigns them, with a `NULL` behind them
that is assigned once more when there are any.
-/
theorem tokenizeLine_eq
    (line : List UInt8)
    (argv : Argv) :
    tokenizeLine line argv =
      ((tokens isDelimiter line).length,
        argv.assignFrom 0
          ((tokens isDelimiter line).map some ++ [none]) |>.assignFrom
            (tokens isDelimiter line).length
            (if tokens isDelimiter line = [] then [] else [none])) := by
  have first : strtok (some line) [] = strtok none line :=
    rfl
  rcases strtok_cases line with ⟨ends, noTokens⟩ | ⟨token, rest, next, all⟩
  · rw [tokenizeLine, first, ends, noTokens]
    rfl
  · rw [tokenizeLine, first, next, all]
    dsimp only
    rw [if_neg (by rintro ⟨⟩), if_neg (List.cons_ne_nil _ _),
      tokenizeLoop_eq, List.length_cons, Nat.add_comm 1]
    rfl

/-- The tokens are where `argc` says, and `NULL` is behind them. -/
theorem entry_tokenizeLine
    (line : List UInt8)
    (argv : Argv)
    {index : Nat}
    (counted : index ≤ (tokenizeLine line argv).1) :
    (tokenizeLine line argv).2.entry index =
      (tokens isDelimiter line)[index]? := by
  rw [tokenizeLine_eq] at counted ⊢
  dsimp only at counted ⊢
  generalize tokens isDelimiter line = words at counted ⊢
  have inRange : index < (words.map some ++ [none]).length := by
    rw [List.length_append, List.length_map, List.length_singleton]
    omega
  have inLoop :
      (argv.assignFrom 0 (words.map some ++ [none])).entry index =
        words[index]? := by
    have assigned := argv.entry_assignFrom 0 inRange
    rw [Nat.zero_add] at assigned
    rw [assigned]
    rcases Nat.lt_or_eq_of_le counted with inside | rfl
    · rw [List.getElem_append_left (by rwa [List.length_map]),
        List.getElem_map, List.getElem?_eq_getElem inside]
    · simp
  rcases Nat.lt_or_eq_of_le counted with inside | rfl
  · rw [Argv.entry_assignFrom_before _ inside, inLoop]
  · split
    · exact inLoop
    · have single : 0 < [(none : Option (List UInt8))].length :=
        Nat.zero_lt_one
      have again :=
        (argv.assignFrom 0 (words.map some ++ [none])).entry_assignFrom
          words.length single
      rw [Nat.add_zero] at again
      rw [again, List.getElem?_eq_none (Nat.le_refl _)]
      rfl

/-- The elements that are assigned are those up to `argc`. -/
theorem mem_written_tokenizeLine
    (line : List UInt8)
    (entry : Nat → Option (List UInt8))
    (index : Nat) :
    index ∈
        (tokenizeLine line (Argv.uninitialised entry)).2.written ↔
      index ≤ (tokens isDelimiter line).length := by
  rw [tokenizeLine_eq]
  dsimp only
  rw [Argv.written_assignFrom, Argv.written_assignFrom,
    Argv.uninitialised, List.nil_append, List.mem_append,
    List.mem_range'_1, List.length_append, List.length_map,
    List.length_singleton]
  split
  · rw [List.length_nil, List.range'_zero, List.mem_nil_iff, or_false]
    omega
  · rw [List.length_singleton, List.mem_range'_1]
    omega

/-! ## The array is long enough -/

/--
All assignments are to elements of the array, and `argc` is the number of
maximal runs of characters that are not delimiters.
-/
structure Tokenizes (line : List UInt8) : Prop where
  inside :
    ∀ entry, ∀ index ∈
        (tokenizeLine line (Argv.uninitialised entry)).2.written,
      index < argvLength
  counted :
    ∀ argv,
      (runs isDelimiter line).encard = (tokenizeLine line argv).1

/-- A string ends at its first NUL. -/
theorem length_cString_le
    {text : Memory}
    {position : Nat}
    (nul : text position = 0)
    (limit : Nat) :
    (cString text limit).length ≤ position := by
  by_contra long
  have inside : position < (cString text limit).length :=
    Nat.not_le.mp long
  have whole : cString text limit <+: text.bytes 0 limit :=
    List.takeWhile_prefix _
  have same : (cString text limit)[position] = text position := by
    rw [whole.getElem inside]
    simp [Memory.bytes]
  have nonzero :=
    List.mem_takeWhile_imp (List.getElem_mem inside)
  rw [same, nul] at nonzero
  cases nonzero

theorem length_cString_le_limit
    (text : Memory)
    (limit : Nat) :
    (cString text limit).length ≤ limit := by
  have whole : cString text limit <+: text.bytes 0 limit :=
    List.takeWhile_prefix _
  have bound := whole.length_le
  rwa [Memory.length_bytes] at bound

/-- No more than `limit` characters are read up to a newline. -/
theorem length_upToNewline_le
    (limit : Nat)
    (characters : List UInt8) :
    (upToNewline limit characters).length ≤ limit := by
  induction limit, characters using upToNewline.induct with
  | case1 characters => exact Nat.le_refl 0
  | case2 limit => exact Nat.zero_le _
  | case3 limit characters =>
      rw [upToNewline, if_pos rfl]
      exact Nat.succ_le_succ (Nat.zero_le limit)
  | case4 limit c characters other inductionHypothesis =>
      rw [upToNewline, if_neg other, List.length_cons]
      exact Nat.succ_le_succ inductionHypothesis

/-- What `fgets` has read when it does not return `NULL`. -/
theorem fgets_eq_some
    {size : Nat}
    {input left : Input}
    {characters : List UInt8}
    (read : fgets size input = (some characters, left)) :
    characters = upToNewline (size - 1) input.characters := by
  rw [fgets] at read
  split at read
  · cases read
  split at read
  · cases read
  · cases read
    rfl

/-- The strings are at most one character longer than intended. -/
theorem Obtained.length_le
    {line : List UInt8}
    (obtained : Obtained line) :
    line.length ≤ shellLineMaxLen + 1 := by
  cases obtained with
  | @fgets input left characters memory read =>
      have short : characters.length ≤ shellLineMaxLen + 1 := by
        rw [fgets_eq_some read]
        exact length_upToNewline_le _ _
      have nul :
          memory.store 0 (characters ++ [0]) characters.length = 0 := by
        have stored :=
          memory.store_at 0
            (show characters.length < (characters ++ [0]).length by simp)
        rw [Nat.zero_add] at stored
        rw [stored]
        simp
      exact Nat.le_trans (length_cString_le nul _) short
  | copied memory noNul =>
      exact Nat.le_succ_of_le (length_cString_le_limit _ _)

/-- Characters without a newline are read up to the limit. -/
theorem upToNewline_of_short
    {limit : Nat}
    {characters : List UInt8}
    (short : characters.length ≤ limit)
    (noNewline : 10 ∉ characters) :
    upToNewline limit characters = characters := by
  induction limit, characters using upToNewline.induct with
  | case1 characters =>
      exact (List.eq_nil_of_length_eq_zero (Nat.le_zero.mp short)).symm
  | case2 limit => rfl
  | case3 limit characters =>
      exact absurd List.mem_cons_self noNewline
  | case4 limit c characters other inductionHypothesis =>
      rw [upToNewline, if_neg other,
        inductionHypothesis (Nat.le_of_succ_le_succ short)
          fun member => noNewline (List.mem_cons_of_mem c member)]

/-- A string in an array is read up to its NUL. -/
theorem cString_of_noNul
    (memory : Memory)
    {text : List UInt8}
    {limit : Nat}
    (fits : text.length < limit)
    (noNul : 0 ∉ text) :
    cString (memory.store 0 (text ++ [0])) limit = text := by
  obtain ⟨behind, rfl⟩ := Nat.exists_eq_add_of_lt fits
  have whole :=
    memory.bytes_store_self 0 (text ++ [0])
  have size : (text ++ [0]).length = text.length + 1 := by
    rw [List.length_append, List.length_singleton]
  rw [size] at whole
  have ordinary : ∀ c ∈ text, decide (c ≠ 0) = true := by
    intro c member
    refine decide_eq_true ?_
    rintro rfl
    exact noNul member
  rw [cString, Nat.add_right_comm, Memory.bytes_add, whole,
    List.append_assoc, List.takeWhile_append_of_pos ordinary,
    List.singleton_append, List.takeWhile_cons_of_neg (by decide),
    List.append_nil]

/-- A line without NUL reaches `tokenize_line` as it was read. -/
theorem obtained_of_fgets
    {input left : Input}
    {line : List UInt8}
    (read : fgets (shellLineMaxLen + 2) input = (some line, left))
    (noNul : 0 ∉ line) :
    Obtained line := by
  have short : line.length < shellLineMaxLen + 2 := by
    rw [fgets_eq_some read]
    exact Nat.lt_succ_of_le (length_upToNewline_le _ _)
  have obtained := Obtained.fgets (fun _ => 0) read
  rwa [cString_of_noNul _ short noNul] at obtained

/-- The bound on the number of words is exceeded by one kind of line only. -/
theorem length_tokens_lt_iff
    {line : List UInt8}
    (short : line.length ≤ shellLineMaxLen + 1) :
    (tokens isDelimiter line).length < argvLength ↔
      ¬ (line.length = shellLineMaxLen + 1 ∧
        Alternating isDelimiter line) := by
  rw [shellLineMaxLen] at short ⊢
  rw [argvLength, shellLineMaxLen]
  constructor
  · rintro few ⟨longest, alternating⟩
    have most := alternating.two_mul_length_tokens
    omega
  · intro ordinary
    by_contra many
    have bound := two_mul_length_tokens_le isDelimiter line
    have longest : line.length = 2046 + 1 := by
      omega
    have most :
        2 * (tokens isDelimiter line).length = line.length + 1 := by
      omega
    exact ordinary ⟨longest, alternating_of_two_mul_length_tokens most⟩

/--
The array is long enough for every line, except one of the greatest length in
which single characters and single delimiters alternate.
-/
theorem tokenizes_iff
    {line : List UInt8}
    (obtained : Obtained line) :
    Tokenizes line ↔
      ¬ (line.length = shellLineMaxLen + 1 ∧
        Alternating isDelimiter line) := by
  rw [← length_tokens_lt_iff obtained.length_le]
  constructor
  · intro tokenizes
    exact
      tokenizes.inside (fun _ => none) _
        ((mem_written_tokenizeLine line _ _).mpr (Nat.le_refl _))
  · intro few
    refine ⟨fun entry index member => ?_, fun argv => ?_⟩
    · have upTo := (mem_written_tokenizeLine line entry index).mp member
      exact Nat.lt_of_le_of_lt upTo few
    · rw [encard_runs, tokenizeLine_eq]

/-- The line `ping 5`, with its newline. -/
def pingLine : List UInt8 :=
  [112, 105, 110, 103, 32, 53, 10]

theorem pingLine_tokenizes : Tokenizes pingLine := by
  have read :
      fgets (shellLineMaxLen + 2) ⟨pingLine, .endOfFile⟩ =
        (some pingLine, ⟨[], .endOfFile⟩) := by
    decide
  refine (tokenizes_iff (obtained_of_fgets read (by decide))).mpr ?_
  rintro ⟨longest, _⟩
  cases longest

/-- The word `a` again and again, with spaces between. -/
def manyWords : Nat → List UInt8
  | 0 => [97]
  | count + 1 => 97 :: 32 :: manyWords count

theorem length_manyWords (count : Nat) :
    (manyWords count).length = 2 * count + 1 := by
  induction count with
  | zero => rfl
  | succ count inductionHypothesis =>
      rw [manyWords, List.length_cons, List.length_cons,
        inductionHypothesis]
      omega

theorem mem_manyWords
    {count : Nat}
    {c : UInt8}
    (member : c ∈ manyWords count) :
    c = 97 ∨ c = 32 := by
  induction count with
  | zero => exact Or.inl (List.mem_singleton.mp member)
  | succ count inductionHypothesis =>
      rw [manyWords, List.mem_cons, List.mem_cons] at member
      rcases member with word | space | later
      · exact Or.inl word
      · exact Or.inr space
      · exact inductionHypothesis later

theorem alternating_manyWords (count : Nat) :
    Alternating isDelimiter (manyWords count) := by
  induction count with
  | zero => exact .last (by decide)
  | succ count inductionHypothesis =>
      exact .more (by decide) (by decide) inductionHypothesis

/-- 1024 words fill the buffer of `shell_loop`, and `NULL` is behind `argv`. -/
theorem manyWords_overflow :
    Obtained (manyWords 1023) ∧ ¬ Tokenizes (manyWords 1023) := by
  have longest : (manyWords 1023).length = shellLineMaxLen + 1 :=
    length_manyWords 1023
  constructor
  · have noNewline : 10 ∉ manyWords 1023 := by
      intro member
      exact absurd (mem_manyWords member) (by decide)
    have noNul : 0 ∉ manyWords 1023 := by
      intro member
      exact absurd (mem_manyWords member) (by decide)
    have whole :
        upToNewline (shellLineMaxLen + 2 - 1) (manyWords 1023) =
          manyWords 1023 :=
      upToNewline_of_short (Nat.le_of_eq longest) noNewline
    have nonempty : manyWords 1023 ≠ [] := by
      intro empty
      rw [empty] at longest
      cases longest
    refine
      @obtained_of_fgets ⟨manyWords 1023, .endOfFile⟩
        ⟨(manyWords 1023).drop (manyWords 1023).length, .endOfFile⟩ _ ?_
        noNul
    rw [fgets]
    dsimp only
    rw [whole, if_neg nonempty, if_neg]
    rintro ⟨_, _, ⟨⟩⟩
  · intro tokenizes
    have few :=
      tokenizes.inside (fun _ => none) _
        ((mem_written_tokenizeLine _ _ _).mpr (Nat.le_refl _))
    exact
      (length_tokens_lt_iff (Nat.le_of_eq longest)).mp few
        ⟨longest, alternating_manyWords 1023⟩

end Ammc.Client
