import Ammc.ClientCommands

namespace Ammc.Client

open ByteMemory Packet

/-!
# The string that `dev-echo` sends

`_prepare_echo_string` joins its arguments with single spaces, or reports that
the result would not fit the 31 bytes of its buffer with its terminator.
-/

/-- The arguments of `dev-echo`, joined by single spaces. -/
def echoText (args : List Word) : List UInt8 :=
  List.intercalate [0x20] (args.map Word.text)

/-- What the loop still has to append once a first token is in place. -/
def spaced (tokens : List (List UInt8)) : List UInt8 :=
  tokens.flatMap fun token => 0x20 :: token

/-- Joined words are the first word and the others, each after a space. -/
theorem intercalate_eq_spaced
    (token : List UInt8)
    (tokens : List (List UInt8)) :
    List.intercalate [0x20] (token :: tokens) = token ++ spaced tokens := by
  induction tokens generalizing token with
  | nil =>
      simp [spaced]
  | cons next tokens inductionHypothesis =>
      rw [List.intercalate_cons_cons, inductionHypothesis next]
      simp [spaced]

/-- A token and its terminator are stored behind a space. -/
theorem bytes_store_spaced
    (dest : Memory)
    (strLen : Nat)
    (token : List UInt8) :
    ((dest.store strLen [0x20]).store (strLen + 1) (token ++ [0])).bytes
        0 (strLen + 1 + token.length) =
      dest.bytes 0 strLen ++ 0x20 :: token := by
  have space :
      (dest.store strLen [0x20]).bytes 0 (strLen + 1) =
        dest.bytes 0 strLen ++ [0x20] := by
    have stored := dest.bytes_store_self strLen [0x20]
    rw [List.length_singleton] at stored
    rw [Memory.bytes_add, Memory.bytes_store_before _ _ (by omega),
      Nat.zero_add, stored]
  rw [Memory.bytes_add, Memory.bytes_store_before _ _ (by omega), space,
    Nat.zero_add, Memory.bytes_store_prefix, List.append_assoc]
  rfl

theorem length_spaced_cons
    (token : List UInt8)
    (tokens : List (List UInt8)) :
    (spaced (token :: tokens)).length =
      1 + token.length + (spaced tokens).length := by
  simp [spaced]
  omega

/-- The loop finishes the string where there is room for it. -/
theorem prepareEchoStringFrom_filled
    {tokens : List (List UInt8)}
    {dest : Memory}
    {strLen : Nat}
    (begun : strLen ≠ 0)
    (fits : strLen + (spaced tokens).length ≤ 30) :
    ∃ filled,
      prepareEchoStringFrom dest strLen tokens =
        (UInt8.ofNat (strLen + (spaced tokens).length), filled) ∧
      filled.bytes 0 (strLen + (spaced tokens).length + 1) =
        dest.bytes 0 strLen ++ spaced tokens ++ [0] := by
  induction tokens generalizing dest strLen with
  | nil =>
      have stored := dest.bytes_store_self strLen [0]
      refine ⟨dest.store strLen [0], rfl, ?_⟩
      change
        (dest.store strLen [0]).bytes 0 (strLen + 1) =
          dest.bytes 0 strLen ++ [] ++ [0]
      rw [List.append_nil, Memory.bytes_add,
        Memory.bytes_store_before _ _ (by omega), Nat.zero_add]
      exact congrArg (dest.bytes 0 strLen ++ ·) stored
  | cons token tokens inductionHypothesis =>
      rw [length_spaced_cons] at fits
      have short : ¬ strLen + 1 + token.length ≥ bodyMaxLen - 1 := by
        simp only [bodyMaxLen]
        omega
      obtain ⟨filled, prepared, stored⟩ :=
        @inductionHypothesis
          ((dest.store strLen [0x20]).store (strLen + 1) (token ++ [0]))
          (strLen + 1 + token.length) (by omega) (by omega)
      have total :
          strLen + (spaced (token :: tokens)).length =
            strLen + 1 + token.length + (spaced tokens).length := by
        rw [length_spaced_cons]
        omega
      refine ⟨filled, ?_, ?_⟩
      · rw [prepareEchoStringFrom, if_pos begun, if_neg short,
          if_pos begun, prepared, total]
      · rw [total, stored, bytes_store_spaced]
        simp [spaced]

/-- The loop refuses a string for which there is no room. -/
theorem prepareEchoStringFrom_refused
    {tokens : List (List UInt8)}
    {dest : Memory}
    {strLen : Nat}
    (begun : strLen ≠ 0)
    (short : strLen ≤ 30)
    (tooLong : 30 < strLen + (spaced tokens).length) :
    (prepareEchoStringFrom dest strLen tokens).1 = 0xFF := by
  induction tokens generalizing dest strLen with
  | nil =>
      change 30 < strLen at tooLong
      omega
  | cons token tokens inductionHypothesis =>
      rw [length_spaced_cons] at tooLong
      rw [prepareEchoStringFrom, if_pos begun]
      split
      · rfl
      · rename_i room
        simp only [bodyMaxLen] at room
        exact inductionHypothesis (by omega) (by omega) (by omega)

/-- The first token starts the string, if there is room for it. -/
theorem prepareEchoString_cons
    (dest : Memory)
    (word : Word)
    (words : List Word) :
    prepareEchoString dest (word :: words) =
      if word.text.length ≥ bodyMaxLen - 1 then
        (0xFF, dest)
      else
        prepareEchoStringFrom (dest.store 0 (word.text ++ [0]))
          word.text.length (words.map Word.text) := by
  rw [prepareEchoString, List.map_cons, prepareEchoStringFrom]
  simp only [ne_eq, not_true_eq_false, ↓reduceIte, Nat.zero_add]

theorem length_echoText_cons
    (word : Word)
    (words : List Word) :
    (echoText (word :: words)).length =
      word.text.length + (spaced (words.map Word.text)).length := by
  rw [echoText, List.map_cons, intercalate_eq_spaced, List.length_append]

/-- A string for which there is room is joined and terminated. -/
theorem prepareEchoString_filled
    (dest : Memory)
    {args : List Word}
    (given : args ≠ [])
    (fits : (echoText args).length ≤ 30) :
    ∃ filled,
      prepareEchoString dest args =
        (UInt8.ofNat (echoText args).length, filled) ∧
      filled.bytes 0 ((echoText args).length + 1) =
        echoText args ++ [0] := by
  obtain ⟨word, words, rfl⟩ := List.exists_cons_of_ne_nil given
  have begun : word.text.length ≠ 0 :=
    Nat.ne_of_gt (List.length_pos_iff.mpr word.nonempty)
  have text :
      echoText (word :: words) =
        word.text ++ spaced (words.map Word.text) :=
    intercalate_eq_spaced _ _
  rw [length_echoText_cons] at fits
  have room : ¬ word.text.length ≥ bodyMaxLen - 1 := by
    simp only [bodyMaxLen]
    omega
  obtain ⟨filled, prepared, stored⟩ :=
    @prepareEchoStringFrom_filled (words.map Word.text)
      (dest.store 0 (word.text ++ [0])) _ begun fits
  refine ⟨filled, ?_, ?_⟩
  · rw [prepareEchoString_cons, if_neg room, prepared,
      length_echoText_cons]
  · rw [length_echoText_cons, stored, Memory.bytes_store_prefix, text]

/-- A string for which there is no room is refused. -/
theorem prepareEchoString_refused
    (dest : Memory)
    {args : List Word}
    (given : args ≠ [])
    (tooLong : 30 < (echoText args).length) :
    (prepareEchoString dest args).1 = 0xFF := by
  obtain ⟨word, words, rfl⟩ := List.exists_cons_of_ne_nil given
  have begun : word.text.length ≠ 0 :=
    Nat.ne_of_gt (List.length_pos_iff.mpr word.nonempty)
  rw [length_echoText_cons] at tooLong
  rw [prepareEchoString_cons]
  split
  · rfl
  · rename_i room
    simp only [bodyMaxLen] at room
    exact prepareEchoStringFrom_refused begun (by omega) tooLong

/-- What `_prepare_echo_string` makes of at least one argument. -/
theorem prepareEchoString_spec
    (dest : Memory)
    {args : List Word}
    (given : args ≠ []) :
    ((echoText args).length ≤ 30 →
      ∃ filled,
        prepareEchoString dest args =
          (UInt8.ofNat (echoText args).length, filled) ∧
        filled.bytes 0 (echoText args).length = echoText args) ∧
    (30 < (echoText args).length →
      (prepareEchoString dest args).1 = 0xFF) := by
  refine ⟨fun fits => ?_, prepareEchoString_refused dest given⟩
  obtain ⟨filled, prepared, stored⟩ :=
    prepareEchoString_filled dest given fits
  refine ⟨filled, prepared, ?_⟩
  rw [Memory.bytes_add] at stored
  exact (List.append_inj stored (filled.length_bytes _ _)).1

end Ammc.Client
