import Ammc.ByteMemory

namespace Ammc.Numerals

/-!
# Numerals at the beginning of a string

The conversions of the C library skip white space, take a sign and as many
digits as there are, and leave the rest.  The value of a numeral is a number
without bounds; the conversions bring it into the range of `unsigned long` or
`long`.
-/

/-- How the digits of a numeral are written: in decimal, or as a C constant. -/
inductive Notation where
  | decimal
  | constant
  deriving Repr, DecidableEq

/-- `isspace` in the C locale. -/
def isSpace (c : UInt8) : Bool :=
  c = 32 || 9 ≤ c && c ≤ 13

/-- The value of a digit up to `f`; other characters have the value 16. -/
def digitValue (c : UInt8) : Nat :=
  if 48 ≤ c ∧ c ≤ 57 then
    c.toNat - 48
  else if 97 ≤ c ∧ c ≤ 102 then
    c.toNat - 87
  else if 65 ≤ c ∧ c ≤ 70 then
    c.toNat - 55
  else
    16

/-- A digit of a numeral to some base up to 16. -/
def isDigit (base : Nat) (c : UInt8) : Bool :=
  digitValue c < base

/-- The second character of a hexadecimal prefix. -/
def isX (c : UInt8) : Bool :=
  c = 120 || c = 88

/-- The number that some digits stand for. -/
def magnitude
    (base : Nat)
    (digits : List UInt8) : Nat :=
  digits.foldl (fun value c => base * value + digitValue c) 0

/-- A number with its sign. -/
def signed (negative : Bool) (magnitude : Nat) : Int :=
  if negative then -magnitude else magnitude

/-! ## What a numeral is -/

/-- Digits without a sign, and the number they stand for. -/
inductive Unsigned : Notation → List UInt8 → Nat → Prop where
  | decimal
      {digits : List UInt8}
      (nonempty : digits ≠ [])
      (all : ∀ c ∈ digits, isDigit 10 c = true) :
      Unsigned .decimal digits (magnitude 10 digits)
  | leading
      {digits : List UInt8}
      (nonempty : digits ≠ [])
      (all : ∀ c ∈ digits, isDigit 10 c = true)
      (nonzero : digits.head? ≠ some 48) :
      Unsigned .constant digits (magnitude 10 digits)
  | octal
      {digits : List UInt8}
      (zero : digits.head? = some 48)
      (all : ∀ c ∈ digits, isDigit 8 c = true) :
      Unsigned .constant digits (magnitude 8 digits)
  | hexadecimal
      {x : UInt8}
      {digits : List UInt8}
      (isX : isX x = true)
      (nonempty : digits ≠ [])
      (all : ∀ c ∈ digits, isDigit 16 c = true) :
      Unsigned .constant (48 :: x :: digits) (magnitude 16 digits)

/-- A numeral with or without a sign, and its value. -/
inductive Denotes (writing : Notation) : List UInt8 → Int → Prop where
  | unsigned
      {digits : List UInt8}
      {number : Nat}
      (unsigned : Unsigned writing digits number) :
      Denotes writing digits number
  | positive
      {digits : List UInt8}
      {number : Nat}
      (unsigned : Unsigned writing digits number) :
      Denotes writing (43 :: digits) number
  | negative
      {digits : List UInt8}
      {number : Nat}
      (unsigned : Unsigned writing digits number) :
      Denotes writing (45 :: digits) (-number)

/-! ## How a numeral is read -/

/-- What was read from a string, and what is left of it. -/
structure Reading where
  negative : Bool
  magnitude : Nat
  rest : List UInt8
  deriving Repr, DecidableEq

/-- The value of the numeral that was read. -/
def Reading.value (reading : Reading) : Int :=
  signed reading.negative reading.magnitude

/-- A sign, if there is one. -/
def scanSign (text : List UInt8) : Bool × List UInt8 :=
  if text.head? = some 45 then
    (true, text.tail)
  else if text.head? = some 43 then
    (false, text.tail)
  else
    (false, text)

/-- As many digits as there are, and at least one. -/
def scanDigits
    (base : Nat)
    (text : List UInt8) : Option (Nat × List UInt8) :=
  if text.takeWhile (isDigit base) = [] then
    none
  else
    some
      (magnitude base (text.takeWhile (isDigit base)),
        text.dropWhile (isDigit base))

/-- What follows a hexadecimal prefix. -/
def hexDigits : List UInt8 → Option (List UInt8)
  | zero :: x :: digits =>
      if zero = 48 ∧ isX x = true then some digits else none
  | _ => none

/-- Digits with the prefixes of the notation; a prefix alone is read as zero. -/
def scanUnsigned
    (writing : Notation)
    (text : List UInt8) : Option (Nat × List UInt8) :=
  match writing with
  | .decimal => scanDigits 10 text
  | .constant =>
      match hexDigits text with
      | some digits =>
          some
            (magnitude 16 (digits.takeWhile (isDigit 16)),
              digits.dropWhile (isDigit 16))
      | none =>
          scanDigits (if text.head? = some 48 then 8 else 10) text

/-- White space, a sign and digits. -/
def scan
    (writing : Notation)
    (text : List UInt8) : Option Reading :=
  let unsigned := scanSign (text.dropWhile isSpace)
  match scanUnsigned writing unsigned.2 with
  | none => none
  | some (number, rest) => some ⟨unsigned.1, number, rest⟩

/-- `strtoul` saturates, and negates what does not overflow. -/
def Reading.strtoul (reading : Reading) : Nat :=
  if 18446744073709551616 ≤ reading.magnitude then
    18446744073709551615
  else if reading.negative then
    (18446744073709551616 - reading.magnitude) % 18446744073709551616
  else
    reading.magnitude

/-- `strtol` saturates at both ends. -/
def Reading.strtol (reading : Reading) : Int :=
  max (-9223372036854775808) (min reading.value 9223372036854775807)

/-- `atoi` narrows a `long`, and is zero where there is no numeral. -/
def atoi (text : List UInt8) : Int32 :=
  match scan .decimal text with
  | none => 0
  | some reading => Int32.ofInt reading.strtol

/-! ## Numerals are read as what they are -/

/-- A string that no numeral can run on into. -/
def Stops (rest : List UInt8) : Prop :=
  ∀ c, rest.head? = some c → digitValue c = 16 ∧ isX c = false

theorem stops_nil : Stops [] := by
  rintro c ⟨⟩

theorem Stops.not_isDigit
    {rest : List UInt8}
    (stops : Stops rest)
    {base : Nat}
    (small : base ≤ 16)
    (c : UInt8)
    (first : rest.head? = some c) :
    ¬ isDigit base c = true := by
  rw [isDigit, (stops c first).1, decide_eq_true_eq]
  exact Nat.not_lt.mpr small

/-- Digits are taken up to where they stop. -/
theorem takeWhile_digits
    {property : UInt8 → Bool}
    {digits rest : List UInt8}
    (all : ∀ c ∈ digits, property c = true)
    (stop : ∀ c, rest.head? = some c → ¬ property c = true) :
    (digits ++ rest).takeWhile property = digits ∧
      (digits ++ rest).dropWhile property = rest := by
  rw [List.takeWhile_append_of_pos all, List.dropWhile_append_of_pos all]
  cases rest with
  | nil => exact ⟨List.append_nil digits, rfl⟩
  | cons c rest =>
      have other : ¬ property c = true :=
        stop c rfl
      rw [List.takeWhile_cons_of_neg other,
        List.dropWhile_cons_of_neg other]
      exact ⟨List.append_nil digits, rfl⟩

theorem scanDigits_append
    {base : Nat}
    (small : base ≤ 16)
    {digits rest : List UInt8}
    (nonempty : digits ≠ [])
    (all : ∀ c ∈ digits, isDigit base c = true)
    (stops : Stops rest) :
    scanDigits base (digits ++ rest) =
      some (magnitude base digits, rest) := by
  obtain ⟨taken, left⟩ :=
    takeWhile_digits all (stops.not_isDigit small)
  rw [scanDigits, taken, left, if_neg nonempty]

/-- A digit is not the second character of a hexadecimal prefix. -/
theorem isX_of_isDigit
    {c : UInt8}
    (digit : isDigit 10 c = true) :
    isX c = false := by
  have ordinary :
      ∀ c : UInt8, isX c = true → ¬ isDigit 10 c = true := by
    intro c x
    rw [isX, Bool.or_eq_true, decide_eq_true_eq, decide_eq_true_eq] at x
    rcases x with rfl | rfl
    · decide
    · decide
  exact Bool.eq_false_iff.mpr fun x => ordinary c x digit

/-- Digits to a smaller base are decimal digits. -/
theorem isDigit_of_octal
    {c : UInt8}
    (octal : isDigit 8 c = true) :
    isDigit 10 c = true :=
  decide_eq_true (Nat.lt_trans (of_decide_eq_true octal) (by decide))

/-- Decimal digits do not begin with a hexadecimal prefix. -/
theorem hexDigits_eq_none
    {digits rest : List UInt8}
    (all : ∀ c ∈ digits, isDigit 10 c = true)
    (nonempty : digits ≠ [])
    (stops : Stops rest) :
    hexDigits (digits ++ rest) = none := by
  have refused :
      ∀ first second : UInt8, ∀ later : List UInt8,
        isX second = false →
          hexDigits (first :: second :: later) = none := by
    intro first second later ordinary
    rw [hexDigits, if_neg]
    rintro ⟨_, x⟩
    rw [ordinary] at x
    cases x
  cases digits with
  | nil => exact absurd rfl nonempty
  | cons first digits =>
      cases digits with
      | nil =>
          cases rest with
          | nil => rfl
          | cons second rest =>
              exact refused first second rest (stops second rfl).2
      | cons second digits =>
          have digit : isDigit 10 second = true :=
            all second (List.mem_cons_of_mem _ List.mem_cons_self)
          exact
            refused first second (digits ++ rest) (isX_of_isDigit digit)

/-- The digits of a numeral are read as their number. -/
theorem scanUnsigned_append
    {writing : Notation}
    {digits rest : List UInt8}
    {number : Nat}
    (unsigned : Unsigned writing digits number)
    (stops : Stops rest) :
    scanUnsigned writing (digits ++ rest) = some (number, rest) := by
  cases unsigned with
  | decimal nonempty all =>
      exact scanDigits_append (by decide) nonempty all stops
  | leading nonempty all nonzero =>
      have sameHead : (digits ++ rest).head? = digits.head? :=
        List.head?_append_of_ne_nil _ nonempty
      rw [scanUnsigned, hexDigits_eq_none all nonempty stops]
      simp only [sameHead, if_neg nonzero]
      exact scanDigits_append (by decide) nonempty all stops
  | octal zero all =>
      have nonempty : digits ≠ [] := by
        rintro rfl
        cases zero
      have sameHead : (digits ++ rest).head? = digits.head? :=
        List.head?_append_of_ne_nil _ nonempty
      have decimal : ∀ c ∈ digits, isDigit 10 c = true :=
        fun c member => isDigit_of_octal (all c member)
      rw [scanUnsigned, hexDigits_eq_none decimal nonempty stops]
      simp only [sameHead, if_pos zero]
      exact scanDigits_append (by decide) nonempty all stops
  | @hexadecimal x digits second nonempty all =>
      obtain ⟨taken, left⟩ :=
        takeWhile_digits all (stops.not_isDigit (by decide))
      have found :
          hexDigits (48 :: x :: digits ++ rest) = some (digits ++ rest) := by
        rw [List.cons_append, List.cons_append, hexDigits,
          if_pos ⟨rfl, second⟩]
      rw [scanUnsigned, found]
      simp only [taken, left]

/-- A digit is neither white space nor a sign. -/
theorem ordinary_of_isDigit
    {c : UInt8}
    (digit : isDigit 10 c = true) :
    isSpace c = false ∧ c ≠ 43 ∧ c ≠ 45 := by
  have ordinary :
      ∀ c : UInt8, isDigit 10 c = true →
        isSpace c = false ∧ c ≠ 43 ∧ c ≠ 45 :=
    ByteMemory.forall_byte (by decide +kernel)
  exact ordinary c digit

/-- A numeral begins with a digit. -/
theorem Unsigned.exists_digit
    {writing : Notation}
    {digits : List UInt8}
    {number : Nat}
    (unsigned : Unsigned writing digits number) :
    ∃ c later, digits = c :: later ∧ isDigit 10 c = true := by
  have first :
      ∀ {digits : List UInt8}, digits ≠ [] →
        (∀ c ∈ digits, isDigit 10 c = true) →
          ∃ c later, digits = c :: later ∧ isDigit 10 c = true := by
    intro digits nonempty all
    cases digits with
    | nil => exact absurd rfl nonempty
    | cons c later => exact ⟨c, later, rfl, all c List.mem_cons_self⟩
  cases unsigned with
  | decimal nonempty all => exact first nonempty all
  | leading nonempty all _ => exact first nonempty all
  | octal zero all =>
      refine first ?_ fun c member => isDigit_of_octal (all c member)
      rintro rfl
      cases zero
  | hexadecimal _ _ _ => exact ⟨48, _, rfl, by decide⟩

/-- A numeral is read as its value, up to where it stops. -/
theorem scan_append
    {writing : Notation}
    {body rest : List UInt8}
    {value : Int}
    (denotes : Denotes writing body value)
    (stops : Stops rest) :
    ∃ reading,
      scan writing (body ++ rest) = some reading ∧
        reading.value = value ∧ reading.rest = rest := by
  cases denotes with
  | unsigned unsigned =>
      obtain ⟨c, later, begins, digit⟩ := unsigned.exists_digit
      obtain ⟨noSpace, noPlus, noMinus⟩ := ordinary_of_isDigit digit
      refine ⟨⟨false, _, rest⟩, ?_, rfl, rfl⟩
      have kept :
          (body ++ rest).dropWhile isSpace = body ++ rest := by
        rw [begins, List.cons_append]
        exact List.dropWhile_cons_of_neg (by rw [noSpace]; decide)
      have noSign : scanSign (body ++ rest) = (false, body ++ rest) := by
        rw [scanSign, begins, List.cons_append, List.head?_cons,
          if_neg fun same => noMinus (Option.some.inj same),
          if_neg fun same => noPlus (Option.some.inj same)]
      rw [scan, kept]
      simp only [noSign, scanUnsigned_append unsigned stops]
  | @positive digits _ unsigned =>
      refine ⟨⟨false, _, rest⟩, ?_, rfl, rfl⟩
      have kept :
          (43 :: digits ++ rest).dropWhile isSpace =
            43 :: digits ++ rest :=
        rfl
      have sign : scanSign (43 :: digits ++ rest) = (false, digits ++ rest) :=
        rfl
      rw [scan, kept]
      simp only [sign, scanUnsigned_append unsigned stops]
  | @negative digits _ unsigned =>
      refine ⟨⟨true, _, rest⟩, ?_, rfl, rfl⟩
      have kept :
          (45 :: digits ++ rest).dropWhile isSpace =
            45 :: digits ++ rest :=
        rfl
      have sign : scanSign (45 :: digits ++ rest) = (true, digits ++ rest) :=
        rfl
      rw [scan, kept]
      simp only [sign, scanUnsigned_append unsigned stops]

/-! ## What is left of a value after a conversion -/

/-- The low byte of `strtoul`. -/
theorem strtoul_mod_eq_zero_iff (reading : Reading) :
    reading.strtoul % 256 = 0 ↔
      -18446744073709551616 < reading.value ∧
        reading.value < 18446744073709551616 ∧ reading.value % 256 = 0 := by
  obtain ⟨negative, number, rest⟩ := reading
  cases negative with
  | true =>
      simp only [Reading.strtoul, Reading.value, signed, if_true]
      split
      · omega
      · omega
  | false =>
      simp only [Reading.strtoul, Reading.value, signed,
        Bool.false_eq_true, if_false]
      split
      · omega
      · omega

/-- A value in a byte's range is not changed. -/
theorem strtoul_of_range
    {reading : Reading}
    (positive : 1 ≤ reading.value)
    (small : reading.value ≤ 126) :
    (reading.strtoul : Int) = reading.value := by
  obtain ⟨negative, number, rest⟩ := reading
  cases negative with
  | true =>
      simp only [Reading.value, signed, if_true] at positive
      omega
  | false =>
      simp only [Reading.strtoul, Reading.value, signed,
        Bool.false_eq_true, if_false] at *
      rw [if_neg (by omega)]

/-- `strtol` does not change a value in its range. -/
theorem strtol_of_range
    {reading : Reading}
    (low : -9223372036854775808 ≤ reading.value)
    (high : reading.value ≤ 9223372036854775807) :
    reading.strtol = reading.value := by
  rw [Reading.strtol]
  omega

end Ammc.Numerals
