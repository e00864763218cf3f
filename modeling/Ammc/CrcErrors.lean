import Ammc.ByteMemory
import Ammc.Crc
import Ammc.ShiftRegister

namespace Ammc.Crc

open ByteMemory ShiftRegister

/-!
# Errors that the checksum detects

The division over the table is a linear shift register in disguise: an entry of
the table is what eight steps of the division leave of its index.  An error
therefore passes the check exactly when the error pattern alone would, and the
visible patterns are those of the generator polynomial: it is divisible by
`x + 1`, its constant term is not zero, and `x` has order 127 under it.

The bits of a byte are taken from the most significant one on, which is the
order in which the division consumes them.
-/

/-- The contents of the division register: a byte under exclusive or. -/
structure Residue where
  byte : UInt8
  deriving DecidableEq

namespace Residue

instance : Zero Residue := ⟨⟨0⟩⟩

instance : Add Residue :=
  ⟨fun first second => ⟨first.byte ^^^ second.byte⟩⟩

instance : Neg Residue := ⟨id⟩

@[ext] theorem ext
    {first second : Residue}
    (same : first.byte = second.byte) :
    first = second := by
  cases first
  cases second
  exact congrArg mk same

@[simp] theorem byte_zero : (0 : Residue).byte = 0 :=
  rfl

@[simp] theorem byte_add (first second : Residue) :
    (first + second).byte = first.byte ^^^ second.byte :=
  rfl

@[simp] theorem byte_neg (residue : Residue) :
    (-residue).byte = residue.byte :=
  rfl

instance : AddCommGroup Residue where
  add_assoc first second third :=
    ext (UInt8.xor_assoc first.byte second.byte third.byte)
  zero_add residue := ext (by simp)
  add_zero residue := ext (by simp)
  add_comm first second := ext (UInt8.xor_comm first.byte second.byte)
  neg_add_cancel residue := ext (by simp)
  nsmul := nsmulRec
  zsmul := zsmulRec

end Residue

/-! ## The division as a shift register -/

/-- `CRC_POLY` -/
def crcPoly : UInt8 := 0x07

/-- One step of the bitwise division in `crc_division_round`. -/
def divisionStep (crc : UInt8) : UInt8 :=
  if crc &&& 0x80 ≠ 0 then (crc <<< 1) ^^^ crcPoly else crc <<< 1

/-- The division keeps the top bit and the other seven apart. -/
theorem divisionStep_eq (crc : UInt8) :
    divisionStep crc =
      (crc <<< 1) ^^^ (if crc.toBitVec.msb then crcPoly else 0) := by
  revert crc
  exact forall_byte (by decide +kernel)

theorem divisionStep_xor (first second : UInt8) :
    divisionStep (first ^^^ second) =
      divisionStep first ^^^ divisionStep second := by
  have shifted :
      (first ^^^ second) <<< 1 = (first <<< 1) ^^^ (second <<< 1) := by
    apply UInt8.toBitVec_inj.mp
    simp [BitVec.shiftLeft_xor_distrib]
  simp only [divisionStep_eq, shifted, UInt8.toBitVec_xor,
    BitVec.msb_xor]
  have regrouped :
      ∀ left right top bottom : UInt8,
        (left ^^^ right) ^^^ (top ^^^ bottom) =
          (left ^^^ top) ^^^ (right ^^^ bottom) := by
    intro left right top bottom
    ac_rfl
  rw [← regrouped]
  cases first.toBitVec.msb
  · cases second.toBitVec.msb
    · rfl
    · rfl
  · cases second.toBitVec.msb
    · rfl
    · rfl

/-- The register that `crc_division_round` runs a byte through. -/
def register : Register Residue where
  shift :=
    { toFun residue := ⟨divisionStep residue.byte⟩
      map_zero' := rfl
      map_add' first second :=
        Residue.ext (divisionStep_xor first.byte second.byte) }
  injected := ⟨0x80⟩
  selfInverse residue := Residue.ext (by simp)

/-- The bits of a byte, the most significant one first. -/
def byteBits (byte : UInt8) : List Bool :=
  [7, 6, 5, 4, 3, 2, 1, 0].map byte.toNat.testBit

/-- The bits of a message, in the order of the division. -/
def bits (message : List UInt8) : List Bool :=
  message.flatMap byteBits

@[simp] theorem bits_cons
    (byte : UInt8)
    (message : List UInt8) :
    bits (byte :: message) = byteBits byte ++ bits message :=
  rfl

theorem byteBits_xor (first second : UInt8) :
    byteBits (first ^^^ second) =
      difference (byteBits first) (byteBits second) := by
  simp only [byteBits, difference, List.map_cons, List.map_nil,
    List.zipWith_cons_cons, List.zipWith_nil_right, UInt8.toNat_xor,
    Nat.testBit_xor]

/-- A byte in front of eight steps is the same as its bits one by one. -/
theorem run_byteBits
    (running : Residue)
    (byte : UInt8) :
    register.run running (byteBits byte) =
      register.shift^[8] (running + ⟨byte⟩) := by
  have alone :
      register.run 0 (byteBits byte) = register.shift^[8] ⟨byte⟩ := by
    revert byte
    exact forall_byte (by decide +kernel)
  have added :
      register.shift^[8] (running + ⟨byte⟩) =
        register.shift^[8] running + register.shift^[8] ⟨byte⟩ :=
    iterate_map_add register.shift 8 running ⟨byte⟩
  rw [register.run_from, alone, added]
  rfl

/-- The table holds what eight steps of the division leave of its indices. -/
def TableDivides (table : List UInt8) : Prop :=
  ∀ byte : UInt8,
    table.getD byte.toNat 0 = (register.shift^[8] ⟨byte⟩).byte

theorem clientTable_divides : TableDivides clientTable :=
  forall_byte (by decide +kernel)

theorem masterTable_divides : TableDivides masterTable := by
  rw [← clientTable_eq_masterTable]
  exact clientTable_divides

/-- The checksum is what the register holds after the bits of the message. -/
theorem crcFrom_eq_run
    {table : List UInt8}
    (divides : TableDivides table)
    (running : UInt8)
    (message : List UInt8) :
    crcFrom table running message =
      (register.run ⟨running⟩ (bits message)).byte := by
  induction message generalizing running with
  | nil =>
      rfl
  | cons byte message inductionHypothesis =>
      have round :
          (⟨crcDivisionRound table running byte⟩ : Residue) =
            register.run ⟨running⟩ (byteBits byte) := by
        rw [run_byteBits]
        exact Residue.ext (divides (running ^^^ byte))
      change
        crcFrom table (crcDivisionRound table running byte) message = _
      rw [inductionHypothesis, round, bits_cons, register.run_append]

/-! ## Error patterns -/

/-- A message with an error pattern of the same length added to it. -/
def corrupted (message error : List UInt8) : List UInt8 :=
  List.zipWith (· ^^^ ·) message error

/-- The bits of a corrupted message differ where the pattern has its bits. -/
theorem bits_corrupted
    {message error : List UInt8}
    (sameLength : message.length = error.length) :
    bits (corrupted message error) =
      difference (bits message) (bits error) := by
  induction message generalizing error with
  | nil =>
      rfl
  | cons byte message inductionHypothesis =>
      cases error with
      | nil =>
          simp at sameLength
      | cons flipped error =>
          have shorter : message.length = error.length := by
            simpa using sameLength
          rw [corrupted, List.zipWith_cons_cons, ← corrupted, bits_cons,
            inductionHypothesis shorter, byteBits_xor, bits_cons,
            bits_cons, difference, difference, difference,
            List.zipWith_append (by simp [byteBits])]

theorem length_bits (message : List UInt8) :
    (bits message).length = 8 * message.length := by
  induction message with
  | nil =>
      rfl
  | cons byte message inductionHypothesis =>
      rw [bits_cons, List.length_append, inductionHypothesis,
        List.length_cons, Nat.mul_succ, Nat.add_comm]
      rfl

/-- An error passes the check of an intact message when it would do so alone. -/
theorem crcFrom_corrupted
    {table : List UInt8}
    (divides : TableDivides table)
    {message error : List UInt8}
    (sameLength : message.length = error.length)
    (intact : crcFrom table 0 message = 0) :
    crcFrom table 0 (corrupted message error) =
      crcFrom table 0 error := by
  rw [crcFrom_eq_run divides] at intact ⊢
  have linear :=
    register.run_difference 0 0
      (show (bits message).length = (bits error).length by
        rw [length_bits, length_bits, sameLength])
  have noResidue : register.run 0 (bits message) = 0 :=
    Residue.ext intact
  rw [add_zero, noResidue, zero_add] at linear
  rw [bits_corrupted sameLength, crcFrom_eq_run divides]
  exact congrArg Residue.byte linear

/-- The kinds of error patterns for which the checksum is made. -/
inductive Detectable (error : List UInt8) : Prop where
  | odd :
      Odd ((bits error).count true) →
      Detectable error
  | burst
      (start : Nat) :
      Confined start 8 (bits error) →
      Detectable error
  | pair
      (first second : Nat) :
      Pair first second (bits error) →
      second - first < 127 →
      Detectable error

/-! ## Properties of the generator polynomial -/

/-- The constant term is not zero: no step of the division loses anything. -/
theorem register_lossless : Function.Injective register.shift := by
  rw [injective_iff_map_eq_zero]
  rintro ⟨byte⟩
  revert byte
  exact forall_byte (by decide +kernel)

/-- The residue times a power of `x`. -/
def power : Nat → Residue →+ Residue
  | 0 => AddMonoidHom.id Residue
  | exponent + 1 => (power exponent).comp register.shift

/--
The residue times the cofactor of `x + 1` in the generator polynomial, which is
`x^7 + x^6 + x^5 + x^4 + x^3 + x^2 + 1`.
-/
def cofactor : Residue →+ Residue :=
  power 7 + power 6 + power 5 + power 4 + power 3 + power 2 + power 0

/-- The generator polynomial is divisible by `x + 1`. -/
theorem cofactor_shift (residue : Residue) :
    cofactor (register.shift residue) = cofactor residue := by
  obtain ⟨byte⟩ := residue
  revert byte
  exact forall_byte (by decide +kernel)

/-- Eight bits that are not all zero leave a residue. -/
theorem run_window_ne_zero
    (window : List Bool)
    (length : window.length = 8)
    (nonzero : true ∈ window) :
    register.run 0 window ≠ 0 := by
  have entries :
      ∀ a b c d e f g h : Bool,
        true ∈ [a, b, c, d, e, f, g, h] →
          register.run 0 [a, b, c, d, e, f, g, h] ≠ 0 := by
    decide +kernel
  match window, length with
  | [a, b, c, d, e, f, g, h], _ =>
      exact entries a b c d e f g h nonzero

/-- The order of `x` is not below 127. -/
theorem shift_injected_ne
    {distance : Nat}
    (positive : 0 < distance)
    (short : distance < 127) :
    register.shift^[distance] register.injected ≠
      register.injected := by
  have entries :
      ∀ distance : Fin 127,
        0 < distance.val →
          register.shift^[distance.val] register.injected ≠
            register.injected := by
    decide +kernel
  exact entries ⟨distance, short⟩ positive

/-- A byte that is not zero has a bit that is set. -/
theorem true_mem_byteBits
    {byte : UInt8}
    (nonzero : byte ≠ 0) :
    true ∈ byteBits byte := by
  have entries :
      ∀ byte : UInt8, byte ≠ 0 → true ∈ byteBits byte :=
    forall_byte (by decide +kernel)
  exact entries byte nonzero

/-- A detectable error pattern leaves a residue. -/
theorem Detectable.crcFrom_ne_zero
    {table : List UInt8}
    (divides : TableDivides table)
    {error : List UInt8}
    (detectable : Detectable error)
    (nonzero : ∃ byte ∈ error, byte ≠ 0) :
    crcFrom table 0 error ≠ 0 := by
  obtain ⟨byte, member, byteNonzero⟩ := nonzero
  have set : true ∈ bits error :=
    List.mem_flatMap.mpr ⟨byte, member, true_mem_byteBits byteNonzero⟩
  have visible : register.run 0 (bits error) ≠ 0 := by
    cases detectable with
    | odd odd =>
        exact register.run_ne_zero_of_odd cofactor cofactor_shift
          (by decide +kernel) odd
    | burst start confined =>
        exact register.run_ne_zero_of_confined register_lossless
          confined set run_window_ne_zero
    | pair first second pair close =>
        have ordered := pair.1
        exact register.run_ne_zero_of_pair register_lossless pair
          (shift_injected_ne (by omega) close)
  rw [crcFrom_eq_run divides]
  intro vanished
  exact visible (Residue.ext vanished)

/-- A detectable error pattern fails the check of any intact message. -/
theorem Detectable.crcFrom_corrupted_ne_zero
    {table : List UInt8}
    (divides : TableDivides table)
    {message error : List UInt8}
    (sameLength : message.length = error.length)
    (intact : crcFrom table 0 message = 0)
    (detectable : Detectable error)
    (nonzero : ∃ byte ∈ error, byte ≠ 0) :
    crcFrom table 0 (corrupted message error) ≠ 0 := by
  rw [crcFrom_corrupted divides sameLength intact]
  exact detectable.crcFrom_ne_zero divides nonzero

/--
Both checks fail on a message with its checksum when an odd number of bits, a
burst of at most eight bits, or two bits fewer than 127 positions apart are
inverted.
-/
theorem crcCheck_detects_errors
    (message error : List UInt8)
    (sameLength : error.length = message.length + 1)
    (nonzero : ∃ byte ∈ error, byte ≠ 0)
    (detectable : Detectable error) :
    Client.crcCheck
        (corrupted (message ++ [Client.crc message]) error) ≠ 0 ∧
      Master.crcCheck
        (corrupted (message ++ [Master.crc message]) error) ≠ 0 := by
  constructor
  · exact
      detectable.crcFrom_corrupted_ne_zero clientTable_divides
        (by simp [sameLength])
        ((Client.crcCheck_concat message _).mpr rfl) nonzero
  · exact
      detectable.crcFrom_corrupted_ne_zero masterTable_divides
        (by simp [sameLength])
        ((Master.crcCheck_concat message _).mpr rfl) nonzero

/-- Three inverted bits in a message of two bytes. -/
theorem crcCheck_detects_three_bits :
    Client.crcCheck
        (corrupted ([0x12, 0x34] ++ [Client.crc [0x12, 0x34]])
          [0x01, 0x80, 0x04]) ≠ 0 ∧
      Master.crcCheck
        (corrupted ([0x12, 0x34] ++ [Master.crc [0x12, 0x34]])
          [0x01, 0x80, 0x04]) ≠ 0 :=
  crcCheck_detects_errors [0x12, 0x34] [0x01, 0x80, 0x04] rfl
    ⟨0x01, by decide, by decide⟩ (.odd ⟨1, by decide⟩)

end Ammc.Crc
