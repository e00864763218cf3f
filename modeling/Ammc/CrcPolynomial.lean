import Mathlib
import Ammc.CrcErrors
import Ammc.PolynomialRegister

namespace Ammc.Crc

open ByteMemory Polynomial ShiftRegister

/-!
# The checksum as a polynomial remainder

The division over the table, the bitwise division that the source keeps beside
it for other polynomials, and the remainder of a polynomial over the field of
two elements are three views of the same checksum.
-/

/-! ## The bitwise division -/

/-- `crc_division_round` without the table. -/
def bitwiseDivisionRound (currentCrc byte : UInt8) : UInt8 :=
  divisionStep^[8] (currentCrc ^^^ byte)

/-- `crc` over the rounds without the table. -/
def bitwiseCrc (data : List UInt8) : UInt8 :=
  data.foldl bitwiseDivisionRound crcInit

/-- The register shifts its byte as the bitwise division does. -/
theorem shift_iterate
    (count : Nat)
    (byte : UInt8) :
    (register.shift^[count] ⟨byte⟩).byte = divisionStep^[count] byte := by
  have semiconj :
      Function.Semiconj Residue.byte register.shift divisionStep :=
    fun _ => rfl
  exact semiconj.iterate_right count ⟨byte⟩

/-- A table that divides replaces the bitwise division of a byte. -/
theorem TableDivides.divisionRound
    {table : List UInt8}
    (divides : TableDivides table) :
    crcDivisionRound table = bitwiseDivisionRound := by
  funext running byte
  rw [crcDivisionRound, divides, shift_iterate, bitwiseDivisionRound]

theorem TableDivides.crcFrom_crcInit
    {table : List UInt8}
    (divides : TableDivides table)
    (data : List UInt8) :
    crcFrom table crcInit data = bitwiseCrc data := by
  rw [crcFrom, divides.divisionRound, bitwiseCrc]

/-! ## Bytes and messages as polynomials -/

/-- A byte as a polynomial over the field of two elements. -/
noncomputable def bytePolynomial (byte : UInt8) : (ZMod 2)[X] :=
  bitPolynomial (ZMod 2) (byteBits byte)

/-- A message as a polynomial, its first bit being the leading one. -/
noncomputable def messagePolynomial (data : List UInt8) : (ZMod 2)[X] :=
  bitPolynomial (ZMod 2) (bits data)

/-- The generator of the checksum. -/
noncomputable def generator : (ZMod 2)[X] :=
  X ^ 8 + X ^ 2 + X + 1

theorem generator_natDegree : generator.natDegree = 8 := by
  rw [generator]
  compute_degree!

theorem generator_monic : generator.Monic := by
  rw [generator]
  monicity!

theorem bitCoeff_xor (first second : Bool) :
    bitCoeff (ZMod 2) (first ^^ second) =
      bitCoeff (ZMod 2) first + bitCoeff (ZMod 2) second := by
  revert first second
  decide

/-- Exclusive or of bits is addition of their polynomials. -/
theorem bitPolynomial_difference
    {first second : List Bool}
    (sameLength : first.length = second.length) :
    bitPolynomial (ZMod 2) (difference first second) =
      bitPolynomial (ZMod 2) first + bitPolynomial (ZMod 2) second := by
  induction first generalizing second with
  | nil =>
      rw [List.length_nil, eq_comm, List.length_eq_zero_iff]
        at sameLength
      subst second
      simp [difference, bitPolynomial]
  | cons bit bits inductionHypothesis =>
      cases second with
      | nil =>
          simp at sameLength
      | cons otherBit otherBits =>
          have shorter : bits.length = otherBits.length := by
            simpa using sameLength
          have length : (difference bits otherBits).length = bits.length := by
            simp [difference, shorter]
          rw [difference, List.zipWith_cons_cons, ← difference,
            bitPolynomial, inductionHypothesis shorter, length,
            bitCoeff_xor, bitPolynomial, bitPolynomial, ← shorter, C_add]
          ring

theorem bytePolynomial_xor (first second : UInt8) :
    bytePolynomial (first ^^^ second) =
      bytePolynomial first + bytePolynomial second := by
  rw [bytePolynomial, byteBits_xor,
    bitPolynomial_difference (by simp [byteBits])]
  rfl

/-- The polynomial that the contents of the register stand for. -/
noncomputable def Residue.polynomial : Residue →+ (ZMod 2)[X] where
  toFun residue := bytePolynomial residue.byte
  map_zero' := by
    simp [bytePolynomial, byteBits, bitPolynomial, bitCoeff]
  map_add' first second := bytePolynomial_xor first.byte second.byte

/-- The bits of a byte under a step of the division. -/
theorem byteBits_divisionStep (byte : UInt8) :
    ∃ b7 b6 b5 b4 b3 b2 b1 b0,
      byteBits byte = [b7, b6, b5, b4, b3, b2, b1, b0] ∧
        byteBits (divisionStep byte) =
          [b6, b5, b4, b3, b2, b1 ^^ b7, b0 ^^ b7, b7] := by
  refine ⟨_, _, _, _, _, _, _, _, rfl, ?_⟩
  revert byte
  exact forall_byte (by decide +kernel)

/--
A step of the division multiplies by `X` and takes the generator away when the
product has its power.
-/
theorem generator_dvd_divisionStep (byte : UInt8) :
    generator ∣
      X * bytePolynomial byte - bytePolynomial (divisionStep byte) := by
  obtain ⟨b7, b6, b5, b4, b3, b2, b1, b0, before, stepped⟩ :=
    byteBits_divisionStep byte
  have two : (2 : (ZMod 2)[X]) = 0 := CharTwo.two_eq_zero
  refine ⟨C (bitCoeff (ZMod 2) b7), ?_⟩
  rw [bytePolynomial, bytePolynomial, before, stepped, generator]
  simp only [bitPolynomial, bitCoeff_xor, C_add, List.length_cons,
    List.length_nil]
  linear_combination
    (-(C (bitCoeff (ZMod 2) b7) * (X ^ 2 + X + 1))) * two

/-- The division register divides by the generator. -/
theorem register_divides :
    register.Divides generator Residue.polynomial where
  monic := generator_monic
  reduced residue := by
    rw [degree_eq_natDegree generator_monic.ne_zero, generator_natDegree]
    exact degree_bitPolynomial_lt (ZMod 2) (byteBits residue.byte)
  shift residue := generator_dvd_divisionStep residue.byte
  injected := by
    have top : byteBits 0x80 =
        [true, false, false, false, false, false, false, false] := by
      decide
    change X * bytePolynomial 0x80 = X ^ generator.natDegree
    rw [generator_natDegree, bytePolynomial, top]
    simp [bitPolynomial, bitCoeff, ← pow_succ']

/-- The remainder that a table computes, as a polynomial. -/
theorem TableDivides.bytePolynomial_crcFrom
    {table : List UInt8}
    (divides : TableDivides table)
    (data : List UInt8) :
    bytePolynomial (crcFrom table crcInit data) =
      (messagePolynomial data * X ^ 8) %ₘ generator := by
  have divided := register_divides.value_run (bits data)
  rw [generator_natDegree] at divided
  rw [crcFrom_eq_run divides]
  exact divided

/--
Both checksums of a message are the one of the bitwise division, and the
remainder of the message times `x^8` by `x^8 + x^2 + x + 1`.
-/
theorem crc_eq_remainder
    (data : List UInt8) :
    Client.crc data = Master.crc data ∧
      Client.crc data = bitwiseCrc data ∧
      bytePolynomial (Client.crc data) =
        (messagePolynomial data * X ^ 8) %ₘ (X ^ 8 + X ^ 2 + X + 1) :=
  ⟨client_crc_eq_master_crc data,
    clientTable_divides.crcFrom_crcInit data,
    clientTable_divides.bytePolynomial_crcFrom data⟩

end Ammc.Crc
