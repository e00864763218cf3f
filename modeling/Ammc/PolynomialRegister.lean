import Mathlib.Algebra.Polynomial.Div
import Ammc.ShiftRegister

namespace Ammc.ShiftRegister

open Polynomial

/-!
# Registers that divide polynomials

The contents of a shift register may stand for the residue of a polynomial.  If
the shift multiplies by `X` and the injected value stands for the power below
the degree of the modulus, then the register divides: it is left with the
remainder of the message, seen as a polynomial and multiplied by the power of
`X` that is the degree of the modulus.
-/

section Bits

variable (R : Type*) [CommRing R]

/-- The coefficient that a bit stands for. -/
def bitCoeff (bit : Bool) : R :=
  if bit then 1 else 0

/-- The polynomial with the given coefficients, the leading one first. -/
noncomputable def bitPolynomial : List Bool → R[X]
  | [] => 0
  | bit :: bits => C (bitCoeff R bit) * X ^ bits.length + bitPolynomial bits

/-- The coefficients of a bit polynomial are its bits. -/
theorem coeff_bitPolynomial
    (bits : List Bool)
    (position : Nat) :
    (bitPolynomial R bits).coeff position =
      bitCoeff R (bits.reverse.getD position false) := by
  induction bits with
  | nil =>
      simp [bitPolynomial, bitCoeff]
  | cons bit bits inductionHypothesis =>
      rw [bitPolynomial, coeff_add, inductionHypothesis,
        coeff_C_mul_X_pow, List.reverse_cons, List.getD_eq_getElem?_getD,
        List.getD_eq_getElem?_getD, List.getElem?_append,
        List.length_reverse]
      by_cases below : position < bits.length
      · rw [if_neg (Nat.ne_of_lt below), if_pos below, zero_add]
      · have outside : bits.reverse[position]? = none := by
          rw [List.getElem?_eq_none_iff, List.length_reverse]
          exact Nat.le_of_not_lt below
        rw [if_neg below, outside]
        by_cases leading : position = bits.length
        · simp [leading, bitCoeff]
        · have behind : position - bits.length ≠ 0 := by
            omega
          simp [leading, behind, bitCoeff]

/-- A bit polynomial has fewer powers than bits. -/
theorem degree_bitPolynomial_lt
    (bits : List Bool) :
    (bitPolynomial R bits).degree < bits.length := by
  rw [degree_lt_iff_coeff_zero]
  intro position behind
  rw [coeff_bitPolynomial, List.getD_eq_getElem?_getD,
    List.getElem?_eq_none (by simpa using behind)]
  simp [bitCoeff]

end Bits

namespace Register

variable {R : Type*} [CommRing R]
variable {V : Type*} [AddCommGroup V]

/--
The contents of the register stand for the residues of a modulus, under a value
that turns a shift into a multiplication by `X`.
-/
structure Divides
    (register : Register V)
    (modulus : R[X])
    (value : V →+ R[X]) : Prop where
  monic : modulus.Monic
  reduced : ∀ contents, (value contents).degree < modulus.degree
  shift :
    ∀ contents,
      modulus ∣ X * value contents - value (register.shift contents)
  injected : X * value register.injected = X ^ modulus.natDegree

namespace Divides

variable {register : Register V}
variable {modulus : R[X]}
variable {value : V →+ R[X]}

/-- A step multiplies by `X` and brings in one coefficient. -/
theorem step
    (divides : register.Divides modulus value)
    (contents : V)
    (bit : Bool) :
    modulus ∣
      X * value contents +
          C (bitCoeff R bit) * X ^ modulus.natDegree -
        value (register.step contents bit) := by
  have brought :
      X * value (register.inject bit) =
        C (bitCoeff R bit) * X ^ modulus.natDegree := by
    cases bit
    · simp [Register.inject, bitCoeff]
    · simp [Register.inject, bitCoeff, divides.injected]
  have shifted := divides.shift (contents + register.inject bit)
  rw [map_add, mul_add, brought] at shifted
  exact shifted

/-- The contents stay congruent to what was taken in so far. -/
theorem run
    (divides : register.Divides modulus value)
    (contents : V)
    (bits : List Bool) :
    modulus ∣
      X ^ bits.length * value contents +
          bitPolynomial R bits * X ^ modulus.natDegree -
        value (register.run contents bits) := by
  induction bits generalizing contents with
  | nil =>
      simp [bitPolynomial]
  | cons bit bits inductionHypothesis =>
      have rest := inductionHypothesis (register.step contents bit)
      have first :=
        (divides.step contents bit).mul_left (X ^ bits.length)
      have whole := dvd_add first rest
      rw [run_cons]
      convert whole using 1
      rw [bitPolynomial, List.length_cons, pow_succ]
      ring

/-- A register that divides is left with the remainder of the message. -/
theorem value_run
    (divides : register.Divides modulus value)
    (bits : List Bool) :
    value (register.run 0 bits) =
      (bitPolynomial R bits * X ^ modulus.natDegree) %ₘ modulus := by
  obtain ⟨quotient, congruent⟩ := divides.run 0 bits
  rw [map_zero, mul_zero, zero_add, sub_eq_iff_eq_add'] at congruent
  have unique :=
    div_modByMonic_unique quotient (value (register.run 0 bits))
      divides.monic ⟨congruent.symm, divides.reduced _⟩
  exact unique.2.symm

end Divides

end Register

end Ammc.ShiftRegister
