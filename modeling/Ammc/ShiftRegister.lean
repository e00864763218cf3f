import Mathlib.Algebra.Group.Hom.Basic
import Mathlib.Algebra.Ring.Parity

namespace Ammc.ShiftRegister

/-!
# Linear shift registers

A register takes a message bit by bit.  A bit that is set adds a fixed value to
the contents, and then the contents are shifted by an additive map.  Every
element of the group of contents is its own inverse, as it is for bit strings
under exclusive or, so the contents left behind by a message depend linearly on
the bits of the message.

The last part says which differences between two messages are visible in the
contents: it needs only a few facts about the shift.
-/

/-- A linear shift register with contents in `V`. -/
structure Register (V : Type*) [AddCommGroup V] where
  shift : V →+ V
  injected : V
  selfInverse : ∀ contents : V, contents + contents = 0

/-- The bits in which two messages of one length differ. -/
def difference (first second : List Bool) : List Bool :=
  List.zipWith (· ^^ ·) first second

/-- The bits before and behind a window are not set. -/
def Confined
    (start width : Nat)
    (bits : List Bool) : Prop :=
  ∀ position,
    bits[position]? = some true →
      start ≤ position ∧ position < start + width

/-- A confined message, cut into its three parts. -/
theorem Confined.split
    {start width : Nat}
    {bits : List Bool}
    (confined : Confined start width bits) :
    ∃ before after,
      bits =
        List.replicate before false ++
          ((bits.drop start).take width ++
            List.replicate after false) := by
  have front :
      bits.take start =
        List.replicate (bits.take start).length false := by
    rw [List.eq_replicate_iff]
    refine ⟨rfl, fun bit member => ?_⟩
    obtain ⟨position, inside, here⟩ := List.getElem_of_mem member
    rw [List.length_take] at inside
    rw [List.getElem_take] at here
    by_contra notFalse
    have set : bits[position]? = some true := by
      rw [List.getElem?_eq_getElem (by omega), here]
      simpa using notFalse
    have bounds := confined position set
    omega
  have back :
      bits.drop (start + width) =
        List.replicate (bits.drop (start + width)).length false := by
    rw [List.eq_replicate_iff]
    refine ⟨rfl, fun bit member => ?_⟩
    obtain ⟨position, inside, here⟩ := List.getElem_of_mem member
    rw [List.length_drop] at inside
    rw [List.getElem_drop] at here
    by_contra notFalse
    have set : bits[start + width + position]? = some true := by
      rw [List.getElem?_eq_getElem (by omega), here]
      simpa using notFalse
    have bounds := confined (start + width + position) set
    omega
  refine
    ⟨(bits.take start).length, (bits.drop (start + width)).length, ?_⟩
  rw [← front, ← back, ← List.drop_drop, List.take_append_drop,
    List.take_append_drop]

/-- Exactly two bits are set. -/
def Pair
    (first second : Nat)
    (bits : List Bool) : Prop :=
  first < second ∧
    ∀ position,
      bits[position]? = some true ↔
        position = first ∨ position = second

/-- A message with two bits set, cut at these bits. -/
theorem Pair.split
    {first second : Nat}
    {bits : List Bool}
    (pair : Pair first second bits) :
    ∃ after,
      bits =
        List.replicate first false ++ true ::
          (List.replicate (second - first - 1) false ++ true ::
            List.replicate after false) := by
  obtain ⟨ordered, set⟩ := pair
  have inside : second < bits.length := by
    have here := (set second).mpr (Or.inr rfl)
    exact (List.getElem?_eq_some_iff.mp here).1
  refine ⟨bits.length - second - 1, ?_⟩
  apply List.ext_getElem
  · simp
    omega
  · intro position inBits inParts
    have here := set position
    rw [List.getElem?_eq_getElem inBits, Option.some.injEq] at here
    rw [Bool.eq_iff_iff, here]
    simp only [List.getElem_append, List.length_replicate,
      List.getElem_replicate, List.getElem_cons]
    split
    · simp
      omega
    split
    · simp
      omega
    split
    · simp
      omega
    split
    · simp
      omega
    · simp
      omega

namespace Register

variable {V : Type*} [AddCommGroup V]
variable (register : Register V)

/-- What a bit adds to the contents. -/
def inject (bit : Bool) : V :=
  if bit then register.injected else 0

/-- The contents after one more bit. -/
def step (contents : V) (bit : Bool) : V :=
  register.shift (contents + register.inject bit)

/-- The contents after a message. -/
def run (contents : V) (bits : List Bool) : V :=
  bits.foldl register.step contents

@[simp] theorem run_nil (contents : V) :
    register.run contents [] = contents :=
  rfl

@[simp] theorem run_cons
    (contents : V)
    (bit : Bool)
    (bits : List Bool) :
    register.run contents (bit :: bits) =
      register.run (register.step contents bit) bits :=
  rfl

theorem run_append
    (contents : V)
    (first second : List Bool) :
    register.run contents (first ++ second) =
      register.run (register.run contents first) second :=
  List.foldl_append

@[simp] theorem step_false (contents : V) :
    register.step contents false = register.shift contents := by
  simp [step, inject]

/-- Bits that are not set only shift. -/
theorem run_zeros
    (contents : V)
    (count : Nat) :
    register.run contents (List.replicate count false) =
      register.shift^[count] contents := by
  induction count generalizing contents with
  | zero =>
      rfl
  | succ count inductionHypothesis =>
      rw [List.replicate_succ, run_cons, step_false,
        inductionHypothesis, Function.iterate_succ_apply]

/-- Exclusive or of two bits is addition of what they add. -/
theorem inject_xor (first second : Bool) :
    register.inject (first ^^ second) =
      register.inject first + register.inject second := by
  cases first
  · cases second
    · simp [inject]
    · simp [inject]
  · cases second
    · simp [inject]
    · simp [inject, register.selfInverse]

/-- The contents depend linearly on their start and on the message. -/
theorem run_difference
    (start other : V)
    {first second : List Bool}
    (sameLength : first.length = second.length) :
    register.run (start + other) (difference first second) =
      register.run start first + register.run other second := by
  induction first generalizing start other second with
  | nil =>
      rw [List.length_nil, eq_comm, List.length_eq_zero_iff]
        at sameLength
      subst second
      rfl
  | cons bit bits inductionHypothesis =>
      cases second with
      | nil =>
          simp at sameLength
      | cons otherBit otherBits =>
          have stepped :
              register.step (start + other) (bit ^^ otherBit) =
                register.step start bit +
                  register.step other otherBit := by
            rw [step, step, step, inject_xor, ← map_add,
              add_add_add_comm]
          have shorter : bits.length = otherBits.length := by
            simpa using sameLength
          rw [difference, List.zipWith_cons_cons, run_cons, stepped]
          exact inductionHypothesis _ _ shorter

/-- A message from an arbitrary start. -/
theorem run_from
    (contents : V)
    (bits : List Bool) :
    register.run contents bits =
      register.shift^[bits.length] contents + register.run 0 bits := by
  have sameLength :
      (List.replicate bits.length false).length = bits.length :=
    List.length_replicate
  have linear := register.run_difference contents 0 sameLength
  have unchanged :
      difference (List.replicate bits.length false) bits = bits := by
    apply List.ext_getElem
    · simp [difference]
    · simp [difference]
  rw [add_zero, unchanged, run_zeros] at linear
  exact linear

/-! ## Visible differences -/

/-- A shift that loses nothing loses nothing in several steps. -/
theorem iterate_ne_zero
    (lossless : Function.Injective register.shift)
    {contents : V}
    (nonzero : contents ≠ 0)
    (count : Nat) :
    register.shift^[count] contents ≠ 0 := by
  intro vanished
  have start : register.shift^[count] (0 : V) = 0 :=
    iterate_map_zero register.shift count
  exact nonzero (lossless.iterate count (vanished.trans start.symm))

/--
A message confined to a window is visible when every message of that window
that is not zero is.
-/
theorem run_ne_zero_of_confined
    (lossless : Function.Injective register.shift)
    {start width : Nat}
    {bits : List Bool}
    (confined : Confined start width bits)
    (nonzero : true ∈ bits)
    (visible :
      ∀ window : List Bool,
        window.length = width → true ∈ window →
          register.run 0 window ≠ 0) :
    register.run 0 bits ≠ 0 := by
  obtain ⟨before, after, split⟩ := confined.split
  have inWindow : true ∈ (bits.drop start).take width := by
    rw [split] at nonzero
    simpa using nonzero
  -- the window may end behind the message; zeros fill it up
  obtain ⟨missing, filled⟩ :=
    Nat.exists_eq_add_of_le
      (List.length_take_le width (bits.drop start))
  have seen :=
    visible
      ((bits.drop start).take width ++ List.replicate missing false)
      (by rw [List.length_append, List.length_replicate, ← filled])
      (List.mem_append_left _ inWindow)
  have start0 : register.run 0 (List.replicate before false) = 0 := by
    rw [run_zeros]
    exact iterate_map_zero register.shift before
  rw [split, run_append, start0, run_append, run_zeros]
  refine register.iterate_ne_zero lossless ?_ after
  rw [run_append, run_zeros] at seen
  intro vanished
  rw [vanished] at seen
  exact seen (iterate_map_zero register.shift missing)

/--
Two set bits are visible when shifting the injected value over the distance
between them changes it.
-/
theorem run_ne_zero_of_pair
    (lossless : Function.Injective register.shift)
    {first second : Nat}
    {bits : List Bool}
    (pair : Pair first second bits)
    (moved :
      register.shift^[second - first] register.injected ≠
        register.injected) :
    register.run 0 bits ≠ 0 := by
  obtain ⟨after, split⟩ := pair.split
  have ordered := pair.1
  have distance : second - first = (second - first - 1) + 1 := by
    omega
  have start0 : register.run 0 (List.replicate first false) = 0 := by
    rw [run_zeros]
    exact iterate_map_zero register.shift first
  rw [split, run_append, start0, run_cons, run_append, run_zeros,
    run_cons, run_zeros]
  refine register.iterate_ne_zero lossless ?_ after
  have shifted :
      register.shift^[second - first - 1] (register.step 0 true) =
        register.shift^[second - first] register.injected := by
    rw [distance, Function.iterate_succ_apply]
    simp [step, inject]
  rw [shifted, step]
  intro vanished
  have zero : register.shift (0 : V) = 0 :=
    map_zero register.shift
  have cancelled := lossless (vanished.trans zero.symm)
  have same :=
    (add_eq_zero_iff_eq_neg.mp cancelled).trans
      (neg_eq_of_add_eq_zero_left
        (register.selfInverse (register.inject true)))
  exact moved same

/-- A functional that the shift keeps counts the set bits. -/
theorem functional_run
    {W : Type*} [AddCommGroup W]
    (functional : V →+ W)
    (kept :
      ∀ contents, functional (register.shift contents) =
        functional contents)
    (contents : V)
    (bits : List Bool) :
    functional (register.run contents bits) =
      functional contents +
        bits.count true • functional register.injected := by
  induction bits generalizing contents with
  | nil =>
      simp
  | cons bit bits inductionHypothesis =>
      rw [run_cons, inductionHypothesis, step, kept, map_add]
      cases bit
      · simp [inject]
      · rw [List.count_cons_self, succ_nsmul', ← add_assoc]
        simp [inject]

/--
An odd number of set bits is visible when a functional that the shift keeps
tells the injected value from zero.
-/
theorem run_ne_zero_of_odd
    {W : Type*} [AddCommGroup W]
    (functional : V →+ W)
    (kept :
      ∀ contents, functional (register.shift contents) =
        functional contents)
    (seen : functional register.injected ≠ 0)
    {bits : List Bool}
    (odd : Odd (bits.count true)) :
    register.run 0 bits ≠ 0 := by
  intro vanished
  have counted := register.functional_run functional kept 0 bits
  obtain ⟨half, count⟩ := odd
  have twice :
      functional register.injected + functional register.injected =
        0 := by
    rw [← map_add, register.selfInverse, map_zero]
  rw [vanished, map_zero, zero_add, count, add_nsmul, mul_comm,
    mul_nsmul', two_nsmul, twice, one_nsmul] at counted
  rw [nsmul_zero, zero_add] at counted
  exact seen counted.symm

end Register

end Ammc.ShiftRegister
