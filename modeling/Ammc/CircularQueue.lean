import Mathlib.Data.Nat.ModEq
import Mathlib.Logic.Function.Basic

namespace Ammc.CircularQueue

/-!
# Queues in circular storage

A queue of bounded length lies in consecutive cells, from the cell of its oldest
item on and around the end of the storage.  Only the position of the first cell
and the number of items tell which cells count.
-/

variable {α : Type*}

/-- The cells from `first` on, around the end, hold the items of the queue. -/
structure Holds
    (cells : Nat → α)
    (capacity first : Nat)
    (queue : List α) : Prop where
  fits : queue.length ≤ capacity
  stored :
    ∀ (index : Nat) (inside : index < queue.length),
      cells ((first + index) % capacity) = queue[index]

/-- The items that are read from the cells, oldest first. -/
def items
    (cells : Nat → α)
    (capacity first count : Nat) : List α :=
  (List.range count).map fun index =>
    cells ((first + index) % capacity)

namespace Holds

variable {cells : Nat → α}
variable {capacity first : Nat}
variable {queue : List α}

/-- Nothing is stored anywhere. -/
theorem nil : Holds cells capacity first [] :=
  ⟨Nat.zero_le _, fun _ inside => absurd inside (Nat.not_lt_zero _)⟩

/-- Reading the cells gives the queue. -/
theorem items_eq (holds : Holds cells capacity first queue) :
    items cells capacity first queue.length = queue := by
  apply List.ext_getElem
  · simp [items]
  · intro index _ inside
    simpa [items] using holds.stored index inside

/-- Two places of the queue are different cells. -/
theorem cell_ne
    {index other : Nat}
    (before : index < other)
    (inside : other < capacity) :
    (first + index) % capacity ≠ (first + other) % capacity := by
  intro same
  have congruent : index ≡ other [MOD capacity] :=
    Nat.ModEq.add_left_cancel' first same
  have equal :=
    Nat.ModEq.eq_of_lt_of_lt congruent (before.trans inside) inside
  exact absurd equal (Nat.ne_of_lt before)

/-- A further item is stored in the cell behind the last one. -/
theorem push
    (holds : Holds cells capacity first queue)
    (room : queue.length < capacity)
    (item : α) :
    Holds
      (Function.update cells
        ((first + queue.length) % capacity) item)
      capacity first (queue ++ [item]) := by
  have fits : (queue ++ [item]).length ≤ capacity := by
    rw [List.length_append, List.length_singleton]
    exact room
  refine ⟨fits, fun index inside => ?_⟩
  rw [List.length_append, List.length_singleton] at inside
  rcases Nat.lt_or_eq_of_le (Nat.le_of_lt_succ inside) with
    earlier | last
  · rw [Function.update_of_ne (cell_ne earlier room),
      List.getElem_append_left earlier]
    exact holds.stored index earlier
  · subst index
    rw [Function.update_self, List.getElem_concat_length rfl]

/-- The oldest item is in the first cell. -/
theorem head
    {item : α}
    {rest : List α}
    (holds : Holds cells capacity first (item :: rest)) :
    cells (first % capacity) = item :=
  holds.stored 0 (Nat.zero_lt_succ _)

/-- Without its oldest item, the queue begins one cell further on. -/
theorem pop
    {item : α}
    {rest : List α}
    (holds : Holds cells capacity first (item :: rest)) :
    Holds cells capacity ((first + 1) % capacity) rest := by
  refine
    ⟨Nat.le_of_succ_le holds.fits, fun index inside => ?_⟩
  have next := holds.stored (index + 1) (Nat.succ_lt_succ inside)
  rw [List.getElem_cons_succ] at next
  rw [Nat.mod_add_mod, Nat.add_assoc, Nat.add_comm 1 index]
  exact next

end Holds

/-- The end of the queue meets its beginning when it is empty or full. -/
theorem end_eq_first_iff
    {capacity first length : Nat}
    (firstInside : first < capacity)
    (fits : length ≤ capacity) :
    (first + length) % capacity = first ↔
      length = 0 ∨ length = capacity := by
  rcases Nat.lt_or_eq_of_le fits with shorter | full
  · have notFull : length ≠ capacity := Nat.ne_of_lt shorter
    constructor
    · intro meets
      by_contra different
      rw [not_or] at different
      have positive : 0 < length := Nat.pos_of_ne_zero different.1
      have apart :
          (first + 0) % capacity ≠ (first + length) % capacity :=
        Holds.cell_ne positive shorter
      rw [Nat.add_zero, Nat.mod_eq_of_lt firstInside] at apart
      exact apart meets.symm
    · rintro (empty | full)
      · rw [empty, Nat.add_zero, Nat.mod_eq_of_lt firstInside]
      · exact absurd full notFull
  · subst length
    rw [Nat.add_mod_right, Nat.mod_eq_of_lt firstInside]
    simp

/-- The length of the queue from the places of its beginning and its end. -/
theorem length_of_ends
    {capacity first length : Nat}
    (firstInside : first < capacity)
    (shorter : length < capacity) :
    ((first + length) % capacity + capacity - first) % capacity =
      length := by
  rcases Nat.lt_or_ge (first + length) capacity with inside | around
  · rw [Nat.mod_eq_of_lt inside]
    have shifted :
        first + length + capacity - first = length + capacity := by
      omega
    rw [shifted, Nat.add_mod_right, Nat.mod_eq_of_lt shorter]
  · have wrapped :
        (first + length) % capacity = first + length - capacity := by
      rw [Nat.mod_eq_sub_mod around]
      exact Nat.mod_eq_of_lt (by omega)
    have shifted :
        first + length - capacity + capacity - first = length := by
      omega
    rw [wrapped, shifted, Nat.mod_eq_of_lt shorter]

/-! ## Storage with two ends and a flag -/

/--
The queue lies between the two ends; the flag tells a full storage from an empty
one.
-/
structure Occupies
    (cells : Nat → α)
    (capacity first last : Nat)
    (full : Bool)
    (queue : List α) : Prop where
  firstInside : first < capacity
  holds : Holds cells capacity first queue
  last : last = (first + queue.length) % capacity
  full : full = true ↔ queue.length = capacity

namespace Occupies

variable {cells : Nat → α}
variable {capacity first last : Nat}
variable {full : Bool}
variable {queue : List α}

theorem first_eq_last_iff
    (occupies : Occupies cells capacity first last full queue) :
    first = last ↔ queue.length = 0 ∨ queue.length = capacity := by
  rw [occupies.last, eq_comm]
  exact end_eq_first_iff occupies.firstInside occupies.holds.fits

theorem lastInside
    (occupies : Occupies cells capacity first last full queue) :
    last < capacity := by
  rw [occupies.last]
  exact
    Nat.mod_lt _
      (Nat.lt_of_le_of_lt (Nat.zero_le _) occupies.firstInside)

/-- The storage is empty when its ends meet and it is not full. -/
theorem empty_iff
    (occupies : Occupies cells capacity first last full queue) :
    full = false ∧ first = last ↔ queue = [] := by
  have inside := occupies.firstInside
  have flag := occupies.full
  have ends := occupies.first_eq_last_iff
  rw [← List.length_eq_zero_iff, ← Bool.not_eq_true, flag, ends]
  omega

/-- The ends of a full storage meet. -/
theorem meet
    (occupies : Occupies cells capacity first last full queue)
    (isFull : full = true) :
    first = last :=
  occupies.first_eq_last_iff.mpr (Or.inr (occupies.full.mp isFull))

/-- Where the storage is not full, the ends tell the length. -/
theorem length_eq
    (occupies : Occupies cells capacity first last full queue)
    (notFull : ¬ full = true) :
    (last + capacity - first) % capacity = queue.length := by
  have shorter : queue.length < capacity :=
    Nat.lt_of_le_of_ne occupies.holds.fits fun same =>
      notFull (occupies.full.mpr same)
  rw [occupies.last]
  exact length_of_ends occupies.firstInside shorter

/-- The oldest item is at the first end. -/
theorem head
    {item : α}
    {rest : List α}
    (occupies :
      Occupies cells capacity first last full (item :: rest)) :
    cells first = item := by
  have head := occupies.holds.head
  rw [Nat.mod_eq_of_lt occupies.firstInside] at head
  exact head

/-- A pop moves the first end on. -/
theorem pop
    {item : α}
    {rest : List α}
    (occupies :
      Occupies cells capacity first last full (item :: rest)) :
    Occupies cells capacity ((first + 1) % capacity) last false rest := by
  have inside := occupies.firstInside
  have fits := occupies.holds.fits
  rw [List.length_cons] at fits
  refine ⟨Nat.mod_lt _ (by omega), occupies.holds.pop, ?_, ?_⟩
  · rw [occupies.last, Nat.mod_add_mod, List.length_cons,
      Nat.add_assoc, Nat.add_comm 1]
  · simp only [Bool.false_eq_true, false_iff]
    omega

/-- A push moves the last end on, and may fill the storage. -/
theorem push
    (occupies : Occupies cells capacity first last full queue)
    (notFull : ¬ full = true)
    (item : α) :
    Occupies (Function.update cells last item) capacity first
      ((last + 1) % capacity) (first = (last + 1) % capacity)
      (queue ++ [item]) := by
  have room : queue.length < capacity :=
    Nat.lt_of_le_of_ne occupies.holds.fits fun same =>
      notFull (occupies.full.mpr same)
  have moved :
      (last + 1) % capacity = (first + (queue.length + 1)) % capacity := by
    rw [occupies.last, Nat.mod_add_mod, Nat.add_assoc]
  refine ⟨occupies.firstInside, ?_, ?_, ?_⟩
  · rw [occupies.last]
    exact occupies.holds.push room item
  · rw [moved, List.length_append, List.length_singleton]
  · rw [decide_eq_true_eq, moved, eq_comm,
      end_eq_first_iff occupies.firstInside room, List.length_append,
      List.length_singleton]
    omega

/-- An empty storage may begin anywhere. -/
theorem nil
    (inside : first < capacity) :
    Occupies cells capacity first first false [] := by
  refine ⟨inside, .nil, (Nat.mod_eq_of_lt inside).symm, ?_⟩
  simp only [Bool.false_eq_true, List.length_nil, false_iff]
  omega

end Occupies

end Ammc.CircularQueue
