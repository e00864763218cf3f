import Mathlib.Data.List.Basic
import Mathlib.Logic.Function.Basic

namespace Ammc.ByteMemory

/-!
# Byte memory

A C object is seen through a pointer to its first byte.  The model keeps the
byte at every offset from that pointer, including the offsets behind the
object, so that a store outside the object remains visible.
-/

/-- The byte at every offset from a pointer. -/
abbrev Memory := Nat → UInt8

namespace Memory

/-- The `count` bytes from `offset` on. -/
def bytes
    (memory : Memory)
    (offset count : Nat) : List UInt8 :=
  (List.range count).map fun index => memory (offset + index)

/-- Overwrite the bytes from `offset` on with `values`. -/
def store
    (memory : Memory)
    (offset : Nat)
    (values : List UInt8) : Memory :=
  fun position =>
    if offset ≤ position then
      (values[position - offset]?).getD (memory position)
    else
      memory position

/-- The same memory seen from a pointer moved forward by `offset`. -/
def shift
    (memory : Memory)
    (offset : Nat) : Memory :=
  fun position => memory (offset + position)

@[simp] theorem shift_apply
    (memory : Memory)
    (offset position : Nat) :
    memory.shift offset position = memory (offset + position) :=
  rfl

@[simp] theorem length_bytes
    (memory : Memory)
    (offset count : Nat) :
    (memory.bytes offset count).length = count := by
  simp [bytes]

@[simp] theorem bytes_zero
    (memory : Memory)
    (offset : Nat) :
    memory.bytes offset 0 = [] :=
  rfl

/-- A byte range starts with the byte at its offset. -/
theorem bytes_succ
    (memory : Memory)
    (offset count : Nat) :
    memory.bytes offset (count + 1) =
      memory offset :: memory.bytes (offset + 1) count := by
  simp [bytes, List.range_succ_eq_map, Function.comp_def,
    Nat.add_assoc, Nat.add_comm 1]

/-- A byte range splits at every position inside it. -/
theorem bytes_add
    (memory : Memory)
    (offset first second : Nat) :
    memory.bytes offset (first + second) =
      memory.bytes offset first ++
        memory.bytes (offset + first) second := by
  simp [bytes, List.range_add, Function.comp_def, Nat.add_assoc]

/-- Reading through a moved pointer reads from the moved offset. -/
@[simp] theorem bytes_shift
    (memory : Memory)
    (moved offset count : Nat) :
    (memory.shift moved).bytes offset count =
      memory.bytes (moved + offset) count := by
  simp [bytes, Nat.add_assoc]

/-- Two memories that agree on a range have the same bytes there. -/
theorem bytes_congr
    {first second : Memory}
    {offset count : Nat}
    (agree :
      ∀ position,
        offset ≤ position →
        position < offset + count →
        first position = second position) :
    first.bytes offset count = second.bytes offset count := by
  apply List.map_congr_left
  intro index member
  have inRange : index < count := List.mem_range.mp member
  exact agree (offset + index) (by omega) (by omega)

/-- A store leaves every byte before it alone. -/
theorem store_before
    (memory : Memory)
    {offset position : Nat}
    (values : List UInt8)
    (before : position < offset) :
    memory.store offset values position = memory position := by
  simp [store, Nat.not_le.mpr before]

/-- A store puts each value at its own offset. -/
theorem store_at
    (memory : Memory)
    (offset : Nat)
    {values : List UInt8}
    {index : Nat}
    (inRange : index < values.length) :
    memory.store offset values (offset + index) = values[index] := by
  simp [store, inRange]

/-- What a store wrote can be read back. -/
@[simp] theorem bytes_store_self
    (memory : Memory)
    (offset : Nat)
    (values : List UInt8) :
    (memory.store offset values).bytes offset values.length =
      values := by
  apply List.ext_getElem
  · simp
  · intro index inBytes inValues
    simp only [bytes, List.getElem_map, List.getElem_range]
    exact memory.store_at offset inValues

/-- The first part of what a store wrote can be read back. -/
theorem bytes_store_prefix
    (memory : Memory)
    (offset : Nat)
    (first second : List UInt8) :
    (memory.store offset (first ++ second)).bytes offset first.length =
      first := by
  have stored := memory.bytes_store_self offset (first ++ second)
  rw [List.length_append, bytes_add] at stored
  exact (List.append_inj stored (by simp)).1

/-- A store does not change a range that ends before it. -/
theorem bytes_store_before
    (memory : Memory)
    {offset count stored : Nat}
    (values : List UInt8)
    (before : offset + count ≤ stored) :
    (memory.store stored values).bytes offset count =
      memory.bytes offset count := by
  apply bytes_congr
  intro position _ inRange
  exact memory.store_before values (by omega)

/-- Two adjacent stores are read back as one list. -/
theorem bytes_store_store
    (memory : Memory)
    (first second : List UInt8) :
    ((memory.store 0 first).store first.length second).bytes
        0 (first.length + second.length) =
      first ++ second := by
  rw [bytes_add, Nat.zero_add, bytes_store_self,
    bytes_store_before _ _ (by omega), bytes_store_self]

@[simp] theorem store_nil
    (memory : Memory)
    (offset : Nat) :
    memory.store offset [] = memory := by
  funext position
  simp [store]

/-- A second store inside the first, or next to it, replaces what it covers. -/
theorem store_overlay
    (memory : Memory)
    (offset : Nat)
    {first : List UInt8}
    {position : Nat}
    (inside : position ≤ first.length)
    (second : List UInt8) :
    (memory.store offset first).store (offset + position) second =
      memory.store offset
        (first.take position ++ second ++
          first.drop (position + second.length)) := by
  funext place
  by_cases before : place < offset + position
  · rw [store_before _ _ before]
    by_cases reached : offset ≤ place
    · have index : place - offset < (first.take position).length := by
        rw [List.length_take_of_le inside]
        omega
      have short : place - offset < position := by
        omega
      simp [store, reached, List.append_assoc,
        List.getElem?_append_left index, short]
    · simp [store, reached]
  · have beyond : offset + position ≤ place := by
      omega
    have reached : offset ≤ place := by
      omega
    have behind : (first.take position).length ≤ place - offset := by
      rw [List.length_take_of_le inside]
      omega
    have left :
        place - offset - (first.take position).length =
          place - (offset + position) := by
      rw [List.length_take_of_le inside]
      omega
    have lookup :
        ∀ values,
          memory.store offset values place =
            (values[place - offset]?).getD (memory place) :=
      fun _ => if_pos reached
    rw [store, if_pos beyond, lookup, lookup, List.append_assoc,
      List.getElem?_append_right behind, left]
    by_cases covered : place - (offset + position) < second.length
    · rw [List.getElem?_append_left covered,
        List.getElem?_eq_getElem covered]
      rfl
    · have rest : second.length ≤ place - (offset + position) :=
        Nat.not_lt.mp covered
      have index :
          position + second.length +
              (place - (offset + position) - second.length) =
            place - offset := by
        omega
      rw [List.getElem?_append_right rest, List.getElem?_drop, index,
        List.getElem?_eq_none rest]
      rfl

/-- A second store goes on behind the first. -/
theorem store_append
    (memory : Memory)
    (offset : Nat)
    (first second : List UInt8) :
    (memory.store offset first).store (offset + first.length) second =
      memory.store offset (first ++ second) := by
  have overlay :=
    memory.store_overlay offset (Nat.le_refl first.length) second
  rw [List.take_length, List.drop_eq_nil_of_le (Nat.le_add_right _ _),
    List.append_nil] at overlay
  exact overlay

/-- A byte is stored behind the others. -/
theorem store_concat
    (memory : Memory)
    (offset : Nat)
    (values : List UInt8)
    (value : UInt8) :
    (memory.store offset values).store (offset + values.length) [value] =
      memory.store offset (values ++ [value]) :=
  memory.store_append offset values [value]

/-- One byte is stored in one cell. -/
theorem store_byte
    (memory : Memory)
    (offset : Nat)
    (byte : UInt8) :
    memory.store offset [byte] = Function.update memory offset byte := by
  funext position
  rcases Nat.lt_trichotomy position offset with before | here | behind
  · rw [store_before _ _ before,
      Function.update_of_ne (Nat.ne_of_lt before)]
  · subst position
    rw [Function.update_self]
    have one : 0 < [byte].length := Nat.zero_lt_one
    exact memory.store_at offset one
  · rw [Function.update_of_ne (Nat.ne_of_gt behind)]
    have outside : [byte][position - offset]? = none := by
      rw [List.getElem?_eq_none_iff, List.length_singleton]
      exact Nat.sub_pos_of_lt behind
    simp [store, outside]

end Memory

/-- What holds of every byte is checked byte by byte. -/
theorem forall_byte
    {property : UInt8 → Prop}
    (entries : ∀ index : Fin 256, property (UInt8.ofNat index.val))
    (byte : UInt8) :
    property byte := by
  have entry := entries ⟨byte.toNat, byte.toNat_lt⟩
  rw [UInt8.ofNat_toNat] at entry
  exact entry

end Ammc.ByteMemory
