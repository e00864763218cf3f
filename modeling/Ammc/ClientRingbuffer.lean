import Ammc.ByteMemory
import Ammc.CircularQueue

namespace Ammc.Client

open ByteMemory CircularQueue

/-!
# The client's ring buffer

The operations are those of the master, with indices of type `size_t`.  Every
operation holds the buffer's lock from its first to its last access, so it is
one step.  Pointers to the buffer are never null.
-/

/-- `ringbuffer_t`; `base` is the memory that the pointer of that name reaches. -/
structure Ringbuffer where
  base : Memory
  first : UInt64
  last : UInt64
  size : UInt64
  full : Bool

/--
What `ringbuffer_new` gets from the C library: whether the record is allocated,
the memory for a number of bytes, and whether the mutex is initialised.
-/
structure Allocation where
  record : Bool
  malloc : UInt64 → Option Memory
  mutex : Bool

namespace Ringbuffer

/-- `virt_idx` -/
def virtIdx (rb : Ringbuffer) (real : UInt64) : UInt64 :=
  (real + rb.size - rb.first) % rb.size

/-- `shifted_idx` -/
def shiftedIdx (rb : Ringbuffer) (idx : UInt64) : UInt64 :=
  (idx + 1) % rb.size

/-- `ringbuffer_new`; `none` is the null pointer. -/
def new
    (allocation : Allocation)
    (size : UInt64) : Option Ringbuffer :=
  if size < 2 then
    none
  else if ¬ allocation.record then
    none
  else
    match allocation.malloc (size + 1) with
    | none => none
    | some base =>
        if ¬ allocation.mutex then
          none
        else
          some
            { base := base
              first := 0
              last := 0
              size := size
              full := false }

/-- `_isfull` and `ringbuffer_isfull` -/
def isfull (rb : Ringbuffer) : Bool :=
  rb.full

/-- `_isempty` and `ringbuffer_isempty` -/
def isempty (rb : Ringbuffer) : Bool :=
  rb.first = rb.last && !rb.full

/-- `ringbuffer_used` -/
def used (rb : Ringbuffer) : UInt64 :=
  if rb.isfull then rb.size else rb.virtIdx rb.last

/-- `ringbuffer_pop`; `none` is the return code 1. -/
def pop (rb : Ringbuffer) : Option (UInt8 × Ringbuffer) :=
  if rb.isempty then
    none
  else
    some
      (rb.base rb.first.toNat,
        { rb with
          first := rb.shiftedIdx rb.first
          full := false })

/-- `ringbuffer_push`; `none` is the return code 1. -/
def push (rb : Ringbuffer) (val : UInt8) : Option Ringbuffer :=
  if rb.isfull then
    none
  else
    let stored :=
      { rb with
        base := rb.base.store rb.last.toNat [val]
        last := rb.shiftedIdx rb.last }
    some
      (if stored.first = stored.last then
        { stored with full := true }
      else
        stored)

/-- `ringbuffer_flush` -/
def flush (rb : Ringbuffer) : Ringbuffer :=
  { rb with
    first := rb.last
    full := false }

/-- The bytes in the buffer, oldest first. -/
def contents (rb : Ringbuffer) : List UInt8 :=
  items rb.base rb.size.toNat rb.first.toNat rb.used.toNat

end Ringbuffer

/-- The buffer stands for a queue of bytes. -/
def Represents
    (rb : Ringbuffer)
    (queue : List UInt8) : Prop :=
  Occupies rb.base rb.size.toNat rb.first.toNat rb.last.toNat rb.full queue

namespace Represents

variable {rb : Ringbuffer} {queue : List UInt8}

/-- An index inside the buffer is moved on without an overflow. -/
theorem toNat_shiftedIdx
    {idx : UInt64}
    (inside : idx.toNat < rb.size.toNat) :
    (rb.shiftedIdx idx).toNat = (idx.toNat + 1) % rb.size.toNat := by
  have bound := rb.size.toNat_lt
  have one : (1 : UInt64).toNat = 1 :=
    rfl
  have noOverflow : (idx + 1).toNat = idx.toNat + 1 := by
    rw [UInt64.toNat_add, one]
    omega
  rw [Ringbuffer.shiftedIdx, UInt64.toNat_mod, noOverflow]

/-- The sum in `virt_idx` fits when the buffer is not too large. -/
theorem toNat_virtIdx
    (small : rb.size.toNat ≤ 9223372036854775808)
    (first : rb.first.toNat < rb.size.toNat)
    {real : UInt64}
    (inside : real.toNat < rb.size.toNat) :
    (rb.virtIdx real).toNat =
      (real.toNat + rb.size.toNat - rb.first.toNat) % rb.size.toNat := by
  have noOverflow :
      (real + rb.size).toNat = real.toNat + rb.size.toNat := by
    rw [UInt64.toNat_add]
    omega
  have ordered : rb.first ≤ real + rb.size := by
    rw [UInt64.le_iff_toNat_le, noOverflow]
    omega
  rw [Ringbuffer.virtIdx, UInt64.toNat_mod,
    UInt64.toNat_sub_of_le _ _ ordered, noOverflow]

theorem isempty_iff (represents : Represents rb queue) :
    rb.isempty = true ↔ queue = [] := by
  rw [← Occupies.empty_iff represents, UInt64.toNat_inj]
  simp only [Ringbuffer.isempty, Bool.and_eq_true, Bool.not_eq_true',
    decide_eq_true_eq]
  exact and_comm

theorem isfull_iff (represents : Represents rb queue) :
    rb.isfull = true ↔ queue.length = rb.size.toNat :=
  Occupies.full represents

theorem toNat_used
    (represents : Represents rb queue)
    (small : rb.size.toNat ≤ 9223372036854775808) :
    rb.used.toNat = queue.length := by
  rw [Ringbuffer.used]
  split
  · rename_i full
    exact (represents.isfull_iff.mp full).symm
  · rename_i notFull
    rw [toNat_virtIdx small (Occupies.firstInside represents)
      (Occupies.lastInside represents)]
    exact Occupies.length_eq represents notFull

/-- The bytes read from the buffer are the queue. -/
theorem contents_eq
    (represents : Represents rb queue)
    (small : rb.size.toNat ≤ 9223372036854775808) :
    rb.contents = queue := by
  rw [Ringbuffer.contents, represents.toNat_used small]
  exact (Occupies.holds represents).items_eq

/-- A pop takes the oldest byte. -/
theorem pop
    {byte : UInt8}
    {rest : List UInt8}
    (represents : Represents rb (byte :: rest)) :
    ∃ next,
      rb.pop = some (byte, next) ∧ next.size = rb.size ∧
        Represents next rest := by
  have notEmpty : ¬ rb.isempty = true := fun empty => by
    cases represents.isempty_iff.mp empty
  have popped := Occupies.pop represents
  rw [← toNat_shiftedIdx (Occupies.firstInside represents)] at popped
  refine
    ⟨{ rb with
        first := rb.shiftedIdx rb.first
        full := false },
      ?_, rfl, popped⟩
  rw [Ringbuffer.pop, if_neg notEmpty, Occupies.head represents]

/-- A push appends a byte where there is room. -/
theorem push
    (represents : Represents rb queue)
    (room : queue.length < rb.size.toNat)
    (byte : UInt8) :
    ∃ next,
      rb.push byte = some next ∧ next.size = rb.size ∧
        next.first = rb.first ∧ Represents next (queue ++ [byte]) := by
  have notFull : ¬ rb.isfull = true := fun full => by
    have same := represents.isfull_iff.mp full
    omega
  have pushed := Occupies.push represents notFull byte
  rw [← toNat_shiftedIdx (Occupies.lastInside represents),
    ← Memory.store_byte] at pushed
  have meets :
      (rb.first.toNat = (rb.shiftedIdx rb.last).toNat) =
        (rb.first = rb.shiftedIdx rb.last) :=
    propext UInt64.toNat_inj
  simp only [meets] at pushed
  have stored :
      rb.push byte =
        some
          { rb with
            base := rb.base.store rb.last.toNat [byte]
            last := rb.shiftedIdx rb.last
            full := rb.first = rb.shiftedIdx rb.last } := by
    have flag : rb.full = false :=
      Bool.eq_false_iff.mpr notFull
    rw [Ringbuffer.push, if_neg notFull]
    by_cases meets : rb.first = rb.shiftedIdx rb.last
    · simp [meets]
    · simp [meets, flag]
  exact ⟨_, stored, rfl, rfl, pushed⟩

/-- A flush leaves nothing, wherever the buffer ended. -/
theorem flush (represents : Represents rb queue) :
    Represents rb.flush [] :=
  Occupies.nil (Occupies.lastInside represents)

end Represents

/-- A buffer that is created is empty. -/
theorem represents_new
    {allocation : Allocation}
    {size : UInt64}
    {rb : Ringbuffer}
    (created : Ringbuffer.new allocation size = some rb) :
    rb.size = size ∧ rb.first = 0 ∧ 2 ≤ size.toNat ∧ Represents rb [] := by
  rw [Ringbuffer.new] at created
  split at created
  · cases created
  rename_i notSmall
  have large : 2 ≤ size.toNat :=
    UInt64.le_iff_toNat_le.mp (UInt64.not_lt.mp notSmall)
  split at created
  · cases created
  split at created
  · cases created
  split at created
  · cases created
  cases created
  refine ⟨rfl, rfl, large, Occupies.nil ?_⟩
  change 0 < size.toNat
  omega

end Ammc.Client
