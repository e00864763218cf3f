import Ammc.ByteMemory
import Ammc.CircularQueue

namespace Ammc.Master

open ByteMemory CircularQueue

/-!
# The master's ring buffer

The buffer and its operations, and the queue that it stands for.  Pointers to
the buffer are never null.
-/

/-- `ringbuffer_t`; `base` is the memory that the pointer of that name reaches. -/
structure Ringbuffer where
  base : Memory
  first : UInt8
  last : UInt8
  size : UInt8
  full : Bool

namespace Ringbuffer

/-- `virt_idx` -/
def virtIdx (rb : Ringbuffer) (real : UInt8) : UInt8 :=
  UInt8.ofNat
    ((real.toNat + rb.size.toNat - rb.first.toNat) % rb.size.toNat)

/-- `shifted_idx` -/
def shiftedIdx (rb : Ringbuffer) (idx : UInt8) : UInt8 :=
  UInt8.ofNat ((idx.toNat + 1) % rb.size.toNat)

/-- `ringbuffer_new`; `none` is the return code 1. -/
def new
    (buf : Memory)
    (bufSize : UInt8) : Option Ringbuffer :=
  if bufSize < 2 then
    none
  else
    some
      { base := buf
        first := 0
        last := 0
        size := bufSize
        full := false }

/-- `ringbuffer_used` -/
def used (rb : Ringbuffer) : UInt8 :=
  if rb.full then rb.size else rb.virtIdx rb.last

/-- `ringbuffer_isempty` -/
def isempty (rb : Ringbuffer) : Bool :=
  !rb.full && rb.first = rb.last

/-- `ringbuffer_isfull` -/
def isfull (rb : Ringbuffer) : Bool :=
  rb.full && rb.first = rb.last

/-- `ringbuffer_pop`; `none` is the return code 1. -/
def pop (rb : Ringbuffer) : Option (UInt8 × Ringbuffer) :=
  if rb.isempty then
    none
  else
    some
      (rb.base rb.first.toNat,
        { rb with
          first := rb.shiftedIdx rb.first
          full := false })

/-- `ringbuffer_push`; `none` is the return code 1. -/
def push (rb : Ringbuffer) (val : UInt8) : Option Ringbuffer :=
  if rb.full then
    none
  else
    let stored :=
      { rb with
        base := rb.base.store rb.last.toNat [val]
        last := rb.shiftedIdx rb.last }
    some
      (if stored.first = stored.last then
        { stored with full := true }
      else
        stored)

/-- `ringbuffer_flush` -/
def flush (rb : Ringbuffer) : Ringbuffer :=
  { rb with
    first := 0
    last := 0
    full := false }

/-- The bytes in the buffer, oldest first. -/
def contents (rb : Ringbuffer) : List UInt8 :=
  items rb.base rb.size.toNat rb.first.toNat rb.used.toNat

end Ringbuffer

/-- The buffer stands for a queue of bytes. -/
structure Represents
    (rb : Ringbuffer)
    (queue : List UInt8) : Prop where
  firstInside : rb.first.toNat < rb.size.toNat
  holds : Holds rb.base rb.size.toNat rb.first.toNat queue
  last :
    rb.last.toNat =
      (rb.first.toNat + queue.length) % rb.size.toNat
  full : rb.full = true ↔ queue.length = rb.size.toNat

namespace Represents

variable {rb : Ringbuffer} {queue : List UInt8}

/-- A position of the buffer fits the eight bits of its index. -/
theorem toNat_position
    (represents : Represents rb queue)
    (position : Nat) :
    (UInt8.ofNat (position % rb.size.toNat)).toNat =
      position % rb.size.toNat := by
  have inside :=
    Nat.mod_lt position
      (Nat.lt_of_le_of_lt (Nat.zero_le _) represents.firstInside)
  have bound := rb.size.toNat_lt
  rw [UInt8.toNat_ofNat']
  omega

/-- The queue lies in the storage between the two indices. -/
theorem occupies (represents : Represents rb queue) :
    Occupies rb.base rb.size.toNat rb.first.toNat rb.last.toNat rb.full
      queue :=
  ⟨represents.firstInside, represents.holds, represents.last,
    represents.full⟩

/-- What lies in the storage is represented. -/
theorem of_occupies
    (occupies :
      Occupies rb.base rb.size.toNat rb.first.toNat rb.last.toNat rb.full
        queue) :
    Represents rb queue :=
  ⟨occupies.firstInside, occupies.holds, occupies.last, occupies.full⟩

theorem isempty_iff (represents : Represents rb queue) :
    rb.isempty = true ↔ queue = [] := by
  rw [← represents.occupies.empty_iff, UInt8.toNat_inj]
  simp only [Ringbuffer.isempty, Bool.and_eq_true, Bool.not_eq_true',
    decide_eq_true_eq]

theorem isfull_iff (represents : Represents rb queue) :
    rb.isfull = true ↔ queue.length = rb.size.toNat := by
  rw [← represents.full, Ringbuffer.isfull, Bool.and_eq_true,
    decide_eq_true_eq]
  exact
    ⟨fun both => both.1, fun full =>
      ⟨full, UInt8.toNat_inj.mp (represents.occupies.meet full)⟩⟩

theorem toNat_used (represents : Represents rb queue) :
    rb.used.toNat = queue.length := by
  rw [Ringbuffer.used]
  split
  · rename_i full
    exact (represents.full.mp full).symm
  · rename_i notFull
    rw [Ringbuffer.virtIdx, represents.toNat_position]
    exact represents.occupies.length_eq notFull

/-- The ends meet where the buffer is empty, and where it is full. -/
theorem ends_iff (represents : Represents rb queue) :
    rb.first = rb.last ↔
      queue.length = 0 ∨ queue.length = rb.size.toNat := by
  rw [← UInt8.toNat_inj]
  exact represents.occupies.first_eq_last_iff

theorem nonempty_of_full
    (represents : Represents rb queue)
    (full : rb.full = true) :
    queue ≠ [] := by
  have count := represents.full.mp full
  have inside := represents.firstInside
  intro empty
  rw [empty, List.length_nil] at count
  omega

theorem nonempty_of_apart
    (represents : Represents rb queue)
    (apart : ¬ rb.first = rb.last) :
    queue ≠ [] := by
  intro empty
  refine apart (represents.ends_iff.mpr (Or.inl ?_))
  rw [empty, List.length_nil]

/-- The ends of a full buffer tell nothing. -/
theorem virtIdx_last_of_full
    (represents : Represents rb queue)
    (full : queue.length = rb.size.toNat) :
    rb.virtIdx rb.last = 0 := by
  have meets :=
    UInt8.toNat_inj.mp
      (represents.occupies.meet (represents.full.mpr full))
  rw [Ringbuffer.virtIdx, ← meets, Nat.add_sub_cancel_left,
    Nat.mod_self]
  rfl

/-- The ends alone tell the length, except that a full buffer looks empty. -/
theorem virtIdx_last (represents : Represents rb queue) :
    (rb.virtIdx rb.last).toNat = queue.length ∨
      rb.virtIdx rb.last = 0 ∧ queue.length = rb.size.toNat := by
  by_cases full : queue.length = rb.size.toNat
  · exact Or.inr ⟨represents.virtIdx_last_of_full full, full⟩
  · left
    rw [Ringbuffer.virtIdx, represents.toNat_position]
    exact
      represents.occupies.length_eq fun isFull =>
        full (represents.full.mp isFull)

/-- A full buffer whose flag is cleared holds nothing any more. -/
theorem unmarked
    (represents : Represents rb queue)
    (full : rb.full = true) :
    Represents { rb with full := false } [] := by
  have meets := represents.occupies.meet full
  refine of_occupies ?_
  change
    CircularQueue.Occupies rb.base rb.size.toNat rb.first.toNat
      rb.last.toNat false []
  rw [← meets]
  exact Occupies.nil represents.firstInside

/-- The bytes read from the buffer are the queue. -/
theorem contents_eq (represents : Represents rb queue) :
    rb.contents = queue := by
  rw [Ringbuffer.contents, represents.toNat_used]
  exact represents.holds.items_eq

/-- The assignments of a pop leave the other bytes. -/
theorem advanced
    {byte : UInt8}
    {rest : List UInt8}
    (represents : Represents rb (byte :: rest)) :
    Represents
      { rb with
        first := rb.shiftedIdx rb.first
        full := false }
      rest := by
  have popped := represents.occupies.pop
  have shifted :
      (rb.shiftedIdx rb.first).toNat =
        (rb.first.toNat + 1) % rb.size.toNat :=
    represents.toNat_position _
  rw [← shifted] at popped
  exact of_occupies popped

/-- A pop takes the oldest byte. -/
theorem pop
    {byte : UInt8}
    {rest : List UInt8}
    (represents : Represents rb (byte :: rest)) :
    ∃ next,
      rb.pop = some (byte, next) ∧ next.size = rb.size ∧
        Represents next rest := by
  have notEmpty : ¬ rb.isempty = true := fun empty => by
    cases represents.isempty_iff.mp empty
  refine
    ⟨{ rb with
        first := rb.shiftedIdx rb.first
        full := false },
      ?_, rfl, represents.advanced⟩
  rw [Ringbuffer.pop, if_neg notEmpty, represents.occupies.head]

/-- A push appends a byte where there is room. -/
theorem push
    (represents : Represents rb queue)
    (room : queue.length < rb.size.toNat)
    (byte : UInt8) :
    ∃ next,
      rb.push byte = some next ∧ next.size = rb.size ∧
        Represents next (queue ++ [byte]) := by
  have notFull : ¬ rb.full = true := fun full => by
    have same := represents.full.mp full
    omega
  have shifted :
      (rb.shiftedIdx rb.last).toNat =
        (rb.last.toNat + 1) % rb.size.toNat :=
    represents.toNat_position _
  have pushed := represents.occupies.push notFull byte
  rw [← shifted, ← Memory.store_byte] at pushed
  have meets :
      (rb.first.toNat = (rb.shiftedIdx rb.last).toNat) =
        (rb.first = rb.shiftedIdx rb.last) :=
    propext UInt8.toNat_inj
  simp only [meets] at pushed
  have stored :
      rb.push byte =
        some
          { rb with
            base := rb.base.store rb.last.toNat [byte]
            last := rb.shiftedIdx rb.last
            full := rb.first = rb.shiftedIdx rb.last } := by
    rw [Ringbuffer.push, if_neg notFull]
    by_cases meets : rb.first = rb.shiftedIdx rb.last
    · simp [meets]
    · simp [meets, notFull]
  exact ⟨_, stored, rfl, of_occupies pushed⟩

/-- A flush leaves nothing. -/
theorem flush (represents : Represents rb queue) :
    Represents rb.flush [] :=
  of_occupies
    (Occupies.nil
      (Nat.lt_of_le_of_lt (Nat.zero_le _) represents.firstInside))

end Represents

/-- A new buffer is empty. -/
theorem represents_new
    (buf : Memory)
    {bufSize : UInt8}
    (accepted : 2 ≤ bufSize) :
    ∃ rb,
      Ringbuffer.new buf bufSize = some rb ∧ rb.size = bufSize ∧
        Represents rb [] := by
  have notSmall : ¬ bufSize < 2 := UInt8.not_lt.mpr accepted
  have positive : 2 ≤ bufSize.toNat :=
    UInt8.le_iff_toNat_le.mp accepted
  refine
    ⟨_, by rw [Ringbuffer.new, if_neg notSmall], rfl,
      .of_occupies (Occupies.nil ?_)⟩
  change 0 < bufSize.toNat
  omega

end Ammc.Master
