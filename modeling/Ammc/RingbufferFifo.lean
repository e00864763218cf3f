import Ammc.BoundedFifo
import Ammc.ClientRingbuffer
import Ammc.Ringbuffer

namespace Ammc

open ByteMemory BoundedFifo CircularQueue

/-!
# Both ring buffers as bounded queues

The master and the client keep the same kind of ring buffer, with indices of
eight bits and of type `size_t`.  Both are compared with the bounded queue of
their capacity.
-/

namespace Master.Ringbuffer

/-- The operations of the master's buffer. -/
def implementation : Implementation UInt8 Ringbuffer where
  push := push
  pop := pop
  flush := flush
  used rb := rb.used.toNat
  isempty := isempty
  isfull := isfull

/-- The indices and the contents of the master's buffer. -/
def ends (rb : Ringbuffer) : Ends UInt8 where
  first := rb.first.toNat
  last := rb.last.toNat
  size := rb.size.toNat
  full := rb.full
  items := rb.contents

/-- The master's buffer of some size stands for a queue. -/
def StandsFor
    (size : UInt8)
    (rb : Ringbuffer)
    (queue : List UInt8) : Prop :=
  rb.size = size ∧ Represents rb queue

/-- The master's operations do to the queue what they should. -/
theorem follows (size : UInt8) :
    implementation.Follows size.toNat (StandsFor size) where
  push := by
    rintro rb queue val ⟨rfl, represents⟩ room
    obtain ⟨next, pushed, sameSize, after⟩ := represents.push room val
    exact ⟨next, pushed, sameSize, after⟩
  refuse := by
    rintro rb queue val ⟨rfl, represents⟩ noRoom
    have full : rb.full = true :=
      represents.full.mpr
        (Nat.le_antisymm represents.holds.fits (Nat.not_lt.mp noRoom))
    exact if_pos full
  pop := by
    rintro rb item rest ⟨rfl, represents⟩
    obtain ⟨next, popped, sameSize, after⟩ := represents.pop
    exact ⟨next, popped, sameSize, after⟩
  exhausted := by
    rintro rb ⟨rfl, represents⟩
    exact if_pos (represents.isempty_iff.mpr rfl)
  flush := by
    rintro rb queue ⟨rfl, represents⟩
    exact ⟨rfl, represents.flush⟩
  isempty := by
    rintro rb queue ⟨_, represents⟩
    exact represents.isempty_iff
  isfull := by
    rintro rb queue ⟨rfl, represents⟩
    exact represents.isfull_iff

/-- A new buffer of the master is a bounded queue. -/
theorem isFifo
    {buf : Memory}
    {bufSize : UInt8}
    {rb : Ringbuffer}
    (created : Ringbuffer.new buf bufSize = some rb) :
    IsFifo bufSize.toNat implementation.perform ends rb := by
  have accepted : 2 ≤ bufSize := by
    rw [Ringbuffer.new] at created
    split at created
    · cases created
    · rename_i notSmall
      exact UInt8.not_lt.mp notSmall
  obtain ⟨fresh, same, size, represents⟩ := represents_new buf accepted
  rw [created] at same
  cases same
  have counts :
      ∀ state queue, StandsFor bufSize state queue →
        implementation.used state = queue.length := by
    rintro state queue ⟨_, represents⟩
    exact represents.toNat_used
  refine
    isFifo_of_agree ((follows bufSize).agree counts)
      (fun _ _ failed => Implementation.perform_of_failed failed) ?_
      ⟨size, represents⟩
  rintro state queue ⟨rfl, represents⟩
  exact
    ⟨represents.contents_eq, rfl, represents.firstInside,
      represents.occupies.lastInside, represents.occupies.meet⟩

end Master.Ringbuffer

namespace Client.Ringbuffer

/-- The operations of the client's buffer. -/
def implementation : Implementation UInt8 Ringbuffer where
  push := push
  pop := pop
  flush := flush
  used rb := rb.used.toNat
  isempty := isempty
  isfull := isfull

/-- The indices and the contents of the client's buffer. -/
def ends (rb : Ringbuffer) : Ends UInt8 where
  first := rb.first.toNat
  last := rb.last.toNat
  size := rb.size.toNat
  full := rb.full
  items := rb.contents

/-- The client's buffer of some size stands for a queue. -/
def StandsFor
    (size : UInt64)
    (rb : Ringbuffer)
    (queue : List UInt8) : Prop :=
  rb.size = size ∧ Represents rb queue

/-- The client's operations do to the queue what they should. -/
theorem follows (size : UInt64) :
    implementation.Follows size.toNat (StandsFor size) where
  push := by
    rintro rb queue val ⟨rfl, represents⟩ room
    obtain ⟨next, pushed, sameSize, _, after⟩ := represents.push room val
    exact ⟨next, pushed, sameSize, after⟩
  refuse := by
    rintro rb queue val ⟨rfl, represents⟩ noRoom
    have full : rb.isfull = true :=
      represents.isfull_iff.mpr
        (Nat.le_antisymm (Occupies.holds represents).fits
          (Nat.not_lt.mp noRoom))
    exact if_pos full
  pop := by
    rintro rb item rest ⟨rfl, represents⟩
    obtain ⟨next, popped, sameSize, after⟩ := represents.pop
    exact ⟨next, popped, sameSize, after⟩
  exhausted := by
    rintro rb ⟨rfl, represents⟩
    exact if_pos (represents.isempty_iff.mpr rfl)
  flush := by
    rintro rb queue ⟨rfl, represents⟩
    exact ⟨rfl, represents.flush⟩
  isempty := by
    rintro rb queue ⟨_, represents⟩
    exact represents.isempty_iff
  isfull := by
    rintro rb queue ⟨rfl, represents⟩
    exact represents.isfull_iff

/-- A new buffer that is not too large is a bounded queue. -/
theorem isFifo
    {allocation : Allocation}
    {size : UInt64}
    {rb : Ringbuffer}
    (created : Ringbuffer.new allocation size = some rb)
    (small : size.toNat ≤ 9223372036854775808) :
    IsFifo size.toNat implementation.perform ends rb := by
  obtain ⟨sameSize, _, _, represents⟩ := represents_new created
  have counts :
      ∀ state queue, StandsFor size state queue →
        implementation.used state = queue.length := by
    rintro state queue ⟨rfl, represents⟩
    exact represents.toNat_used small
  refine
    isFifo_of_agree ((follows size).agree counts)
      (fun _ _ failed => Implementation.perform_of_failed failed) ?_
      ⟨sameSize, represents⟩
  rintro state queue ⟨rfl, represents⟩
  exact
    ⟨represents.contents_eq small, rfl, Occupies.firstInside represents,
      Occupies.lastInside represents, Occupies.meet represents⟩

/-- Where the sum in `virt_idx` is `2 ^ 64`, nothing seems to be there. -/
theorem used_of_overflow
    {rb : Ringbuffer}
    {queue : List UInt8}
    (represents : Represents rb queue)
    (first : rb.first = 0)
    (shorter : queue.length < rb.size.toNat)
    (overflow : queue.length + rb.size.toNat = 18446744073709551616) :
    rb.used.toNat = 0 := by
  have notFull : ¬ rb.isfull = true := fun full => by
    have same := represents.isfull_iff.mp full
    omega
  have zero : (0 : UInt64).toNat = 0 :=
    rfl
  have last : rb.last.toNat = queue.length := by
    rw [Occupies.last represents, first, zero, Nat.zero_add,
      Nat.mod_eq_of_lt shorter]
  have sum : rb.last + rb.size = 0 := by
    rw [← UInt64.toNat_inj, UInt64.toNat_add, last, overflow]
    rfl
  rw [Ringbuffer.used, if_neg notFull, virtIdx, sum, first,
    UInt64.sub_zero, UInt64.zero_mod]
  rfl

/-- A push leaves the first index alone. -/
theorem first_of_push
    {rb next : Ringbuffer}
    {val : UInt8}
    (pushed : rb.push val = some next) :
    next.first = rb.first := by
  rw [push] at pushed
  split at pushed
  · cases pushed
  · simp only [Option.some.injEq] at pushed
    subst pushed
    split
    · rfl
    · rfl

/-- Pushes into a new buffer answer as the queue does. -/
theorem agree_push
    (size : UInt64)
    (val : UInt8) :
    Agree (fun rb queue => StandsFor size rb queue ∧ rb.first = 0)
      implementation.perform (step size.toNat) (.push val) := by
  rintro state queue ⟨standsFor, unmoved⟩
  have other : Operation.push val ≠ .used := by
    rintro ⟨⟩
  obtain ⟨answer, after⟩ :=
    (follows size).agree_of_ne other state queue standsFor
  refine ⟨answer, after, ?_⟩
  rw [Implementation.perform]
  cases pushed : implementation.push state val with
  | none => exact unmoved
  | some next => exact (first_of_push pushed).trans unmoved

/-- A buffer that is too large miscounts its items. -/
theorem not_isFifo
    {allocation : Allocation}
    {size : UInt64}
    {rb : Ringbuffer}
    (created : Ringbuffer.new allocation size = some rb)
    (large : 9223372036854775808 < size.toNat) :
    ¬ IsFifo size.toNat implementation.perform ends rb := by
  intro fifo
  obtain ⟨sameSize, first, _, represents⟩ := represents_new created
  have bound := size.toNat_lt
  obtain ⟨count, total⟩ :
      ∃ count, count + size.toNat = 18446744073709551616 :=
    ⟨18446744073709551616 - size.toNat, by omega⟩
  have pushesAgree :
      ∀ operation ∈ List.replicate count (Operation.push 0),
        Agree (fun rb queue => StandsFor size rb queue ∧ rb.first = 0)
          implementation.perform (step size.toNat) operation := by
    intro operation member
    cases List.eq_of_mem_replicate member
    exact agree_push size 0
  obtain ⟨sameAnswers, ⟨filledSize, after⟩, unmoved⟩ :=
    run_of_agree pushesAgree ⟨⟨sameSize, represents⟩, first⟩
  have filled :
      (run (step size.toNat) (List.replicate count (.push 0)) []).2 =
        List.replicate count (0 : UInt8) := by
    have fits : ([] : List UInt8).length + count ≤ size.toNat := by
      rw [List.length_nil]
      omega
    exact run_pushes 0 [] fits
  rw [filled] at after
  have nothing :=
    used_of_overflow after unmoved
      (by rw [List.length_replicate, filledSize]; omega)
      (by rw [List.length_replicate, filledSize]; exact total)
  have answers :=
    fifo.answers (List.replicate count (.push 0) ++ [.used])
  rw [run_append, run_append, sameAnswers, filled] at answers
  have counted := List.append_cancel_left answers
  change [Answer.count (Ringbuffer.used _).toNat] = [Answer.count _]
    at counted
  rw [nothing, List.length_replicate] at counted
  simp only [List.cons.injEq, Answer.count.injEq, and_true] at counted
  omega

end Client.Ringbuffer

/-! ## The two buffers side by side -/

/--
Both buffers are bounded queues of the capacity they were created with, and give
the same answers where their capacities are the same.
-/
structure BothFifo
    (bufSize : UInt8)
    (size : UInt64)
    (master : Master.Ringbuffer)
    (client : Client.Ringbuffer) : Prop where
  masterFifo :
    IsFifo bufSize.toNat Master.Ringbuffer.implementation.perform
      Master.Ringbuffer.ends master
  clientFifo :
    IsFifo size.toNat Client.Ringbuffer.implementation.perform
      Client.Ringbuffer.ends client
  same :
    size.toNat = bufSize.toNat →
      ∀ operations,
        (run Master.Ringbuffer.implementation.perform operations
            master).1 =
          (run Client.Ringbuffer.implementation.perform operations
            client).1

/--
Whatever buffers are created, both are bounded queues in every sequence of
operations exactly when the sum of two indices of the client's fits a `size_t`.
-/
theorem bothFifo_iff
    (buf : Memory)
    (bufSize : UInt8)
    (master : Master.Ringbuffer)
    (masterNew : Master.Ringbuffer.new buf bufSize = some master)
    (allocation : Client.Allocation)
    (size : UInt64)
    (client : Client.Ringbuffer)
    (clientNew : Client.Ringbuffer.new allocation size = some client) :
    BothFifo bufSize size master client ↔
      size.toNat ≤ 9223372036854775808 := by
  constructor
  · intro both
    by_contra large
    exact
      Client.Ringbuffer.not_isFifo clientNew (Nat.not_le.mp large)
        both.clientFifo
  · intro small
    have masterFifo := Master.Ringbuffer.isFifo masterNew
    have clientFifo := Client.Ringbuffer.isFifo clientNew small
    refine ⟨masterFifo, clientFifo, fun sameSize operations => ?_⟩
    rw [masterFifo.answers, clientFifo.answers, sameSize]

/-- Every allocation succeeds. -/
def generous : Client.Allocation where
  record := true
  malloc _ := some fun _ => 0
  mutex := true

theorem bothFifo_three_iff :
    BothFifo 3 3 ⟨fun _ => 0, 0, 0, 3, false⟩ ⟨fun _ => 0, 0, 0, 3, false⟩ ↔
      (3 : UInt64).toNat ≤ 9223372036854775808 :=
  bothFifo_iff (fun _ => 0) 3 ⟨fun _ => 0, 0, 0, 3, false⟩ rfl generous 3
    ⟨fun _ => 0, 0, 0, 3, false⟩ rfl

/-- The client's buffer of size `SIZE_MAX` says that it holds nothing. -/
theorem largestBuffer_miscounts :
    ∃ rb,
      Client.Ringbuffer.new generous 18446744073709551615 = some rb ∧
        ¬ IsFifo (18446744073709551615 : UInt64).toNat
          Client.Ringbuffer.implementation.perform Client.Ringbuffer.ends
          rb := by
  refine ⟨_, rfl, fun fifo => ?_⟩
  have answers := fifo.answers [.push 7, .used]
  revert answers
  decide +kernel

end Ammc
