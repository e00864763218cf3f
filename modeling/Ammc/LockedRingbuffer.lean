import Ammc.LockedEffects
import Ammc.RingbufferFifo

namespace Ammc.Client.LockedRingbuffer

open BoundedFifo LockedObject LockedObject.Accesses Linearizability

/-!
# The client's ring buffer in several threads

The functions of the ring buffer are run by any number of threads.  Between
`lock` and `unlock` every read and write of a field, and of a byte of `base`, is
a step of its own; `ringbuffer_size` reads its field without the lock.
-/

/-- `_isfull`, and what `ringbuffer_isfull` does under the lock -/
def isfull : Accesses Ringbuffer Bool :=
  fetch Ringbuffer.full

/-- `_isempty`, and what `ringbuffer_isempty` does under the lock -/
def isempty : Accesses Ringbuffer Bool := do
  let first ← fetch Ringbuffer.first
  let last ← fetch Ringbuffer.last
  if first = last then
    let full ← fetch Ringbuffer.full
    return !full
  else
    return false

/-- `shifted_idx` -/
def shiftedIdx (idx : UInt64) : Accesses Ringbuffer UInt64 := do
  let size ← fetch Ringbuffer.size
  return (idx + 1) % size

/-- `virt_idx` -/
def virtIdx (real : UInt64) : Accesses Ringbuffer UInt64 := do
  let size ← fetch Ringbuffer.size
  let first ← fetch Ringbuffer.first
  let modulus ← fetch Ringbuffer.size
  return (real + size - first) % modulus

/-- What `ringbuffer_used` does under the lock. -/
def used : Accesses Ringbuffer UInt64 := do
  if ← isfull then
    fetch Ringbuffer.size
  else
    let last ← fetch Ringbuffer.last
    virtIdx last

/-- What `ringbuffer_pop` does under the lock; `none` is the code 1. -/
def pop : Accesses Ringbuffer (Option UInt8) := do
  if ← isempty then
    return none
  else
    let cell ← fetch Ringbuffer.first
    let dest ← fetch fun rb => rb.base cell.toNat
    let first ← fetch Ringbuffer.first
    let next ← shiftedIdx first
    store fun rb => { rb with first := next }
    store fun rb => { rb with full := false }
    return some dest

/-- What `ringbuffer_push` does under the lock; `false` is the code 1. -/
def push (val : UInt8) : Accesses Ringbuffer Bool := do
  if ← isfull then
    return false
  else
    let cell ← fetch Ringbuffer.last
    store fun rb => { rb with base := rb.base.store cell.toNat [val] }
    let last ← fetch Ringbuffer.last
    let next ← shiftedIdx last
    store fun rb => { rb with last := next }
    let first ← fetch Ringbuffer.first
    let stored ← fetch Ringbuffer.last
    if first = stored then
      store fun rb => { rb with full := true }
    return true

/-- What `ringbuffer_flush` does under the lock. -/
def flush : Accesses Ringbuffer Unit := do
  let last ← fetch Ringbuffer.last
  store fun rb => { rb with first := last }
  store fun rb => { rb with full := false }

/-- The functions that take the lock. -/
def body : Operation UInt8 → Accesses Ringbuffer (Answer UInt8)
  | .push val => Answer.pushed <$> push val
  | .pop => Answer.popped <$> pop
  | .flush => (fun _ => .flushed) <$> flush
  | .used => (fun items => .count items.toNat) <$> used
  | .isempty => Answer.flag <$> isempty
  | .isfull => Answer.flag <$> isfull

/-- What a thread can call. -/
inductive Request where
  | size
  | operation (operation : Operation UInt8)
  deriving Repr, DecidableEq

/-- What a thread gets. -/
inductive Reply where
  | size (items : Nat)
  | answer (answer : Answer UInt8)
  deriving Repr, DecidableEq

/-- What `ringbuffer_size` returns, without the lock. -/
def size (rb : Ringbuffer) : Reply :=
  .size rb.size.toNat

/-- The functions of the ring buffer. -/
def method : Request → Method Ringbuffer Reply
  | .size => .unlocked size
  | .operation operation => .locked (Reply.answer <$> body operation)

/-- What the threads have done to a buffer after the actions. -/
def interleaved
    {ι : Type}
    [DecidableEq ι]
    (rb : Ringbuffer)
    (actions : List (Action ι Request)) :
    State ι Request Ringbuffer Reply :=
  (State.initial rb).run method actions

/-- The functions of the ring buffer, each in one step. -/
def atOnce : Request → Ringbuffer → Reply × Ringbuffer
  | .size, rb => (size rb, rb)
  | .operation operation, rb =>
      (.answer (Ringbuffer.implementation.perform operation rb).1,
        (Ringbuffer.implementation.perform operation rb).2)

/-- What they are to do to a bounded queue. -/
def onQueue (capacity : Nat) : Request → List UInt8 → Reply × List UInt8
  | .size, queue => (.size capacity, queue)
  | .operation operation, queue =>
      (.answer (step capacity operation queue).1,
        (step capacity operation queue).2)

/-! ## The accesses of one function together -/

theorem run_isempty (rb : Ringbuffer) :
    isempty.run rb = (rb.isempty, rb) := by
  rw [isempty, run_bind, run_fetch, run_bind, run_fetch, Ringbuffer.isempty]
  by_cases meet : rb.first = rb.last
  · rw [if_pos meet, decide_eq_true meet, Bool.true_and]
    rfl
  · rw [if_neg meet, decide_eq_false meet, Bool.false_and]
    rfl

theorem run_used (rb : Ringbuffer) :
    used.run rb = (rb.used, rb) := by
  rw [used, run_bind, isfull, run_fetch, Ringbuffer.used,
    Ringbuffer.isfull]
  by_cases full : rb.full = true
  · rw [if_pos full, if_pos full]
    rfl
  · rw [if_neg full, if_neg full]
    rfl

theorem run_pop (rb : Ringbuffer) :
    pop.run rb =
      (rb.pop.map Prod.fst, (rb.pop.map Prod.snd).getD rb) := by
  rw [pop, run_bind, run_isempty, Ringbuffer.pop]
  by_cases empty : rb.isempty = true
  · rw [if_pos empty, if_pos empty]
    rfl
  · rw [if_neg empty, if_neg empty]
    rfl

theorem run_push
    (rb : Ringbuffer)
    (val : UInt8) :
    (push val).run rb =
      ((rb.push val).isSome, (rb.push val).getD rb) := by
  rw [push, run_bind, isfull, run_fetch, Ringbuffer.push,
    Ringbuffer.isfull]
  by_cases full : rb.full = true
  · rw [if_pos full, if_pos full]
    rfl
  · rw [if_neg full, if_neg full]
    simp only [shiftedIdx, run_bind, run_fetch, run_store, run_pure]
    change
      Accesses.run
        (if rb.first = rb.shiftedIdx rb.last then _ else _) _ =
        (true,
          if rb.first = rb.shiftedIdx rb.last then _ else _)
    by_cases meet : rb.first = rb.shiftedIdx rb.last
    · rw [if_pos meet, if_pos meet]
      rfl
    · rw [if_neg meet, if_neg meet]
      rfl

/-- The accesses of a function make one operation of the buffer. -/
theorem run_body
    (operation : Operation UInt8)
    (rb : Ringbuffer) :
    (body operation).run rb =
      Ringbuffer.implementation.perform operation rb := by
  cases operation with
  | push val =>
      rw [body, run_map, run_push, Implementation.perform]
      cases pushed : rb.push val with
      | none =>
          have refused : Ringbuffer.implementation.push rb val = none :=
            pushed
          rw [refused]
          rfl
      | some next =>
          have stored :
              Ringbuffer.implementation.push rb val = some next :=
            pushed
          rw [stored]
          rfl
  | pop =>
      rw [body, run_map, run_pop, Implementation.perform]
      cases popped : rb.pop with
      | none =>
          have refused : Ringbuffer.implementation.pop rb = none :=
            popped
          rw [refused]
          rfl
      | some taken =>
          have given : Ringbuffer.implementation.pop rb = some taken :=
            popped
          rw [given]
          rfl
  | flush => rfl
  | used =>
      rw [body, run_map, run_used]
      rfl
  | isempty =>
      rw [body, run_map, run_isempty]
      rfl
  | isfull => rfl

/-! ## All calls seem to be made at once -/

theorem keeps_isempty : Keeps size isempty :=
  (Keeps.fetch _).bind fun _ =>
    (Keeps.fetch _).bind fun _ =>
      .ite ((Keeps.fetch _).bind fun _ => .done _) (.done _)

theorem keeps_shiftedIdx (idx : UInt64) : Keeps size (shiftedIdx idx) :=
  (Keeps.fetch _).bind fun _ => .done _

/-- No function writes what `ringbuffer_size` looks at. -/
theorem keeps_size
    (operation : Operation UInt8) :
    Keeps size (body operation) := by
  cases operation with
  | push val =>
      refine Keeps.map ?_ _
      refine (Keeps.fetch _).bind fun full => .ite (.done _) ?_
      refine (Keeps.fetch _).bind fun cell => ?_
      refine Keeps.bind (.store fun _ => rfl) fun _ => ?_
      refine (Keeps.fetch _).bind fun last => ?_
      refine (keeps_shiftedIdx last).bind fun next => ?_
      refine Keeps.bind (.store fun _ => rfl) fun _ => ?_
      refine (Keeps.fetch _).bind fun first => ?_
      refine (Keeps.fetch _).bind fun stored => ?_
      exact
        .ite (Keeps.bind (.store fun _ => rfl) fun _ => .done _) (.done _)
  | pop =>
      refine Keeps.map ?_ _
      refine keeps_isempty.bind fun empty => .ite (.done _) ?_
      refine (Keeps.fetch _).bind fun cell => ?_
      refine (Keeps.fetch _).bind fun dest => ?_
      refine (Keeps.fetch _).bind fun first => ?_
      refine (keeps_shiftedIdx first).bind fun next => ?_
      refine Keeps.bind (.store fun _ => rfl) fun _ => ?_
      exact Keeps.bind (.store fun _ => rfl) fun _ => .done _
  | flush =>
      refine Keeps.map ?_ _
      refine (Keeps.fetch _).bind fun last => ?_
      refine Keeps.bind (.store fun _ => rfl) fun _ => ?_
      exact .store fun _ => rfl
  | used =>
      refine Keeps.map ?_ _
      refine (Keeps.fetch _).bind fun full => .ite (.fetch _) ?_
      refine (Keeps.fetch _).bind fun last => ?_
      refine (Keeps.fetch _).bind fun capacity => ?_
      refine (Keeps.fetch _).bind fun first => ?_
      exact (Keeps.fetch _).bind fun modulus => .done _
  | isempty => exact keeps_isempty.map _
  | isfull => exact (Keeps.fetch _).map _

theorem within_isempty : Within isempty 3 :=
  (Within.fetch _).bind fun _ =>
    (Within.fetch _).bind fun _ =>
      .ite ((Within.fetch _).bind fun _ => .done _ 0) (.done _ 1)

theorem within_shiftedIdx (idx : UInt64) : Within (shiftedIdx idx) 1 :=
  (Within.fetch _).bind fun _ => .done _ 0

/-- Every function holds the lock for at most nine accesses. -/
theorem within_nine
    (operation : Operation UInt8) :
    Within (body operation) 9 := by
  cases operation with
  | push val =>
      refine Within.map ?_ _
      refine (Within.fetch _).bind fun full => .ite (.done _ 8) ?_
      refine (Within.fetch _).bind fun cell => ?_
      refine (Within.store _).bind fun _ => ?_
      refine (Within.fetch _).bind fun last => ?_
      refine (within_shiftedIdx last).bind fun next => ?_
      refine (Within.store _).bind fun _ => ?_
      refine (Within.fetch _).bind fun first => ?_
      refine (Within.fetch _).bind fun stored => ?_
      exact .ite ((Within.store _).bind fun _ => .done _ 0) (.done _ 1)
  | pop =>
      refine Within.map ?_ _
      refine within_isempty.bind fun empty => .ite (.done _ 6) ?_
      refine (Within.fetch _).bind fun cell => ?_
      refine (Within.fetch _).bind fun dest => ?_
      refine (Within.fetch _).bind fun first => ?_
      refine (within_shiftedIdx first).bind fun next => ?_
      refine (Within.store _).bind fun _ => ?_
      exact (Within.store _).bind fun _ => .done _ 0
  | flush =>
      have within : Within flush 3 :=
        (Within.fetch _).bind fun last =>
          (Within.store _).bind fun _ => .store _
      exact (within.map _).mono (by decide)
  | used =>
      have within : Within used 5 := by
        refine (Within.fetch _).bind fun full => ?_
        refine .ite ((Within.fetch _).mono (by decide)) ?_
        refine (Within.fetch _).bind fun last => ?_
        refine (Within.fetch _).bind fun capacity => ?_
        refine (Within.fetch _).bind fun first => ?_
        exact (Within.fetch _).bind fun modulus => .done _ 0
      exact (within.map _).mono (by decide)
  | isempty => exact (within_isempty.map _).mono (by decide)
  | isfull => exact ((Within.fetch _).map _).mono (by decide)

/-- The body of a function that takes the lock. -/
theorem body_of_locked
    {request : Request}
    {accesses : Accesses Ringbuffer Reply}
    (locked : method request = .locked accesses) :
    ∃ operation,
      request = .operation operation ∧
        accesses = Reply.answer <$> body operation := by
  cases request with
  | size => cases locked
  | operation operation =>
      cases locked
      exact ⟨operation, rfl, rfl⟩

theorem within_of_locked
    (request : Request)
    (accesses : Accesses Ringbuffer Reply)
    (locked : method request = .locked accesses) :
    accesses.Within 9 := by
  obtain ⟨operation, _, rfl⟩ := body_of_locked locked
  exact (within_nine operation).map Reply.answer

theorem untouched
    (request : Request)
    (look : Ringbuffer → Reply)
    (unlocked : method request = .unlocked look)
    (other : Request)
    (accesses : Accesses Ringbuffer Reply)
    (locked : method other = .locked accesses) :
    accesses.Keeps look := by
  obtain ⟨operation, _, rfl⟩ := body_of_locked locked
  cases request with
  | size =>
      cases unlocked
      exact (keeps_size operation).map Reply.answer
  | operation other => cases unlocked

/-- Access by access the functions do what they do at once. -/
theorem implements_atOnce : Implements method atOnce Eq where
  locked := by
    rintro request accesses locked rb _ rfl
    obtain ⟨operation, rfl, rfl⟩ := body_of_locked locked
    rw [run_map, run_body]
    exact ⟨rfl, rfl⟩
  unlocked := by
    rintro request look unlocked rb _ rfl
    cases request with
    | size =>
        cases unlocked
        rfl
    | operation operation => cases unlocked
  untouched := untouched

/-- Access by access they are the functions of a bounded queue. -/
theorem implements_onQueue
    {size : UInt64}
    (small : size.toNat ≤ 9223372036854775808) :
    Implements method (onQueue size.toNat)
      (Ringbuffer.StandsFor size) where
  locked := by
    intro request accesses locked rb queue standsFor
    obtain ⟨operation, rfl, rfl⟩ := body_of_locked locked
    have counts :
        ∀ rb queue, Ringbuffer.StandsFor size rb queue →
          Ringbuffer.implementation.used rb = queue.length := by
      rintro rb queue ⟨rfl, represents⟩
      exact represents.toNat_used small
    obtain ⟨answer, after⟩ :=
      (Ringbuffer.follows size).agree counts operation rb queue standsFor
    rw [run_map, run_body]
    exact ⟨congrArg Reply.answer answer, after⟩
  unlocked := by
    rintro request look unlocked rb queue ⟨rfl, _⟩
    cases request with
    | size =>
        cases unlocked
        rfl
    | operation operation => cases unlocked
  untouched := untouched

/-- A buffer that is created stands for the empty queue. -/
theorem standsFor_new
    {allocation : Allocation}
    {size : UInt64}
    {rb : Ringbuffer}
    (created : Ringbuffer.new allocation size = some rb) :
    Ringbuffer.StandsFor size rb [] := by
  obtain ⟨sameSize, _, _, represents⟩ := represents_new created
  exact ⟨sameSize, represents⟩

/--
In any interleaving of the accesses of any number of threads, the calls on a
buffer are linearizable: as calls that are made at once, and, if the buffer is
not too large, as calls of a bounded queue.
-/
theorem linearizable
    {ι : Type}
    [DecidableEq ι]
    {allocation : Allocation}
    {size : UInt64}
    {rb : Ringbuffer}
    (created : Ringbuffer.new allocation size = some rb)
    (actions : List (Action ι Request)) :
    Linearizable atOnce rb (interleaved rb actions).history ∧
      (size.toNat ≤ 9223372036854775808 →
        Linearizable (onQueue size.toNat) []
          (interleaved rb actions).history) := by
  constructor
  · obtain ⟨moments, final, explains⟩ :=
      explained_run implements_atOnce rfl actions
    exact ⟨moments, final, explains.linearization⟩
  · intro small
    obtain ⟨moments, final, explains⟩ :=
      explained_run (implements_onQueue small) (standsFor_new created)
        actions
    exact ⟨moments, final, explains.linearization⟩

/-- A new buffer for three bytes. -/
def threeBytes : Ringbuffer where
  base _ := 0
  first := 0
  last := 0
  size := 3
  full := false

theorem threeBytes_new : Ringbuffer.new generous 3 = some threeBytes :=
  rfl

/-- A thread pushes a byte while another one waits to pop it. -/
def raced : List (Action Bool Request) :=
  [.call true (.operation (.push 7)), .call false (.operation .pop),
    .advance true, .advance false] ++
    List.replicate 10 (.advance true) ++
      List.replicate 11 (.advance false)

/-- The push takes effect first, so the pop finds its byte. -/
example :
    returns (interleaved threeBytes raced).history =
      [⟨true, .operation (.push 7), .answer (.pushed true)⟩,
        ⟨false, .operation .pop, .answer (.popped (some 7))⟩] := by
  decide

theorem raced_linearizable :
    Linearizable atOnce threeBytes
        (interleaved threeBytes raced).history ∧
      ((3 : UInt64).toNat ≤ 9223372036854775808 →
        Linearizable (onQueue (3 : UInt64).toNat) []
          (interleaved threeBytes raced).history) :=
  linearizable threeBytes_new raced

/-- What comes after some actions. -/
theorem run_interleaved
    {ι : Type}
    [DecidableEq ι]
    (rb : Ringbuffer)
    (actions later : List (Action ι Request)) :
    (interleaved rb actions).run method later =
      interleaved rb (actions ++ later) :=
  List.foldl_append.symm

/--
At any time at most one thread works on the buffer; it gives the lock back with
its tenth access at the latest, whatever the others do; and as long as some
thread is in a call, some thread returns from its call if it goes on.
-/
theorem never_stuck
    {ι : Type}
    [DecidableEq ι]
    (rb : Ringbuffer)
    (actions : List (Action ι Request)) :
    (∀ thread,
      ((interleaved rb actions).threads thread).Inside ↔
        (interleaved rb actions).holder = some thread) ∧
    (∀ thread later,
      (interleaved rb actions).holder = some thread →
        9 < advances thread later →
          ∃ first rest,
            later = first ++ rest ∧
              (interleaved rb (actions ++ first)).holder = none) ∧
    (∀ thread,
      (interleaved rb actions).threads thread ≠ .outside →
        ∃ other,
          (interleaved rb actions).ReturnsWithin method other 12) := by
  have sound : (interleaved rb actions).Sound 9 :=
    State.sound_run within_of_locked rb actions
  refine ⟨sound.guarded, fun thread later holder enough => ?_, ?_⟩
  · obtain ⟨first, rest, split, free⟩ :
        ∃ first rest,
          later = first ++ rest ∧
            ((interleaved rb actions).run method first).holder = none :=
      sound.releases holder enough
    rw [run_interleaved] at free
    exact ⟨first, rest, split, free⟩
  · intro thread busy
    exact sound.proceeds within_of_locked busy

theorem raced_released :
    ∃ first rest,
      List.replicate 10 (.advance true) = first ++ rest ∧
        (interleaved threeBytes (raced.take 4 ++ first)).holder = none :=
  (never_stuck threeBytes (raced.take 4)).2.1 true
    (List.replicate 10 (.advance true)) rfl (by decide)

end Ammc.Client.LockedRingbuffer
