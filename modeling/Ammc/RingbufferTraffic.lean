import Ammc.LockedRingbuffer

namespace Ammc.Client.LockedRingbuffer

open BoundedFifo LockedObject Linearizability

/-!
# The bytes between the threads

The threads put bytes into the client's ring buffer and take them out of it.
What the threads got is compared with what they gave, from the results of their
calls alone.
-/

variable {ι : Type}

/-- The byte that a call has put into the buffer. -/
def given : Completed ι Request Reply → List UInt8
  | ⟨_, .operation (.push val), .answer (.pushed true)⟩ => [val]
  | _ => []

/-- The byte that a call has taken out of the buffer. -/
def taken : Completed ι Request Reply → List UInt8
  | ⟨_, .operation .pop, .answer (.popped (some val))⟩ => [val]
  | _ => []

/-- Only a push puts a byte into the buffer. -/
theorem push_of_given
    {entry : Completed ι Request Reply}
    (gives : given entry ≠ []) :
    ∃ val, entry.operation = .operation (.push val) := by
  unfold given at gives
  split at gives
  · rename_i thread val
    exact ⟨val, rfl⟩
  · exact absurd rfl gives

/-- Only a pop takes a byte out of it. -/
theorem pop_of_taken
    {entry : Completed ι Request Reply}
    (takes : taken entry ≠ []) :
    entry.operation = .operation .pop := by
  unfold taken at takes
  split at takes
  · rfl
  · exact absurd rfl takes

/-- What the calls that have returned put into the buffer. -/
def bytesGiven (state : State ι Request Ringbuffer Reply) : List UInt8 :=
  (returns state.history).flatMap given

/-- What the calls that have returned took out of it. -/
def bytesTaken (state : State ι Request Ringbuffer Reply) : List UInt8 :=
  (returns state.history).flatMap taken

/--
What is put into a queue, and what was there, is taken out or stays, in this
order; only some of it is lost, and nothing of it if `whole` holds.
-/
structure Passes
    (puts takes queue after : List UInt8)
    (whole : Prop) : Prop where
  kept : (takes ++ after).Sublist (queue ++ puts)
  all : whole → queue ++ puts = takes ++ after

namespace Passes

/-- No byte is moved. -/
theorem nothing
    (queue : List UInt8)
    (whole : Prop) :
    Passes [] [] queue queue whole where
  kept := by
    rw [List.append_nil]
    exact List.Sublist.refl queue
  all _ := List.append_nil queue

/-- The bytes pass on. -/
theorem trans
    {puts morePuts takes moreTakes queue middle after : List UInt8}
    {whole wholeLater : Prop}
    (first : Passes puts takes queue middle whole)
    (second : Passes morePuts moreTakes middle after wholeLater) :
    Passes (puts ++ morePuts) (takes ++ moreTakes) queue after
      (whole ∧ wholeLater) where
  kept := by
    have later :
        (takes ++ (moreTakes ++ after)).Sublist
          (takes ++ (middle ++ morePuts)) :=
      second.kept.append_left takes
    have earlier :
        ((takes ++ middle) ++ morePuts).Sublist
          ((queue ++ puts) ++ morePuts) :=
      first.kept.append_right morePuts
    rw [List.append_assoc] at earlier
    rw [List.append_assoc, ← List.append_assoc queue]
    exact later.trans earlier
  all := by
    rintro ⟨nowWhole, laterWhole⟩
    rw [← List.append_assoc, first.all nowWhole, List.append_assoc,
      second.all laterWhole, List.append_assoc]

end Passes

/-- An operation of a bounded queue moves at most one byte. -/
theorem passes_step
    (thread : ι)
    (capacity : Nat)
    (operation : Operation UInt8)
    (queue : List UInt8) :
    Passes
      (given
        ⟨thread, .operation operation,
          .answer (step capacity operation queue).1⟩)
      (taken
        ⟨thread, .operation operation,
          .answer (step capacity operation queue).1⟩)
      queue (step capacity operation queue).2 (operation ≠ .flush) := by
  cases operation with
  | push val =>
      by_cases room : queue.length < capacity
      · rw [step, if_pos room]
        exact ⟨List.Sublist.refl _, fun _ => rfl⟩
      · rw [step, if_neg room]
        exact .nothing queue _
  | pop =>
      cases queue with
      | nil => exact .nothing [] _
      | cons val rest =>
          refine ⟨?_, fun _ => List.append_nil _⟩
          change (val :: rest).Sublist ((val :: rest) ++ [])
          rw [List.append_nil]
  | flush =>
      exact ⟨List.nil_sublist _, fun other => absurd rfl other⟩
  | _ => exact .nothing queue _

/-- So does a call on the buffer. -/
theorem passes_atOnce
    {size : UInt64}
    {rb : Ringbuffer}
    {queue : List UInt8}
    (standsFor : Ringbuffer.StandsFor size rb queue)
    (thread : ι)
    (request : Request) :
    ∃ after,
      Ringbuffer.StandsFor size (atOnce request rb).2 after ∧
        Passes (given ⟨thread, request, (atOnce request rb).1⟩)
          (taken ⟨thread, request, (atOnce request rb).1⟩) queue after
          (request ≠ .operation .flush) := by
  cases request with
  | size => exact ⟨queue, standsFor, .nothing queue _⟩
  | operation operation =>
      by_cases used : operation = .used
      · subst operation
        exact ⟨queue, standsFor, .nothing queue _⟩
      · obtain ⟨answer, after⟩ :=
          (Ringbuffer.follows size).agree_of_ne used rb queue standsFor
        have passes := passes_step thread size.toNat operation queue
        rw [← answer] at passes
        refine ⟨_, after, passes.kept, fun other => passes.all ?_⟩
        rintro rfl
        exact other rfl

/-- Calls that are made one after the other move their bytes. -/
theorem passes_performs
    {size : UInt64}
    {rb final : Ringbuffer}
    {queue : List UInt8}
    {entries : List (Completed ι Request Reply)}
    (standsFor : Ringbuffer.StandsFor size rb queue)
    (performs : Performs atOnce rb entries final) :
    ∃ after,
      Ringbuffer.StandsFor size final after ∧
        Passes (entries.flatMap given) (entries.flatMap taken) queue after
          (∀ entry ∈ entries, entry.operation ≠ .operation .flush) := by
  induction entries generalizing rb queue with
  | nil =>
      cases performs
      exact ⟨queue, standsFor, .nothing queue _⟩
  | cons entry later inductionHypothesis =>
      obtain ⟨thread, request, answer⟩ := entry
      have made : (atOnce request rb).1 = answer :=
        performs.1
      have further : Performs atOnce (atOnce request rb).2 later final :=
        performs.2
      subst answer
      obtain ⟨middle, between, passes⟩ :=
        passes_atOnce standsFor thread request
      obtain ⟨after, stands, passesLater⟩ :=
        inductionHypothesis between further
      have both := passes.trans passesLater
      refine ⟨after, stands, both.kept, fun noFlush => both.all ⟨?_, ?_⟩⟩
      · exact noFlush _ List.mem_cons_self
      · intro other member
        exact noFlush other (List.mem_cons_of_mem _ member)

section Runs

variable [DecidableEq ι]
variable {allocation : Allocation} {size : UInt64} {rb : Ringbuffer}

/-- The calls of some order of effects that the run has. -/
theorem passes_run
    (created : Ringbuffer.new allocation size = some rb)
    {actions : List (Action ι Request)}
    {moments : List (Moment ι Request Reply)}
    {final : Ringbuffer}
    (explains :
      Explains method atOnce Eq rb (interleaved rb actions) moments
        final) :
    ∃ queue,
      Represents final queue ∧
        Passes ((effects moments).flatMap given)
          ((effects moments).flatMap taken) [] queue
          (∀ thread, .call thread (.operation .flush) ∉ actions) := by
  obtain ⟨queue, ⟨_, represents⟩, passes⟩ :=
    passes_performs (standsFor_new created) explains.performs
  refine ⟨queue, represents, passes.kept, fun noFlush => passes.all ?_⟩
  intro entry member flushes
  have called := explains.call_of_effect member
  rw [flushes] at called
  exact noFlush entry.thread called

/--
Whenever all threads are out of their calls, the bytes that were accepted are
the bytes that were taken out together with those in the buffer, and without a
flush they are no others: no byte is lost, made up or given out twice.
-/
theorem conserved
    (created : Ringbuffer.new allocation size = some rb)
    (actions : List (Action ι Request))
    (idle :
      ∀ thread, (interleaved rb actions).threads thread = .outside) :
    ∃ queue,
      Represents (interleaved rb actions).shared queue ∧
        (bytesTaken (interleaved rb actions) ++ queue).Subperm
          (bytesGiven (interleaved rb actions)) ∧
        ((∀ thread, .call thread (.operation .flush) ∉ actions) →
          (bytesGiven (interleaved rb actions)).Perm
            (bytesTaken (interleaved rb actions) ++ queue)) := by
  obtain ⟨moments, final, explains⟩ :=
    explained_run implements_atOnce rfl actions
  have settled := explains.related_of_idle idle
  subst final
  obtain ⟨queue, represents, kept, all⟩ := passes_run created explains
  have same := explains.perm_of_idle idle
  have givenSame := same.flatMap_right given
  have takenSame := (same.flatMap_right taken).append_right queue
  refine ⟨queue, represents, ?_, fun noFlush => ?_⟩
  · exact
      takenSame.symm.subperm.trans
        (kept.subperm.trans givenSame.subperm)
  · exact
      givenSame.symm.trans (List.Perm.trans (.of_eq (all noFlush)) takenSame)

/--
When one thread puts all bytes and one thread takes all bytes, they come out in
the order in which they were put in; without a flush they all do.
-/
theorem ordered
    (created : Ringbuffer.new allocation size = some rb)
    (actions : List (Action ι Request))
    (idle :
      ∀ thread, (interleaved rb actions).threads thread = .outside)
    (producer consumer : ι)
    (pushes :
      ∀ thread val, .call thread (.operation (.push val)) ∈ actions →
        thread = producer)
    (pops :
      ∀ thread, .call thread (.operation .pop) ∈ actions →
        thread = consumer) :
    ∃ queue,
      Represents (interleaved rb actions).shared queue ∧
        (bytesTaken (interleaved rb actions) ++ queue).Sublist
          (bytesGiven (interleaved rb actions)) ∧
        ((∀ thread, .call thread (.operation .flush) ∉ actions) →
          bytesGiven (interleaved rb actions) =
            bytesTaken (interleaved rb actions) ++ queue) := by
  obtain ⟨moments, final, explains⟩ :=
    explained_run implements_atOnce rfl actions
  have settled := explains.related_of_idle idle
  subst final
  obtain ⟨queue, represents, kept, all⟩ := passes_run created explains
  have same := explains.perm_of_idle idle
  have givers :
      ∀ entry ∈ effects moments, given entry ≠ [] →
        entry.thread = producer := by
    intro entry member gives
    have called := explains.call_of_effect member
    obtain ⟨val, pushed⟩ := push_of_given gives
    rw [pushed] at called
    exact pushes entry.thread val called
  have takers :
      ∀ entry ∈ effects moments, taken entry ≠ [] →
        entry.thread = consumer := by
    intro entry member takes
    have called := explains.call_of_effect member
    rw [pop_of_taken takes] at called
    exact pops entry.thread called
  have givenSame :
      (effects moments).flatMap given =
        bytesGiven (interleaved rb actions) := by
    rw [← flatMap_ofThread givers, explains.ofThread_of_idle (idle _)]
    exact
      flatMap_ofThread fun entry member =>
        givers entry (same.mem_iff.mpr member)
  have takenSame :
      (effects moments).flatMap taken =
        bytesTaken (interleaved rb actions) := by
    rw [← flatMap_ofThread takers, explains.ofThread_of_idle (idle _)]
    exact
      flatMap_ofThread fun entry member =>
        takers entry (same.mem_iff.mpr member)
  rw [givenSame, takenSame] at kept all
  exact ⟨queue, represents, kept, all⟩

end Runs

/-- The two threads are out of their calls in the end. -/
theorem raced_idle
    (thread : Bool) :
    (interleaved threeBytes raced).threads thread = .outside := by
  cases thread with
  | false => rfl
  | true => rfl

theorem raced_conserved :
    ∃ queue,
      Represents (interleaved threeBytes raced).shared queue ∧
        (bytesTaken (interleaved threeBytes raced) ++ queue).Subperm
          (bytesGiven (interleaved threeBytes raced)) ∧
        ((∀ thread, .call thread (.operation .flush) ∉ raced) →
          (bytesGiven (interleaved threeBytes raced)).Perm
            (bytesTaken (interleaved threeBytes raced) ++ queue)) :=
  conserved threeBytes_new raced raced_idle

theorem raced_ordered :
    ∃ queue,
      Represents (interleaved threeBytes raced).shared queue ∧
        (bytesTaken (interleaved threeBytes raced) ++ queue).Sublist
          (bytesGiven (interleaved threeBytes raced)) ∧
        ((∀ thread, .call thread (.operation .flush) ∉ raced) →
          bytesGiven (interleaved threeBytes raced) =
            bytesTaken (interleaved threeBytes raced) ++ queue) :=
  ordered threeBytes_new raced raced_idle true false
    (by simp [raced]) (by simp [raced])

end Ammc.Client.LockedRingbuffer
