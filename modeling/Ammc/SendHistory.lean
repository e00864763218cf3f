import Ammc.ClientSerial
import Ammc.MasterSerial

namespace Ammc.Exchange

open Serial Packet

/-!
# Histories of sends and receipts

The notes of the client tell where in the two streams each send began and with
which code it returned.  The notes of the master tell where each packet began
and how it was judged.  Both programs count the same two streams, so a send and
the receipt of its packet are recognised by their positions.
-/

/-- The notes of the client. -/
abbrev ClientLog := List (Entry Client.signature)

/-- The notes of the master. -/
abbrev MasterLog := List (Entry Master.signature)

/--
A send that has returned: the positions of the client in both streams when it
began to transmit, the return code, and the position up to which the client had
read when it returned.
-/
structure Send where
  read : Nat
  written : Nat
  code : Int
  stop : Nat
  deriving Repr, DecidableEq

/-- The send in progress, if any, and the sends that have returned. -/
structure Sends where
  current : Option (Nat × Nat)
  completed : List Send

namespace Sends

/-- No send has begun. -/
def none : Sends where
  current := Option.none
  completed := []

/-- What a note of the client says about its sends. -/
def observe
    (sends : Sends)
    (entry : Entry Client.signature) : Sends :=
  match entry.event with
  | .transmitting =>
      { sends with current := some (entry.read, entry.written) }
  | .returned code =>
      match sends.current with
      | some (read, written) =>
          { current := Option.none
            completed :=
              sends.completed ++ [⟨read, written, code, entry.read⟩] }
      | Option.none => sends
  | _ => sends

end Sends

/-- The sends that have returned, according to the client's notes. -/
def completedSends (log : ClientLog) : List Send :=
  (log.foldl Sends.observe Sends.none).completed

/-- A note that neither begins nor ends a send. -/
def Passing (event : Client.Note) : Prop :=
  match event with
  | .transmitting => False
  | .returned _ => False
  | _ => True

theorem Sends.observe_passing
    (sends : Sends)
    {entry : Entry Client.signature}
    (passing : Passing entry.event) :
    sends.observe entry = sends := by
  obtain ⟨event, read, written⟩ := entry
  cases event with
  | transmitting =>
      exact passing.elim
  | returned code =>
      exact passing.elim
  | attempted error => rfl
  | checked count => rfl
  | puts text => rfl
  | speed motorId rpm => rfl
  | available slaveId => rfl
  | unreachable slaveId => rfl
  | unexpected errCode => rfl
  | failed code message => rfl
  | warned message => rfl

/-- Passing notes complete no send. -/
theorem foldl_observe_passing
    (sends : Sends)
    (added : ClientLog)
    (passing : ∀ entry ∈ added, Passing entry.event) :
    added.foldl Sends.observe sends = sends := by
  induction added generalizing sends with
  | nil =>
      rfl
  | cons entry added inductionHypothesis =>
      rw [List.foldl_cons,
        sends.observe_passing (passing entry (by simp))]
      exact inductionHypothesis sends fun later member =>
        passing later (by simp [member])

theorem completedSends_passing
    (log added : ClientLog)
    (passing : ∀ entry ∈ added, Passing entry.event) :
    completedSends (log ++ added) = completedSends log := by
  rw [completedSends, List.foldl_append,
    foldl_observe_passing _ added passing]
  rfl

/-- The notes of one send complete that send. -/
theorem completedSends_send
    (log middle : ClientLog)
    (passing : ∀ entry ∈ middle, Passing entry.event)
    (read written stopRead stopWritten : Nat)
    (code : Int) :
    completedSends
        (log ++ ⟨.transmitting, read, written⟩ ::
          (middle ++ [⟨.returned code, stopRead, stopWritten⟩])) =
      completedSends log ++ [⟨read, written, code, stopRead⟩] := by
  rw [completedSends, List.foldl_append, List.foldl_cons,
    List.foldl_append, foldl_observe_passing _ middle passing]
  rfl

/-- Completed sends stay completed. -/
theorem completedSends_append
    (log added : ClientLog) :
    completedSends log <+: completedSends (log ++ added) := by
  rw [completedSends, completedSends, List.foldl_append]
  generalize log.foldl Sends.observe Sends.none = sends
  induction added generalizing sends with
  | nil =>
      exact List.prefix_rfl
  | cons entry added inductionHypothesis =>
      refine List.IsPrefix.trans ?_ (inductionHypothesis _)
      obtain ⟨event, read, written⟩ := entry
      cases event with
      | returned code =>
          rcases current : sends.current with _ | start
          · simp [Sends.observe, current]
          · simp [Sends.observe, current]
      | transmitting => exact List.prefix_rfl
      | attempted error => exact List.prefix_rfl
      | checked count => exact List.prefix_rfl
      | puts text => exact List.prefix_rfl
      | speed motorId rpm => exact List.prefix_rfl
      | available slaveId => exact List.prefix_rfl
      | unreachable slaveId => exact List.prefix_rfl
      | unexpected errCode => exact List.prefix_rfl
      | failed code message => exact List.prefix_rfl
      | warned message => exact List.prefix_rfl

/-- A note completes at most one send, which stops at the note. -/
theorem Sends.mem_observe
    (sends : Sends)
    {entry : Entry Client.signature}
    {send : Send}
    (member : send ∈ (sends.observe entry).completed) :
    send ∈ sends.completed ∨ entry.read = send.stop := by
  obtain ⟨event, read, written⟩ := entry
  cases event with
  | returned code =>
      rcases current : sends.current with _ | ⟨start, begun⟩
      · simp only [observe, current] at member
        exact Or.inl member
      · simp only [observe, current, List.mem_append,
          List.mem_singleton] at member
        rcases member with earlier | rfl
        · exact Or.inl earlier
        · exact Or.inr rfl
  | transmitting => exact Or.inl member
  | attempted error => exact Or.inl member
  | checked count => exact Or.inl member
  | puts text => exact Or.inl member
  | speed motorId rpm => exact Or.inl member
  | available slaveId => exact Or.inl member
  | unreachable slaveId => exact Or.inl member
  | unexpected errCode => exact Or.inl member
  | failed code message => exact Or.inl member
  | warned message => exact Or.inl member

/-- A send stops at the note of its return. -/
theorem exists_stop_of_mem_completedSends
    {log : ClientLog}
    {send : Send}
    (completed : send ∈ completedSends log) :
    ∃ entry ∈ log, entry.read = send.stop := by
  have general :
      ∀ (added : ClientLog) (sends : Sends),
        send ∈ (added.foldl Sends.observe sends).completed →
          send ∈ sends.completed ∨
            ∃ entry ∈ added, entry.read = send.stop := by
    intro added
    induction added with
    | nil =>
        intro sends member
        exact Or.inl member
    | cons entry added inductionHypothesis =>
        intro sends member
        rcases inductionHypothesis _ member with earlier | later
        · rcases sends.mem_observe earlier with before | now
          · exact Or.inl before
          · exact Or.inr ⟨entry, List.mem_cons_self, now⟩
        · obtain ⟨other, inAdded, stop⟩ := later
          exact Or.inr ⟨other, List.mem_cons_of_mem _ inAdded, stop⟩
  rcases general log Sends.none completed with impossible | found
  · cases impossible
  · exact found

/--
The master has accepted the packet that begins at `start`, and its answer
begins at `answer`.
-/
def Accepted
    (log : MasterLog)
    (start answer : Nat) : Prop :=
  ∃ before stop later,
    log =
      before ++ ⟨.receiving, start, answer⟩ ::
        ⟨.received .success, stop, answer⟩ :: later

/-- What has been accepted stays accepted. -/
theorem Accepted.append
    {log : MasterLog}
    {start answer : Nat}
    (accepted : Accepted log start answer)
    (added : MasterLog) :
    Accepted (log ++ added) start answer := by
  obtain ⟨before, stop, later, same⟩ := accepted
  refine ⟨before, stop, later ++ added, ?_⟩
  rw [same]
  simp

/-- What was accepted before later receipts was accepted without them. -/
theorem Accepted.before
    {log added : MasterLog}
    {start answer : Nat}
    (accepted : Accepted (log ++ added) start answer)
    (late : ∀ entry ∈ added, answer < entry.written) :
    Accepted log start answer := by
  obtain ⟨before, stop, later, same⟩ := accepted
  have notLate :
      ∀ entry : Entry Master.signature,
        entry.written = answer → entry ∉ added := by
    intro entry written member
    exact absurd (late entry member) (by omega)
  rcases List.append_eq_append_iff.mp same with
    ⟨tail, _, added⟩ | ⟨tail, log, receipts⟩
  · refine absurd ?_ (notLate ⟨.receiving, start, answer⟩ rfl)
    rw [added]
    simp
  · rcases tail with _ | ⟨first, _ | ⟨second, rest⟩⟩
    · refine absurd ?_ (notLate ⟨.receiving, start, answer⟩ rfl)
      rw [List.nil_append] at receipts
      rw [← receipts]
      simp
    · refine absurd ?_ (notLate ⟨.received .success, stop, answer⟩ rfl)
      cases receipts
      simp
    · cases receipts
      exact ⟨before, stop, rest, log⟩

end Ammc.Exchange
