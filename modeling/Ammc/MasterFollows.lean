import Ammc.Interleaving

namespace Ammc.Exchange

open ByteMemory Serial Packet

/-!
# The master, ahead of its time

What the master will do with the bytes under way to it does not depend on when
they reach it.  A drained station shows where the master will have come to, and
what it will have sent by then.
-/

/-- The given number of bytes behind those delivered may be delivered at once. -/
theorem widened_widened
    (process : Process S α ε)
    (first second : List (List UInt8))
    (near far : List UInt8) :
    (process.widened first near).widened second far =
      process.widened (second ++ first) (near ++ far) := by
  simp only [Process.widened, Port.widened, List.append_assoc]

section Following

variable {ε : Type}

/-- The station's port with other buffers sent. -/
def Station.sending
    (station : Station ε)
    (sent : List (List UInt8)) : Port Master.signature ε :=
  { station.port with
    sent := sent }

/--
Once it has worked on the bytes under way to it, the master is the idle station
and has sent the pending bytes.
-/
structure ComesTo
    (bus : Master.Bus ε)
    (master : Master.Machine ε)
    (up : List UInt8)
    (station : Station ε)
    (pending : List UInt8) : Prop where
  idle : station.Idle
  steps :
    ∃ sent,
      Relation.ReflTransGen (Master.Busy bus) (master.widened [] up)
        ⟨Master.communicationHandlerTurn station.handler,
          station.sending sent⟩ ∧
      sent.flatten = master.port.sent.flatten ++ pending

variable {bus : Master.Bus ε}
variable {master : Master.Machine ε}
variable {up pending : List UInt8}
variable {station : Station ε}

/-- A byte that reaches the master was under way to it. -/
theorem ComesTo.reached
    {byte : UInt8}
    (comesTo : ComesTo bus master (byte :: up) station pending) :
    ComesTo bus (reached master byte) up station pending where
  idle := comesTo.idle
  steps := by
    have same :
        (Exchange.reached master byte).widened [] up =
          master.widened [] (byte :: up) := by
      simp only [Exchange.reached, Process.widened, Port.widened,
        List.append_assoc, List.singleton_append]
    rw [same]
    exact comesTo.steps

/-- Nothing sets out to the master. -/
theorem ComesTo.unsent
    (comesTo : ComesTo bus master up station pending) :
    ComesTo bus master (up ++ []) station pending := by
  rw [List.append_nil]
  exact comesTo

/-- The notes and positions of the master are those of the station, in part. -/
theorem ComesTo.extends
    (comesTo : ComesTo bus master up station pending) :
    master.port.Extends station.port := by
  obtain ⟨sent, steps, _⟩ := comesTo.steps
  have extended := Process.steps_extends steps
  exact ⟨extended.read, extended.written, extended.log⟩

/-- A master that sends nothing more has nothing pending. -/
theorem ComesTo.silent
    {connection : Connection ε}
    (comesTo :
      ComesTo bus connection.master connection.up station pending)
    (answered : connection.Answered bus) :
    pending = [] := by
  obtain ⟨sent, steps, flattened⟩ := comesTo.steps
  have nothing :
      connection.master.widened [] connection.up = connection.master := by
    simp only [answered.up, Process.widened, Port.widened,
      List.append_nil, List.nil_append]
  rw [nothing] at steps
  have kept :=
    answered.silent _
      (Relation.ReflTransGen.mono (fun _ _ busy => busy.step) _ _ steps)
  rw [← kept] at flattened
  exact List.append_cancel_left
    (flattened.symm.trans (List.append_nil _).symm)

/-- Serving a packet, step by step. -/
theorem steps_of_serve
    {bytes back : List UInt8}
    {later : Station ε}
    (served : station.serve bus .clear bytes = some (back, later)) :
    Relation.ReflTransGen (Master.Busy bus)
        ⟨Master.communicationHandlerTurn station.handler,
          station.delivered bytes⟩
        ⟨Master.communicationHandlerTurn later.handler, later.port⟩ ∧
      later.Idle ∧ back = later.port.sent.flatten ∧
      later.arrived = station.arrived + 1 := by
  simp only [Station.serve] at served
  split at served
  · rename_i performed handler port ended
    cases served
    obtain ⟨steps, waiting, drained⟩ := Master.steps_of_handler ended
    exact ⟨steps, ⟨waiting, drained⟩, Line.deliver_clear _ _, rfl⟩
  · cases served

/-- A packet that sets out to the master will be served in its turn. -/
theorem ComesTo.serve
    (comesTo : ComesTo bus master up station pending)
    {bytes back : List UInt8}
    {later : Station ε}
    (served : station.serve bus .clear bytes = some (back, later)) :
    ComesTo bus master (up ++ bytes) later (pending ++ back) := by
  obtain ⟨sent, steps, flattened⟩ := comesTo.steps
  obtain ⟨serving, idle, answer, _⟩ := steps_of_serve served
  have first :=
    Process.steps_widened bus.oneWay steps [] bytes
  have second :=
    Process.steps_widened bus.oneWay serving sent []
  rw [widened_widened] at first
  have meets :
      Process.widened
          ⟨Master.communicationHandlerTurn station.handler,
            station.sending sent⟩ [] bytes =
        Process.widened
          ⟨Master.communicationHandlerTurn station.handler,
            station.delivered bytes⟩ sent [] := by
    simp only [Process.widened, Port.widened, Station.sending,
      Station.delivered, List.append_nil, List.nil_append]
  rw [meets] at first
  refine ⟨idle, sent ++ later.port.sent, ?_, ?_⟩
  · have arrives :
        Process.widened
            ⟨Master.communicationHandlerTurn later.handler, later.port⟩
            sent [] =
          ⟨Master.communicationHandlerTurn later.handler,
            later.sending (sent ++ later.port.sent)⟩ := by
      simp only [Process.widened, Port.widened, Station.sending,
        List.append_nil]
    rw [arrives] at second
    exact first.trans second
  · rw [List.flatten_append, flattened, answer, List.append_assoc]

/-- An idle master has nothing to do. -/
theorem idle_of_busy
    (idle : station.Idle)
    {sent : List (List UInt8)}
    {after : Master.Machine ε}
    (busy :
      Master.Busy bus
        ⟨Master.communicationHandlerTurn station.handler,
          station.sending sent⟩ after) :
    False := by
  obtain ⟨next, asks, _⟩ := Master.turn_receiving idle.waiting
  have attentive := busy.attentive
  rw [asks] at attentive
  exact attentive idle.drained

/-- What the master is at: a whole turn, or what is left of one. -/
def AtWork (program : Master.MasterProg Master.Turn) : Prop :=
  (∃ handler, program = Master.communicationHandlerTurn handler) ∨
    ∃ post, program.Guarded Master.anyAnswer post

/-- Asking in vain leads to the same turn again. -/
theorem returned_of_idling
    (atWork : AtWork master.program)
    (idling : master.Idling)
    {after : Master.Machine ε}
    (stepped : master.step bus.world Master.Turn.resume = some after) :
    ∃ handler,
      master.program = Master.communicationHandlerTurn handler ∧
        after = ⟨.done (.returned handler), master.port⟩ := by
  obtain ⟨program, port⟩ := master
  rcases atWork with ⟨handler, rfl⟩ | ⟨post, guarded⟩
  · by_cases waiting : handler.state = .receiving
    · obtain ⟨next, asks, missing, _⟩ := Master.turn_receiving waiting
      refine ⟨handler, rfl, ?_⟩
      rw [asks] at idling stepped
      have empty : port.input = [] := idling
      cases stepped
      rw [empty]
      exact congrArg (Process.mk · port) missing
    · exact absurd idling
        (Process.not_idling_of_guarded (Master.turn_working waiting))
  · exact absurd idling (Process.not_idling_of_guarded guarded)

/-- A step of the master brings it nearer to the station. -/
theorem ComesTo.step
    (comesTo : ComesTo bus master up station pending)
    (atWork : AtWork master.program)
    {after : Master.Machine ε}
    (stepped : master.step bus.world Master.Turn.resume = some after) :
    ∃ left,
      pending = master.program.output ++ left ∧
        ComesTo bus after up station left := by
  obtain ⟨sent, steps, flattened⟩ := comesTo.steps
  have sentNow := Process.step_sent stepped
  by_cases idling : master.Idling
  · obtain ⟨handler, atTurn, rfl⟩ :=
      returned_of_idling atWork idling stepped
    have again :
        Master.Busy bus
          (Process.widened ⟨.done (.returned handler), master.port⟩ [] up)
          (master.widened [] up) := by
      rw [Process.widened, Process.widened, atTurn]
      exact Process.busy_resume _ _
    refine ⟨pending, ?_, comesTo.idle, sent, .head again steps, flattened⟩
    rw [Process.output_of_idling idling]
    rfl
  · have busy : Master.Busy bus master after := ⟨stepped, idling⟩
    have widened := busy.widened bus.oneWay [] up
    have onward :
        Relation.ReflTransGen (Master.Busy bus) (after.widened [] up)
          ⟨Master.communicationHandlerTurn station.handler,
            station.sending sent⟩ := by
      rcases steps.cases_head with arrived | ⟨other, first, rest⟩
      · rw [arrived] at widened
        exact (idle_of_busy comesTo.idle widened).elim
      · rw [widened.unique first]
        exact rest
    obtain ⟨left, leftSent⟩ := Process.steps_sent onward
    have same :
        (after.widened [] up).port.sent.flatten =
          after.port.sent.flatten :=
      rfl
    rw [same] at leftSent
    refine ⟨left, ?_, comesTo.idle, sent, onward, leftSent⟩
    have both := flattened.symm.trans leftSent
    rw [sentNow, List.append_assoc] at both
    exact List.append_cancel_left both

/-- The master is at a turn, or at what is left of one, at any time. -/
theorem AtWork.step
    (atWork : AtWork master.program)
    {after : Master.Machine ε}
    (stepped : master.step bus.world Master.Turn.resume = some after) :
    AtWork after.program := by
  rcases Process.step_cases stepped with ⟨turn, _, rfl⟩ | calls
  · cases turn with
    | again handler => exact Or.inl ⟨handler, rfl⟩
    | returned handler => exact Or.inl ⟨handler, rfl⟩
  · rcases atWork with ⟨handler, atTurn⟩ | ⟨post, guarded⟩
    · by_cases waiting : handler.state = .receiving
      · obtain ⟨next, asks, missing, guarded⟩ :=
          Master.turn_receiving waiting
        rw [asks] at atTurn
        obtain ⟨program, port⟩ := master
        cases atTurn
        cases calls with
        | poll =>
            right
            rcases asked : bus.world.expecting || !port.input.isEmpty
            · exact ⟨fun _ => True, by rw [missing]; trivial⟩
            · exact ⟨_, guarded⟩
      · have guarded := Master.turn_working waiting
        rw [← atTurn] at guarded
        exact Or.inr ⟨_, guarded.calls bus.heeds calls⟩
    · exact Or.inr ⟨post, guarded.calls bus.heeds calls⟩

/-- A master that asks in vain sends nothing. -/
theorem silent_of_idling
    (atWork : AtWork master.program)
    (idling : master.Idling)
    {later : Master.Machine ε}
    (steps :
      Relation.ReflTransGen
        (fun before after : Master.Machine ε =>
          before.step bus.world Master.Turn.resume = some after)
        master later) :
    later.port.sent = master.port.sent := by
  have between :
      later = master ∨
        ∃ handler,
          master.program = Master.communicationHandlerTurn handler ∧
            later = ⟨.done (.returned handler), master.port⟩ := by
    induction steps with
    | refl => exact Or.inl rfl
    | tail _ stepped inductionHypothesis =>
        rcases inductionHypothesis with rfl | ⟨handler, atTurn, rfl⟩
        · exact Or.inr (returned_of_idling atWork idling stepped)
        · cases stepped
          left
          rw [Master.Turn.resume, ← atTurn]
  rcases between with rfl | ⟨handler, _, rfl⟩
  · rfl
  · rfl

end Following

end Ammc.Exchange
