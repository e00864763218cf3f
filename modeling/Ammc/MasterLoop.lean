import Ammc.MasterServe
import Ammc.SerialLoop

namespace Ammc.Master

open ByteMemory Serial Packet

/-!
# The master's loop

The firmware calls `communication_handler` again and again, so the master is a
process whose tasks are the turns of the handler's loop.  A turn that is waiting
for a packet asks whether there is anything to read; nothing else in it does.
-/

/-- The next turn, after a turn or after a return of the handler. -/
def Turn.resume : Turn → MasterProg Turn
  | .again handler => communicationHandlerTurn handler
  | .returned handler => communicationHandlerTurn handler

/-- The master's program makes no assumption on the answers it gets. -/
def anyAnswer : Guard signature where
  Answers _ _ := True
  Begins _ := False

theorem Bus.heeds
    {ε : Type}
    (bus : Bus ε) :
    bus.world.Heeds anyAnswer :=
  fun _ _ => trivial

theorem Bus.oneWay
    {ε : Type}
    (bus : Bus ε) :
    Process.OneWay bus.world where
  silent _ _ _ _ reaction := by
    cases reaction
    rfl
  unexpecting := rfl
  kept := rfl

section Guarding

/-- Any result of a master's program. -/
abbrev Free (program : MasterProg α) : Prop :=
  program.Guarded anyAnswer fun _ => True

theorem free_ask (query : Query) : Free (ask query) :=
  fun _ _ => trivial

theorem free_serialTx
    (buf : Memory)
    (size : UInt8) :
    Free (serialTx buf size) := by
  rw [serialTx]
  split
  · trivial
  · trivial

theorem free_communicationSend
    (globalId type selector bodySize : UInt8)
    (body : Option Memory) :
    Free (communicationSend globalId type selector bodySize body) :=
  (free_ask _).bind fun _ _ =>
    (free_serialTx _ _).bind fun _ _ => trivial

theorem free_serialRx
    (rx : Memory)
    (offset : Nat)
    (size : UInt8) :
    Free (serialRx rx offset size) :=
  fun _ => trivial

theorem free_communicationRecv
    (globalId : UInt8)
    (rx : Memory) :
    Free (communicationRecv globalId rx) := by
  refine (free_serialRx _ _ _).bind fun header _ => ?_
  dsimp only
  split
  · trivial
  · exact (free_serialRx _ _ _).bind fun _ _ => trivial

theorem free_masterSendCommand
    (slaveId id : UInt8)
    (arg : Option Memory)
    (argSize : UInt8) :
    Free (masterSendCommand slaveId id arg argSize) :=
  (free_ask _).bind fun _ _ => free_ask _

theorem free_masterRecvResponse
    (slaveId : UInt8)
    (buf : Memory)
    (size : UInt8) :
    Free (masterRecvResponse slaveId buf size) :=
  (free_ask _).bind fun _ _ => trivial

theorem free_dcmotorGet (slaveAddr : UInt8) : Free (dcmotorGet slaveAddr) :=
  (free_ask _).bind fun _ _ =>
    (free_masterSendCommand _ _ _ _).bind fun _ _ =>
      (free_masterRecvResponse _ _ _).bind fun _ _ => trivial

theorem free_opEcho
    (globalId : UInt8)
    (p : Memory) :
    Free (opEcho globalId p) :=
  (free_communicationSend _ _ _ _ _).bind fun _ _ => trivial

theorem free_opPing
    (globalId : UInt8)
    (p : Memory) :
    Free (opPing globalId p) := by
  rw [opPing]
  dsimp only
  split
  · exact (free_communicationSend _ _ _ _ _).bind fun _ _ => trivial
  · refine (free_masterSendCommand _ _ _ _).bind fun _ _ =>
      (free_ask _).bind fun _ _ =>
        (free_masterRecvResponse _ _ _).bind fun _ _ => ?_
    exact (free_communicationSend _ _ _ _ _).bind fun _ _ => trivial

theorem free_opGetSpeed
    (globalId : UInt8)
    (p : Memory) :
    Free (opGetSpeed globalId p) :=
  (free_dcmotorGet _).bind fun _ _ =>
    (free_communicationSend _ _ _ _ _).bind fun _ _ => trivial

/-- The operations of the table. -/
theorem free_operation
    {type : Nat}
    {action : Operation}
    (registered : (comOperationTable[type]?).join = some action)
    (globalId : UInt8)
    (p : Memory) :
    Free (action globalId p) := by
  have member : some action ∈ comOperationTable :=
    List.mem_of_getElem? (Option.join_eq_some_iff.mp registered)
  simp only [comOperationTable, List.mem_cons, reduceCtorEq,
    Option.some.injEq, List.not_mem_nil, or_false, false_or] at member
  rcases member with rfl | rfl | rfl | rfl | rfl | rfl
  · exact free_opEcho globalId p
  · exact free_opPing globalId p
  · exact free_opGetSpeed globalId p
  · exact (free_masterSendCommand _ _ _ _).bind fun _ _ => trivial
  · exact (free_masterSendCommand _ _ _ _).bind fun _ _ => trivial
  · exact (free_masterSendCommand _ _ _ _).bind fun _ _ => trivial

/-- The turn goes on to another turn. -/
def GoesOn (turn : Turn) : Prop :=
  ∃ handler, turn = .again handler

/-- A turn that waits for a packet first asks whether there is one. -/
theorem turn_receiving
    {handler : Handler}
    (waiting : handler.state = .receiving) :
    ∃ next,
      communicationHandlerTurn handler = .poll next ∧
        next false = .done (.returned handler) ∧
        (next true).Guarded anyAnswer GoesOn := by
  obtain ⟨globalId, _, rx⟩ := handler
  cases waiting
  refine ⟨_, rfl, rfl, ?_⟩
  change (communicationRecv globalId rx >>= _).Guarded anyAnswer GoesOn
  refine (free_communicationRecv globalId rx).bind fun received _ => ?_
  obtain ⟨error, after⟩ := received
  dsimp only
  change (ite _ _ _ : MasterProg Turn).Guarded anyAnswer GoesOn
  split
  · exact ⟨_, rfl⟩
  · split
    · exact ⟨_, rfl⟩
    · exact ⟨_, rfl⟩

/-- Any other turn never asks whether there is anything to read. -/
theorem turn_working
    {handler : Handler}
    (working : handler.state ≠ .receiving) :
    (communicationHandlerTurn handler).Guarded anyAnswer GoesOn := by
  obtain ⟨globalId, state, rx⟩ := handler
  cases state with
  | receiving => exact absurd rfl working
  | hnd => exact ⟨_, rfl⟩
  | ack =>
      exact (free_communicationSend _ _ _ _ _).bind fun _ _ => ⟨_, rfl⟩
  | nak error =>
      exact (free_communicationSend _ _ _ _ _).bind fun _ _ => ⟨_, rfl⟩
  | execute =>
      simp only [communicationHandlerTurn]
      split
      · exact (free_operation ‹_› _ _).bind fun _ _ => ⟨_, rfl⟩
      · exact ⟨_, rfl⟩

end Guarding

section Turns

variable {ε : Type}
variable (bus : Bus ε)

/-- The master between two of its steps. -/
abbrev Machine (ε : Type) := Process signature Turn ε

/-- A step of a master that has something to do. -/
abbrev Busy (bus : Bus ε) : Machine ε → Machine ε → Prop :=
  Process.Busy bus.world Turn.resume

variable {bus}

/-- A turn that goes on is a number of busy steps. -/
theorem steps_of_turn
    {handler next : Handler}
    {port after : Port signature ε}
    (ended :
      exec bus.world (communicationHandlerTurn handler) port =
        (some (.again next), after)) :
    Relation.ReflTransGen (Busy bus)
      ⟨communicationHandlerTurn handler, port⟩
      ⟨communicationHandlerTurn next, after⟩ := by
  by_cases waiting : handler.state = .receiving
  · obtain ⟨rest, asks, missing, guarded⟩ := turn_receiving waiting
    rw [asks] at ended ⊢
    rw [exec] at ended
    by_cases empty : port.input = []
    · rw [List.isEmpty_iff.mpr empty] at ended
      change exec bus.world (rest false) port = _ at ended
      rw [missing] at ended
      cases ended
    · have delivered := List.isEmpty_eq_false_iff.mpr empty
      rw [delivered] at ended
      have asked :
          Busy bus ⟨.poll rest, port⟩ ⟨rest true, port⟩ := by
        refine ⟨?_, empty⟩
        have calls :
            Process.Calls bus.world ⟨.poll rest, port⟩
              ⟨rest (bus.world.expecting || !port.input.isEmpty),
                port⟩ :=
          .poll
        rw [delivered] at calls
        exact calls.step
      exact .head asked
        ((Process.steps_of_exec guarded bus.heeds ended).tail
          (Process.busy_resume _ _))
  · exact
      (Process.steps_of_exec (turn_working waiting) bus.heeds ended).tail
        (Process.busy_resume _ _)

/-- The handler returns from a turn that finds nothing to read. -/
theorem returned_of_turn
    {handler next : Handler}
    {port after : Port signature ε}
    (ended :
      exec bus.world (communicationHandlerTurn handler) port =
        (some (.returned next), after)) :
    handler.state = .receiving ∧ port.input = [] ∧ next = handler ∧
      after = port := by
  by_cases waiting : handler.state = .receiving
  · obtain ⟨rest, asks, missing, guarded⟩ := turn_receiving waiting
    rw [asks, exec] at ended
    by_cases empty : port.input = []
    · rw [List.isEmpty_iff.mpr empty] at ended
      change exec bus.world (rest false) port = _ at ended
      rw [missing] at ended
      cases ended
      exact ⟨waiting, empty, rfl, rfl⟩
    · rw [List.isEmpty_eq_false_iff.mpr empty] at ended
      obtain ⟨handler, goesOn⟩ := guarded.result bus.heeds ended
      cases goesOn
  · obtain ⟨handler, goesOn⟩ :=
      (turn_working waiting).result bus.heeds ended
    cases goesOn

/-- The handler's way to its return is a number of busy steps. -/
theorem steps_of_handler
    {turns : Nat}
    {performed result : Bool}
    {handler last : Handler}
    {port after : Port signature ε}
    (ended :
      exec bus.world (communicationHandler turns performed handler) port =
        (some (some (result, last)), after)) :
    Relation.ReflTransGen (Busy bus)
        ⟨communicationHandlerTurn handler, port⟩
        ⟨communicationHandlerTurn last, after⟩ ∧
      last.state = .receiving ∧ after.input = [] := by
  induction turns generalizing performed handler port with
  | zero => cases ended
  | succ turns inductionHypothesis =>
      rw [communicationHandler, exec_bind] at ended
      rcases turn :
          exec bus.world (communicationHandlerTurn handler) port with
        ⟨_ | ⟨next⟩ | ⟨next⟩, middle⟩
      · rw [turn] at ended
        cases ended
      · rw [turn] at ended
        obtain ⟨steps, waiting, drained⟩ := inductionHypothesis ended
        exact ⟨(steps_of_turn turn).trans steps, waiting, drained⟩
      · rw [turn] at ended
        cases ended
        obtain ⟨waiting, drained, rfl, rfl⟩ := returned_of_turn turn
        exact ⟨.refl, waiting, drained⟩

end Turns

end Ammc.Master
