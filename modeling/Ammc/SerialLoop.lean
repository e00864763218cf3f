import Ammc.SerialGuard

namespace Ammc.Serial

/-!
# Programs that run for ever

A process whose program has ended is given its next task.  As long as it does
not ask in vain whether there is anything to read, what it does depends neither
on the bytes behind those delivered so far nor on what it has sent before.
-/

/-- The port with more bytes delivered and more buffers sent before. -/
def Port.widened
    (port : Port S ε)
    (earlier : List (List UInt8))
    (more : List UInt8) : Port S ε :=
  { port with
    input := port.input ++ more
    sent := earlier ++ port.sent }

/-- Reading delivered bytes leaves those behind them. -/
theorem Port.received_widened
    (port : Port S ε)
    (earlier : List (List UInt8))
    (more : List UInt8)
    (offset : Nat)
    {count : Nat}
    (enough : count ≤ port.input.length) :
    (port.widened earlier more).received offset count =
      (port.received offset count).widened earlier more := by
  simp only [received, widened, List.drop_append_of_le_length enough]

theorem Port.transmitted_widened
    (port : Port S ε)
    (earlier : List (List UInt8))
    (more bytes : List UInt8)
    (env : ε) :
    (port.widened earlier more).transmitted bytes [] env =
      (port.transmitted bytes [] env).widened earlier more := by
  simp only [transmitted, widened, List.append_nil, List.append_assoc]

namespace Process

section Steps

variable {S : Signature} {α ε : Type}
variable (world : World S ε)
variable (resume : α → Prog S α)

/-- Make the next call, or begin the next task. -/
def step (process : Process S α ε) : Option (Process S α ε) :=
  match process.program with
  | .done value => some ⟨resume value, process.port⟩
  | _ => process.advance world

/-- The process asks in vain whether there is anything to read. -/
def Idling (process : Process S α ε) : Prop :=
  match process.program with
  | .poll _ => process.port.input = []
  | _ => False

instance (process : Process S α ε) : Decidable process.Idling :=
  match process with
  | ⟨.poll _, port⟩ => inferInstanceAs (Decidable (port.input = []))
  | ⟨.done _, _⟩ => .isFalse id
  | ⟨.rx _ _ _, _⟩ => .isFalse id
  | ⟨.tx _ _, _⟩ => .isFalse id
  | ⟨.flush _, _⟩ => .isFalse id
  | ⟨.ask _ _, _⟩ => .isFalse id
  | ⟨.note _ _, _⟩ => .isFalse id

/-- A step of a process that has something to do. -/
structure Busy (before after : Process S α ε) : Prop where
  step : before.step world resume = some after
  attentive : ¬ before.Idling

/-- The process with more bytes delivered and more buffers sent before. -/
def widened
    (process : Process S α ε)
    (earlier : List (List UInt8))
    (more : List UInt8) : Process S α ε :=
  ⟨process.program, process.port.widened earlier more⟩

variable {world resume}

/-- A step is the beginning of a task or a call. -/
theorem step_cases
    {before after : Process S α ε}
    (stepped : before.step world resume = some after) :
    (∃ value,
      before.program = .done value ∧
        after = ⟨resume value, before.port⟩) ∨
      Calls world before after := by
  obtain ⟨program, port⟩ := before
  cases program with
  | done value =>
      cases stepped
      exact Or.inl ⟨value, rfl, rfl⟩
  | rx offset count next => exact Or.inr (calls_of_advance stepped)
  | tx bytes next => exact Or.inr (calls_of_advance stepped)
  | poll next => exact Or.inr (calls_of_advance stepped)
  | flush next => exact Or.inr (calls_of_advance stepped)
  | ask query next => exact Or.inr (calls_of_advance stepped)
  | note event next => exact Or.inr (calls_of_advance stepped)

theorem Calls.step
    {before after : Process S α ε}
    (calls : Calls world before after) :
    before.step world resume = some after := by
  have advanced := calls.advance
  cases calls with
  | rx enough => exact advanced
  | tx reaction => exact advanced
  | poll => exact advanced
  | flush flushable => exact advanced
  | ask => exact advanced
  | note => exact advanced

theorem input_of_idling
    {process : Process S α ε}
    (idling : process.Idling) :
    process.port.input = [] := by
  obtain ⟨program, port⟩ := process
  cases program with
  | poll next => exact idling
  | done value => exact idling.elim
  | rx offset count next => exact idling.elim
  | tx bytes next => exact idling.elim
  | flush next => exact idling.elim
  | ask query next => exact idling.elim
  | note event next => exact idling.elim

theorem output_of_idling
    {process : Process S α ε}
    (idling : process.Idling) :
    process.program.output = [] := by
  obtain ⟨program, port⟩ := process
  cases program with
  | tx bytes next => exact idling.elim
  | done value => rfl
  | rx offset count next => rfl
  | poll next => rfl
  | flush next => rfl
  | ask query next => rfl
  | note event next => rfl

/-- A guarded program does not ask whether there is anything to read. -/
theorem not_idling_of_guarded
    {guard : Guard S}
    {post : α → Prop}
    {process : Process S α ε}
    (guarded : process.program.Guarded guard post) :
    ¬ process.Idling := by
  obtain ⟨program, port⟩ := process
  cases program with
  | poll next => exact guarded.elim
  | done value => exact fun idling => idling
  | rx offset count next => exact fun idling => idling
  | tx bytes next => exact fun idling => idling
  | flush next => exact fun idling => idling
  | ask query next => exact fun idling => idling
  | note event next => exact fun idling => idling

theorem busy_resume
    (value : α)
    (port : Port S ε) :
    Busy world resume ⟨.done value, port⟩ ⟨resume value, port⟩ :=
  ⟨rfl, fun idling => idling⟩

/-- A process has one way to go on. -/
theorem Busy.unique
    {before first second : Process S α ε}
    (busy : Busy world resume before first)
    (other : Busy world resume before second) :
    first = second :=
  Option.some.inj (busy.step.symm.trans other.step)

theorem step_extends
    {before after : Process S α ε}
    (stepped : before.step world resume = some after) :
    before.port.Extends after.port := by
  rcases step_cases stepped with ⟨value, _, rfl⟩ | calls
  · exact .refl _
  · exact calls.port_extends

theorem step_sent
    {before after : Process S α ε}
    (stepped : before.step world resume = some after) :
    after.port.sent.flatten =
      before.port.sent.flatten ++ before.program.output := by
  rcases step_cases stepped with ⟨value, ended, rfl⟩ | calls
  · rw [ended]
    exact (List.append_nil _).symm
  · exact calls.sent_eq

theorem step_written
    {before after : Process S α ε}
    (stepped : before.step world resume = some after) :
    after.port.written =
      before.port.written + before.program.output.length := by
  rcases step_cases stepped with ⟨value, ended, rfl⟩ | calls
  · rw [ended]
    rfl
  · exact calls.written_eq

/-- Several steps extend the port. -/
theorem steps_extends
    {before after : Process S α ε}
    (steps : Relation.ReflTransGen (Busy world resume) before after) :
    before.port.Extends after.port := by
  induction steps with
  | refl => exact .refl _
  | tail _ busy inductionHypothesis =>
      exact inductionHypothesis.trans (step_extends busy.step)

/-- Several steps only send more. -/
theorem steps_sent
    {before after : Process S α ε}
    (steps : Relation.ReflTransGen (Busy world resume) before after) :
    ∃ more,
      after.port.sent.flatten = before.port.sent.flatten ++ more := by
  induction steps with
  | refl => exact ⟨[], (List.append_nil _).symm⟩
  | tail _ busy inductionHypothesis =>
      obtain ⟨more, sent⟩ := inductionHypothesis
      exact ⟨_, by rw [step_sent busy.step, sent, List.append_assoc]⟩

end Steps

/-- The line only takes bytes, and nothing is known of bytes to come. -/
structure OneWay (world : World S ε) : Prop where
  silent :
    ∀ bytes env back later,
      world.react bytes env = some (back, later) → back = []
  unexpecting : world.expecting = false
  kept : world.flushable = false

section Widening

variable {S : Signature} {α ε : Type}
variable {world : World S ε}
variable {resume : α → Prog S α}

/-- A busy step does not depend on bytes behind those delivered. -/
theorem Busy.widened
    (oneWay : OneWay world)
    {before after : Process S α ε}
    (busy : Busy world resume before after)
    (earlier : List (List UInt8))
    (more : List UInt8) :
    Busy world resume (before.widened earlier more)
      (after.widened earlier more) := by
  have attentive := busy.attentive
  rcases step_cases busy.step with ⟨value, ended, rfl⟩ | calls
  · obtain ⟨program, port⟩ := before
    cases ended
    exact busy_resume value _
  · cases calls with
    | @rx offset count next port enough =>
        have longer :
            count ≤ (port.widened earlier more).input.length := by
          rw [Port.widened, List.length_append]
          exact Nat.le_add_right_of_le enough
        have taken :
            (port.widened earlier more).input.take count =
              port.input.take count :=
          List.take_append_of_le_length enough
        have calls :
            Calls world
              ⟨.rx offset count next, port.widened earlier more⟩
              ⟨next ((port.widened earlier more).input.take count),
                (port.widened earlier more).received offset count⟩ :=
          .rx longer
        rw [taken, Port.received_widened port earlier more offset
          enough] at calls
        exact ⟨calls.step, fun idling => idling⟩
    | @tx bytes back next port env reaction =>
        have nothing := oneWay.silent _ _ _ _ reaction
        rw [nothing] at reaction ⊢
        have calls :
            Calls world ⟨.tx bytes next, port.widened earlier more⟩
              ⟨next,
                (port.widened earlier more).transmitted bytes [] env⟩ :=
          .tx reaction
        rw [Port.transmitted_widened] at calls
        exact ⟨calls.step, fun idling => idling⟩
    | @poll next port =>
        have delivered : port.input ≠ [] := attentive
        have still : (port.widened earlier more).input ≠ [] := by
          simp [Port.widened, delivered]
        have calls :
            Calls world ⟨.poll next, port.widened earlier more⟩
              ⟨next (world.expecting ||
                  !(port.widened earlier more).input.isEmpty),
                port.widened earlier more⟩ :=
          .poll
        rw [List.isEmpty_eq_false_iff.mpr still,
          ← List.isEmpty_eq_false_iff.mpr delivered] at calls
        exact ⟨calls.step, still⟩
    | flush flushable =>
        rw [oneWay.kept] at flushable
        cases flushable
    | ask => exact ⟨rfl, fun idling => idling⟩
    | note => exact ⟨rfl, fun idling => idling⟩

theorem steps_widened
    (oneWay : OneWay world)
    {before after : Process S α ε}
    (steps : Relation.ReflTransGen (Busy world resume) before after)
    (earlier : List (List UInt8))
    (more : List UInt8) :
    Relation.ReflTransGen (Busy world resume)
      (before.widened earlier more) (after.widened earlier more) := by
  induction steps with
  | refl => exact .refl
  | tail _ busy inductionHypothesis =>
      exact inductionHypothesis.tail (busy.widened oneWay earlier more)

/-- A run of a guarded program is a number of busy steps. -/
theorem steps_of_exec
    {guard : Guard S}
    {post : α → Prop}
    {program : Prog S α}
    (guarded : program.Guarded guard post)
    (heeds : world.Heeds guard)
    {port after : Port S ε}
    {value : α}
    (ended : exec world program port = (some value, after)) :
    Relation.ReflTransGen (Busy world resume) ⟨program, port⟩
      ⟨.done value, after⟩ := by
  induction program generalizing port with
  | done result =>
      cases ended
      exact .refl
  | rx offset count rest inductionHypothesis =>
      rw [exec] at ended
      split at ended
      · exact .head ⟨(Calls.rx ‹_›).step, fun idling => idling⟩
          (inductionHypothesis _ (guarded _) ended)
      · cases ended
  | tx bytes rest inductionHypothesis =>
      rw [exec] at ended
      rcases reaction : world.react bytes port.env with _ | ⟨back, env⟩
      · rw [reaction] at ended
        cases ended
      · rw [reaction] at ended
        exact .head ⟨(Calls.tx reaction).step, fun idling => idling⟩
          (inductionHypothesis guarded ended)
  | poll rest _ => exact guarded.elim
  | flush rest inductionHypothesis =>
      rw [exec] at ended
      split at ended
      · exact .head ⟨(Calls.flush ‹_›).step, fun idling => idling⟩
          (inductionHypothesis guarded.2 ended)
      · cases ended
  | ask query rest inductionHypothesis =>
      exact .head ⟨Calls.ask.step, fun idling => idling⟩
        (inductionHypothesis _ (guarded _ (heeds _ _)) ended)
  | note event rest inductionHypothesis =>
      exact .head ⟨Calls.note.step, fun idling => idling⟩
        (inductionHypothesis guarded ended)

end Widening

end Process

end Ammc.Serial
