import Ammc.SerialProgram
import Mathlib.Logic.Relation

namespace Ammc.Serial

/-!
# Programs call by call

A process is what a program still has to do, together with its port.  `advance`
makes one call of it, which is how a schedule runs it beside other processes.
A process that is given its next task whenever it has finished one never ends;
it is busy as long as it does not ask in vain whether there is anything to read.
-/

/-- What a program still has to do, and its side of the line. -/
structure Process (S : Signature) (α ε : Type) where
  program : Prog S α
  port : Port S ε

section Calls

variable {S : Signature} {ε α β : Type}

/-- The bytes that the next call hands to the line. -/
def Prog.output : Prog S α → List UInt8
  | .tx bytes _ => bytes
  | _ => []

variable (world : World S ε)

/-- Make the next call; `none` when it has to wait or when there is none. -/
def Process.advance : Process S α ε → Option (Process S α ε)
  | ⟨.done _, _⟩ => none
  | ⟨.rx offset count next, port⟩ =>
      if count ≤ port.input.length then
        some ⟨next (port.input.take count), port.received offset count⟩
      else
        none
  | ⟨.tx bytes next, port⟩ =>
      match world.react bytes port.env with
      | none => none
      | some (back, env) => some ⟨next, port.transmitted bytes back env⟩
  | ⟨.poll next, port⟩ =>
      some ⟨next (world.expecting || !port.input.isEmpty), port⟩
  | ⟨.flush next, port⟩ =>
      if world.flushable then
        some ⟨next, port.flushed⟩
      else
        none
  | ⟨.ask query next, port⟩ =>
      some ⟨next (world.answer query port.env).1,
        port.withEnv (world.answer query port.env).2⟩
  | ⟨.note event next, port⟩ =>
      some ⟨next, port.noted event⟩

/-- What a call does, kind by kind. -/
inductive Process.Calls : Process S α ε → Process S α ε → Prop
  | rx
      {offset count : Nat}
      {next : List UInt8 → Prog S α}
      {port : Port S ε}
      (enough : count ≤ port.input.length) :
      Calls ⟨.rx offset count next, port⟩
        ⟨next (port.input.take count), port.received offset count⟩
  | tx
      {bytes back : List UInt8}
      {next : Prog S α}
      {port : Port S ε}
      {env : ε}
      (reaction : world.react bytes port.env = some (back, env)) :
      Calls ⟨.tx bytes next, port⟩
        ⟨next, port.transmitted bytes back env⟩
  | poll
      {next : Bool → Prog S α}
      {port : Port S ε} :
      Calls ⟨.poll next, port⟩
        ⟨next (world.expecting || !port.input.isEmpty), port⟩
  | flush
      {next : Prog S α}
      {port : Port S ε}
      (flushable : world.flushable = true) :
      Calls ⟨.flush next, port⟩ ⟨next, port.flushed⟩
  | ask
      {query : S.Query}
      {next : S.Answer query → Prog S α}
      {port : Port S ε} :
      Calls ⟨.ask query next, port⟩
        ⟨next (world.answer query port.env).1,
          port.withEnv (world.answer query port.env).2⟩
  | note
      {event : S.Note}
      {next : Prog S α}
      {port : Port S ε} :
      Calls ⟨.note event next, port⟩ ⟨next, port.noted event⟩

variable {world}

theorem Process.calls_of_advance
    {before after : Process S α ε}
    (advanced : before.advance world = some after) :
    Process.Calls world before after := by
  obtain ⟨program, port⟩ := before
  cases program with
  | done value =>
      cases advanced
  | rx offset count next =>
      simp only [advance] at advanced
      split at advanced
      · cases advanced
        exact .rx ‹_›
      · cases advanced
  | tx bytes next =>
      simp only [advance] at advanced
      rcases reaction : world.react bytes port.env with _ | ⟨back, env⟩
      · rw [reaction] at advanced
        cases advanced
      · rw [reaction] at advanced
        cases advanced
        exact .tx reaction
  | poll next =>
      cases advanced
      exact .poll
  | flush next =>
      simp only [advance] at advanced
      split at advanced
      · cases advanced
        exact .flush ‹_›
      · cases advanced
  | ask query next =>
      cases advanced
      exact .ask
  | note event next =>
      cases advanced
      exact .note

theorem Process.Calls.advance
    {before after : Process S α ε}
    (calls : Process.Calls world before after) :
    before.advance world = some after := by
  cases calls with
  | rx enough => exact if_pos enough
  | tx reaction => simp only [Process.advance, reaction]
  | poll => rfl
  | flush flushable => exact if_pos flushable
  | ask => rfl
  | note => rfl

/-- A run goes on after a call as it would have gone on before it. -/
theorem Process.Calls.exec_eq
    {before after : Process S α ε}
    (calls : Process.Calls world before after) :
    exec world before.program before.port =
      exec world after.program after.port := by
  cases calls with
  | rx enough => rw [exec, if_pos enough]
  | tx reaction => rw [exec, reaction]
  | poll => rfl
  | flush flushable => rw [exec, if_pos flushable]
  | ask => rfl
  | note => rfl

/-- Positions and notes of a port only grow. -/
structure Port.Extends (before after : Port S ε) : Prop where
  read : before.read ≤ after.read
  written : before.written ≤ after.written
  log :
    ∃ added,
      after.log = before.log ++ added ∧
      ∀ entry ∈ added,
        before.written ≤ entry.written ∧ entry.read ≤ after.read

theorem Port.Extends.refl (port : Port S ε) : port.Extends port :=
  ⟨Nat.le_refl _, Nat.le_refl _, [], (List.append_nil _).symm,
    fun _ member => by cases member⟩

theorem Port.Extends.trans
    {first second third : Port S ε}
    (earlier : first.Extends second)
    (later : second.Extends third) :
    first.Extends third := by
  obtain ⟨firstAdded, firstLog, firstDated⟩ := earlier.log
  obtain ⟨secondAdded, secondLog, secondDated⟩ := later.log
  refine ⟨Nat.le_trans earlier.read later.read,
    Nat.le_trans earlier.written later.written,
    firstAdded ++ secondAdded, ?_, ?_⟩
  · rw [secondLog, firstLog, List.append_assoc]
  · intro entry member
    rcases List.mem_append.mp member with early | late
    · exact ⟨(firstDated entry early).1,
        Nat.le_trans (firstDated entry early).2 later.read⟩
    · exact ⟨Nat.le_trans earlier.written (secondDated entry late).1,
        (secondDated entry late).2⟩

/-- A port that has the same notes and has not gone back extends the first. -/
theorem Port.Extends.of_log
    {before after : Port S ε}
    (read : before.read ≤ after.read)
    (written : before.written ≤ after.written)
    (log : after.log = before.log) :
    before.Extends after :=
  ⟨read, written, [], by rw [log, List.append_nil],
    fun _ member => by cases member⟩

/-- A call extends the port. -/
theorem Process.Calls.port_extends
    {before after : Process S α ε}
    (calls : Process.Calls world before after) :
    before.port.Extends after.port := by
  cases calls with
  | rx enough => exact .of_log (Nat.le_add_right _ _) (Nat.le_refl _) rfl
  | tx reaction => exact .of_log (Nat.le_refl _) (Nat.le_add_right _ _) rfl
  | poll => exact .refl _
  | flush flushable =>
      exact .of_log (Nat.le_add_right _ _) (Nat.le_refl _) rfl
  | ask => exact .of_log (Nat.le_refl _) (Nat.le_refl _) rfl
  | note =>
      refine ⟨Nat.le_refl _, Nat.le_refl _, _, rfl, ?_⟩
      intro entry member
      rw [List.mem_singleton.mp member]
      exact ⟨Nat.le_refl _, Nat.le_refl _⟩

/-- What a call hands to the line is what it counts as written. -/
theorem Process.Calls.sent_eq
    {before after : Process S α ε}
    (calls : Process.Calls world before after) :
    after.port.sent.flatten =
      before.port.sent.flatten ++ before.program.output := by
  cases calls with
  | tx reaction => simp [Port.transmitted, Prog.output]
  | rx enough => exact (List.append_nil _).symm
  | poll => exact (List.append_nil _).symm
  | flush flushable => exact (List.append_nil _).symm
  | ask => exact (List.append_nil _).symm
  | note => exact (List.append_nil _).symm

theorem Process.Calls.written_eq
    {before after : Process S α ε}
    (calls : Process.Calls world before after) :
    after.port.written =
      before.port.written + before.program.output.length := by
  cases calls with
  | tx reaction => rfl
  | rx enough => rfl
  | poll => rfl
  | flush flushable => rfl
  | ask => rfl
  | note => rfl

/-- Without a reaction, the bytes read and to be read stay the same. -/
theorem Process.Calls.read_add_input
    {before after : Process S α ε}
    (calls : Process.Calls world before after)
    (silent :
      ∀ bytes env back later,
        world.react bytes env = some (back, later) → back = []) :
    after.port.read + after.port.input.length =
      before.port.read + before.port.input.length := by
  cases calls with
  | rx enough =>
      simp only [Port.received, List.length_drop]
      omega
  | tx reaction =>
      rw [silent _ _ _ _ reaction]
      simp [Port.transmitted]
  | poll => rfl
  | flush flushable => rfl
  | ask => rfl
  | note => rfl

/-- What every answer and every reaction keeps, a run keeps. -/
theorem exec_env
    (related : ε → ε → Prop)
    (reflexive : ∀ env, related env env)
    (transitive :
      ∀ {first second third},
        related first second → related second third →
          related first third)
    (answered : ∀ query env, related env (world.answer query env).2)
    (reacted :
      ∀ {bytes env back later},
        world.react bytes env = some (back, later) → related env later)
    (program : Prog S α)
    (port : Port S ε) :
    related port.env (exec world program port).2.env := by
  induction program generalizing port with
  | done value => exact reflexive _
  | rx offset count rest inductionHypothesis =>
      rw [exec]
      split
      · exact inductionHypothesis _ (port.received offset count)
      · exact reflexive _
  | tx bytes rest inductionHypothesis =>
      rw [exec]
      rcases reaction : world.react bytes port.env with _ | ⟨back, env⟩
      · exact reflexive _
      · exact transitive (reacted reaction)
          (inductionHypothesis (port.transmitted bytes back env))
  | poll rest inductionHypothesis => exact inductionHypothesis _ port
  | flush rest inductionHypothesis =>
      rw [exec]
      split
      · exact inductionHypothesis port.flushed
      · exact reflexive _
  | ask query rest inductionHypothesis =>
      exact transitive (answered query port.env)
        (inductionHypothesis _
          (port.withEnv (world.answer query port.env).2))
  | note event rest inductionHypothesis =>
      exact inductionHypothesis (port.noted event)

end Calls

end Ammc.Serial
