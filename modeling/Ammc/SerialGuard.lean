import Ammc.SerialProcess

namespace Ammc.Serial

/-!
# What a program does under any answers

A guard tells how queries may be answered and which notes begin a transmission.
A guarded program never asks whether there is anything to read, throws delivered
bytes away only right before a transmission or before it throws them away once
more, and ends with a result of the expected kind.  A run is responsive when the
other side of the line always takes what it is handed.
-/

/-- The possible answers to queries, and the notes that begin a transmission. -/
structure Guard (S : Signature) where
  Answers : (query : S.Query) → S.Answer query → Prop
  Begins : S.Note → Prop

/-- The surroundings answer as the guard says. -/
def World.Heeds
    (world : World S ε)
    (guard : Guard S) : Prop :=
  ∀ query env, guard.Answers query (world.answer query env).1

namespace Prog

section Guarding

variable {S : Signature} {α β : Type}
variable (guard : Guard S)

/-- After some queries, the program throws the delivered bytes away. -/
def FlushAhead : Prog S α → Prop
  | .flush _ => True
  | .ask query next =>
      ∀ reply, guard.Answers query reply → (next reply).FlushAhead
  | _ => False

/-- The next call begins a transmission. -/
def Begins : Prog S α → Prop
  | .note event _ => guard.Begins event
  | _ => False

/-- The program is guarded, and its results have the property `post`. -/
def Guarded (post : α → Prop) : Prog S α → Prop
  | .done value => post value
  | .rx _ _ next => ∀ bytes, (next bytes).Guarded post
  | .tx _ next => next.Guarded post
  | .poll _ => False
  | .flush next =>
      (next.Begins guard ∨ next.FlushAhead guard) ∧ next.Guarded post
  | .ask query next =>
      ∀ reply, guard.Answers query reply → (next reply).Guarded post
  | .note _ next => next.Guarded post

variable {guard}

theorem FlushAhead.bind
    {program : Prog S α}
    (ahead : program.FlushAhead guard)
    (next : α → Prog S β) :
    (program >>= next).FlushAhead guard := by
  change (program.bind next).FlushAhead guard
  induction program with
  | flush rest _ => exact trivial
  | ask query rest inductionHypothesis =>
      intro reply possible
      exact inductionHypothesis reply (ahead reply possible)
  | done value => exact ahead.elim
  | rx offset count rest _ => exact ahead.elim
  | tx bytes rest _ => exact ahead.elim
  | poll rest _ => exact ahead.elim
  | note event rest _ => exact ahead.elim

theorem Begins.bind
    {program : Prog S α}
    (begins : program.Begins guard)
    (next : α → Prog S β) :
    (program.bind next).Begins guard := by
  cases program with
  | note event rest => exact begins
  | done value => exact begins.elim
  | rx offset count rest => exact begins.elim
  | tx bytes rest => exact begins.elim
  | poll rest => exact begins.elim
  | flush rest => exact begins.elim
  | ask query rest => exact begins.elim

/-- A sequence of guarded programs is guarded. -/
theorem Guarded.bind
    {first : α → Prop}
    {second : β → Prop}
    {program : Prog S α}
    {next : α → Prog S β}
    (guarded : program.Guarded guard first)
    (continued : ∀ value, first value → (next value).Guarded guard second) :
    (program >>= next).Guarded guard second := by
  change (program.bind next).Guarded guard second
  induction program with
  | done value => exact continued value guarded
  | rx offset count rest inductionHypothesis =>
      intro bytes
      exact inductionHypothesis bytes (guarded bytes)
  | tx bytes rest inductionHypothesis => exact inductionHypothesis guarded
  | poll rest _ => exact guarded.elim
  | flush rest inductionHypothesis =>
      refine ⟨?_, inductionHypothesis guarded.2⟩
      rcases guarded.1 with begins | ahead
      · exact Or.inl (begins.bind next)
      · exact Or.inr (ahead.bind next)
  | ask query rest inductionHypothesis =>
      intro reply possible
      exact inductionHypothesis reply (guarded reply possible)
  | note event rest inductionHypothesis =>
      exact inductionHypothesis guarded

/-- A guarded program stays guarded from call to call. -/
theorem Guarded.calls
    {ε : Type}
    {world : World S ε}
    {post : α → Prop}
    {before after : Process S α ε}
    (guarded : before.program.Guarded guard post)
    (heeds : world.Heeds guard)
    (calls : Process.Calls world before after) :
    after.program.Guarded guard post := by
  cases calls with
  | rx enough => exact guarded _
  | tx reaction => exact guarded
  | poll => exact guarded.elim
  | flush flushable => exact guarded.2
  | ask => exact guarded _ (heeds _ _)
  | note => exact guarded

end Guarding

section Responding

variable {S : Signature} {ε α β : Type}
variable (world : World S ε)

/-- Everything that the run hands to the line is taken. -/
def Responsive : Prog S α → Port S ε → Prop
  | .done _, _ => True
  | .rx offset count next, port =>
      count ≤ port.input.length →
        (next (port.input.take count)).Responsive
          (port.received offset count)
  | .tx bytes next, port =>
      ∃ back env,
        world.react bytes port.env = some (back, env) ∧
          next.Responsive (port.transmitted bytes back env)
  | .poll next, port =>
      (next (world.expecting || !port.input.isEmpty)).Responsive port
  | .flush next, port =>
      world.flushable = true → next.Responsive port.flushed
  | .ask query next, port =>
      (next (world.answer query port.env).1).Responsive
        (port.withEnv (world.answer query port.env).2)
  | .note event next, port => next.Responsive (port.noted event)

variable {world}

/-- The result of a guarded program has the expected property. -/
theorem Guarded.result
    {guard : Guard S}
    {post : α → Prop}
    {program : Prog S α}
    (guarded : program.Guarded guard post)
    (heeds : world.Heeds guard)
    {port after : Port S ε}
    {value : α}
    (ended : exec world program port = (some value, after)) :
    post value := by
  induction program generalizing port with
  | done result =>
      cases ended
      exact guarded
  | rx offset count rest inductionHypothesis =>
      rw [exec] at ended
      split at ended
      · exact inductionHypothesis _ (guarded _) ended
      · cases ended
  | tx bytes rest inductionHypothesis =>
      rw [exec] at ended
      rcases reaction : world.react bytes port.env with _ | ⟨back, env⟩
      · rw [reaction] at ended
        cases ended
      · rw [reaction] at ended
        exact inductionHypothesis guarded ended
  | poll rest _ => exact guarded.elim
  | flush rest inductionHypothesis =>
      rw [exec] at ended
      split at ended
      · exact inductionHypothesis guarded.2 ended
      · cases ended
  | ask query rest inductionHypothesis =>
      exact inductionHypothesis _ (guarded _ (heeds _ _)) ended
  | note event rest inductionHypothesis =>
      exact inductionHypothesis guarded ended

/-- A run that ends has not failed to hand anything to the line. -/
theorem responsive_of_exec
    {program : Prog S α}
    {port after : Port S ε}
    {value : α}
    (ended : exec world program port = (some value, after)) :
    program.Responsive world port := by
  induction program generalizing port with
  | done result => trivial
  | rx offset count rest inductionHypothesis =>
      intro enough
      rw [exec, if_pos enough] at ended
      exact inductionHypothesis _ ended
  | tx bytes rest inductionHypothesis =>
      rw [exec] at ended
      rcases reaction : world.react bytes port.env with _ | ⟨back, env⟩
      · rw [reaction] at ended
        cases ended
      · rw [reaction] at ended
        exact ⟨back, env, reaction, inductionHypothesis ended⟩
  | poll rest inductionHypothesis => exact inductionHypothesis _ ended
  | flush rest inductionHypothesis =>
      intro flushable
      rw [exec, if_pos flushable] at ended
      exact inductionHypothesis ended
  | ask query rest inductionHypothesis => exact inductionHypothesis _ ended
  | note event rest inductionHypothesis => exact inductionHypothesis ended

/-- A sequence is responsive when its parts are. -/
theorem Responsive.bind
    {program : Prog S α}
    {next : α → Prog S β}
    {port : Port S ε}
    (responsive : program.Responsive world port)
    (continued :
      ∀ value after,
        exec world program port = (some value, after) →
          (next value).Responsive world after) :
    (program >>= next).Responsive world port := by
  change (program.bind next).Responsive world port
  induction program generalizing port with
  | done value => exact continued value port rfl
  | rx offset count rest inductionHypothesis =>
      intro enough
      refine inductionHypothesis _ (responsive enough) ?_
      intro value after ended
      exact continued value after (by rw [exec, if_pos enough, ended])
  | tx bytes rest inductionHypothesis =>
      obtain ⟨back, env, reaction, later⟩ := responsive
      refine ⟨back, env, reaction, inductionHypothesis later ?_⟩
      intro value after ended
      refine continued value after ?_
      rw [exec, reaction]
      exact ended
  | poll rest inductionHypothesis =>
      exact inductionHypothesis _ responsive continued
  | flush rest inductionHypothesis =>
      intro flushable
      refine inductionHypothesis (responsive flushable) ?_
      intro value after ended
      exact continued value after (by rw [exec, if_pos flushable, ended])
  | ask query rest inductionHypothesis =>
      exact inductionHypothesis _ responsive continued
  | note event rest inductionHypothesis =>
      exact inductionHypothesis responsive continued

/-- A responsive run makes every call for which the bytes are there. -/
theorem Responsive.calls
    {before after : Process S α ε}
    (responsive : before.program.Responsive world before.port)
    (calls : Process.Calls world before after) :
    after.program.Responsive world after.port := by
  cases calls with
  | rx enough => exact responsive enough
  | tx reaction =>
      obtain ⟨back, env, reacted, later⟩ := responsive
      rw [reaction] at reacted
      cases reacted
      exact later
  | poll => exact responsive
  | flush flushable => exact responsive flushable
  | ask => exact responsive
  | note => exact responsive

/-- The program ends up waiting for bytes, in front of the given port. -/
structure Waits
    (world : World S ε)
    (program : Prog S α)
    (port after : Port S ε) : Prop where
  stuck : exec world program port = (none, after)
  responsive : program.Responsive world port

theorem waits_receive
    {offset count : Nat}
    {port : Port S ε}
    (missing : port.input.length < count) :
    (receive offset count : Prog S (List UInt8)).Waits world port
      (port.waiting offset count) where
  stuck := exec_receive_stuck missing
  responsive enough := absurd enough (Nat.not_le.mpr missing)

/-- What waits makes the sequence wait. -/
theorem Waits.bind
    {program : Prog S α}
    {port after : Port S ε}
    (waits : program.Waits world port after)
    (next : α → Prog S β) :
    (program >>= next).Waits world port after where
  stuck := exec_bind_of_stuck waits.stuck
  responsive :=
    waits.responsive.bind fun _ _ ended => by
      rw [waits.stuck] at ended
      cases ended

/-- A sequence waits where its second part does. -/
theorem Waits.after
    {program : Prog S α}
    {next : α → Prog S β}
    {port middle after : Port S ε}
    {value : α}
    (ended : exec world program port = (some value, middle))
    (waits : (next value).Waits world middle after) :
    (program >>= next).Waits world port after where
  stuck := (exec_bind_of_done ended).trans waits.stuck
  responsive :=
    (responsive_of_exec ended).bind fun other later finished => by
      rw [ended] at finished
      cases finished
      exact waits.responsive

/-- The call at which the delivered bytes are thrown away is reached. -/
theorem FlushAhead.reached
    {guard : Guard S}
    {program : Prog S α}
    (ahead : program.FlushAhead guard)
    (heeds : world.Heeds guard)
    (env : ε) :
    ∃ (rest : Prog S α) (later : ε),
      ∀ port : Port S ε, port.env = env →
        exec world program port =
            exec world (.flush rest) (port.withEnv later) ∧
          (program.Responsive world port ↔
            (Prog.flush rest).Responsive world (port.withEnv later)) := by
  induction program generalizing env with
  | flush rest _ =>
      refine ⟨rest, env, fun port same => ?_⟩
      rw [← same]
      exact ⟨rfl, Iff.rfl⟩
  | ask query rest inductionHypothesis =>
      obtain ⟨last, later, reached⟩ :=
        inductionHypothesis _ (ahead _ (heeds query env))
          (world.answer query env).2
      refine ⟨last, later, fun port same => ?_⟩
      have there := reached (port.withEnv (world.answer query env).2) rfl
      rw [← same] at there
      exact there
  | done value => exact ahead.elim
  | rx offset count rest _ => exact ahead.elim
  | tx bytes rest _ => exact ahead.elim
  | poll rest _ => exact ahead.elim
  | note event rest _ => exact ahead.elim

/-- Bytes that are thrown away a little later need not be thrown away now. -/
theorem FlushAhead.discarded
    {guard : Guard S}
    {program : Prog S α}
    (ahead : program.FlushAhead guard)
    (heeds : world.Heeds guard)
    (flushable : world.flushable = true)
    {port : Port S ε}
    {count : Nat}
    (enough : count ≤ port.input.length) :
    exec world program (port.discarded count) =
        exec world program port.flushed ∧
      (program.Responsive world (port.discarded count) ↔
        program.Responsive world port.flushed) := by
  obtain ⟨rest, later, reached⟩ := ahead.reached heeds port.env
  have meets :
      ((port.discarded count).withEnv later).flushed =
        (port.flushed.withEnv later).flushed := by
    simp only [Port.discarded, Port.withEnv, Port.flushed,
      List.length_drop, List.length_nil, Nat.add_zero, Nat.add_assoc,
      Nat.add_sub_cancel' enough]
  have early := reached (port.discarded count) rfl
  have late := reached port.flushed rfl
  simp only [exec, flushable, if_true, Responsive, true_implies,
    meets] at early late
  exact ⟨early.1.trans late.1.symm, early.2.trans late.2.symm⟩

end Responding

end Prog

end Ammc.Serial
