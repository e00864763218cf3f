import Ammc.SerialProgram

namespace Ammc.Serial

/-!
# Programs in arbitrary surroundings

A program is run without a port: its surroundings answer queries and end reads
as they like.  Their choices are the events of the run, in order, together with
what the program sends.  A relation says which bytes a read of some count
stores, given what came in from below; it need not be as many as asked for.
-/

/-- What passes between a program and its surroundings. -/
inductive Event (S : Signature) (R : Type) where
  | asked (query : S.Query) (answer : S.Answer query)
  | read (offset count : Nat) (got : R)
  | sent (bytes : List UInt8)
  | polled (ready : Bool)

namespace Prog

/-- The program comes to its end at `result` through the events. -/
def Yields
    (reads : Nat → R → List UInt8 → Prop) :
    Prog S α → List (Event S R) → α → Prop
  | .done value, events, result => events = [] ∧ result = value
  | .rx offset count next, events, result =>
      ∃ got bytes rest,
        events = .read offset count got :: rest ∧
          reads count got bytes ∧
          (next bytes).Yields reads rest result
  | .tx bytes next, events, result =>
      ∃ rest, events = .sent bytes :: rest ∧ next.Yields reads rest result
  | .poll next, events, result =>
      ∃ ready rest,
        events = .polled ready :: rest ∧
          (next ready).Yields reads rest result
  | .flush next, events, result => next.Yields reads events result
  | .ask query next, events, result =>
      ∃ answer rest,
        events = .asked query answer :: rest ∧
          (next answer).Yields reads rest result
  | .note _ next, events, result => next.Yields reads events result

/-- Every run of the program ends in what `post` says. -/
def Ensures
    (reads : Nat → R → List UInt8 → Prop)
    (program : Prog S α)
    (post : List (Event S R) → α → Prop) : Prop :=
  ∀ events result, program.Yields reads events result → post events result

section Runs

variable {S : Signature} {R α β : Type}
variable {reads : Nat → R → List UInt8 → Prop}
variable {events : List (Event S R)}

@[simp] theorem yields_pure
    {value result : α} :
    Yields reads (pure value : Prog S α) events result ↔
      events = [] ∧ result = value :=
  Iff.rfl

/-- A run of a sequence is a run of its parts, one after the other. -/
theorem yields_bind
    {program : Prog S α}
    {next : α → Prog S β}
    {result : β} :
    Yields reads (program >>= next) events result ↔
      ∃ first second value,
        events = first ++ second ∧
          program.Yields reads first value ∧
          (next value).Yields reads second result := by
  change (program.bind next).Yields reads events result ↔ _
  induction program generalizing events with
  | done value =>
      constructor
      · intro run
        exact ⟨[], events, value, rfl, ⟨rfl, rfl⟩, run⟩
      · rintro ⟨_, second, _, rfl, ⟨rfl, rfl⟩, run⟩
        exact run
  | rx offset count rest inductionHypothesis =>
      constructor
      · rintro ⟨got, bytes, later, rfl, stored, run⟩
        obtain ⟨first, second, value, rfl, begun, continued⟩ :=
          (inductionHypothesis bytes).mp run
        exact
          ⟨.read offset count got :: first, second, value, rfl,
            ⟨got, bytes, first, rfl, stored, begun⟩, continued⟩
      · rintro
          ⟨_, second, value, rfl, ⟨got, bytes, first, rfl, stored, begun⟩,
            continued⟩
        exact
          ⟨got, bytes, first ++ second, rfl, stored,
            (inductionHypothesis bytes).mpr
              ⟨first, second, value, rfl, begun, continued⟩⟩
  | tx bytes rest inductionHypothesis =>
      constructor
      · rintro ⟨later, rfl, run⟩
        obtain ⟨first, second, value, rfl, begun, continued⟩ :=
          inductionHypothesis.mp run
        exact
          ⟨.sent bytes :: first, second, value, rfl, ⟨first, rfl, begun⟩,
            continued⟩
      · rintro ⟨_, second, value, rfl, ⟨first, rfl, begun⟩, continued⟩
        exact
          ⟨first ++ second, rfl,
            inductionHypothesis.mpr
              ⟨first, second, value, rfl, begun, continued⟩⟩
  | poll rest inductionHypothesis =>
      constructor
      · rintro ⟨ready, later, rfl, run⟩
        obtain ⟨first, second, value, rfl, begun, continued⟩ :=
          (inductionHypothesis ready).mp run
        exact
          ⟨.polled ready :: first, second, value, rfl,
            ⟨ready, first, rfl, begun⟩, continued⟩
      · rintro
          ⟨_, second, value, rfl, ⟨ready, first, rfl, begun⟩, continued⟩
        exact
          ⟨ready, first ++ second, rfl,
            (inductionHypothesis ready).mpr
              ⟨first, second, value, rfl, begun, continued⟩⟩
  | flush rest inductionHypothesis =>
      exact inductionHypothesis
  | ask query rest inductionHypothesis =>
      constructor
      · rintro ⟨answer, later, rfl, run⟩
        obtain ⟨first, second, value, rfl, begun, continued⟩ :=
          (inductionHypothesis answer).mp run
        exact
          ⟨.asked query answer :: first, second, value, rfl,
            ⟨answer, first, rfl, begun⟩, continued⟩
      · rintro
          ⟨_, second, value, rfl, ⟨answer, first, rfl, begun⟩, continued⟩
        exact
          ⟨answer, first ++ second, rfl,
            (inductionHypothesis answer).mpr
              ⟨first, second, value, rfl, begun, continued⟩⟩
  | note event rest inductionHypothesis =>
      exact inductionHypothesis

@[simp] theorem yields_receive
    {offset count : Nat}
    {bytes : List UInt8} :
    Yields reads (receive offset count) events bytes ↔
      ∃ got, events = [.read offset count got] ∧ reads count got bytes := by
  constructor
  · rintro ⟨got, _, _, rfl, stored, rfl, rfl⟩
    exact ⟨got, rfl, stored⟩
  · rintro ⟨got, rfl, stored⟩
    exact ⟨got, bytes, [], rfl, stored, rfl, rfl⟩

@[simp] theorem yields_transmit
    {bytes : List UInt8}
    {result : Unit} :
    Yields reads (transmit bytes) events result ↔
      events = [.sent bytes] := by
  constructor
  · rintro ⟨_, rfl, rfl, _⟩
    rfl
  · rintro rfl
    exact ⟨[], rfl, rfl, rfl⟩

@[simp] theorem yields_discard
    {result : Unit} :
    Yields reads discard events result ↔ events = [] :=
  and_iff_left rfl

@[simp] theorem yields_record
    {event : S.Note}
    {result : Unit} :
    Yields reads (record event) events result ↔ events = [] :=
  and_iff_left rfl

@[simp] theorem yields_query
    {asked : S.Query}
    {answer : S.Answer asked} :
    Yields reads (query asked) events answer ↔
      events = [.asked asked answer] := by
  constructor
  · rintro ⟨_, _, rfl, rfl, rfl⟩
    rfl
  · rintro rfl
    exact ⟨answer, [], rfl, rfl, rfl⟩

/-- The events of a run determine its result. -/
theorem yields_unique
    (determined :
      ∀ count got first second,
        reads count got first → reads count got second → first = second)
    {program : Prog S α}
    {first second : α}
    (run : program.Yields reads events first)
    (again : program.Yields reads events second) :
    first = second := by
  induction program generalizing events with
  | done value => exact run.2.trans again.2.symm
  | rx offset count next inductionHypothesis =>
      obtain ⟨got, bytes, rest, rfl, stored, run⟩ := run
      obtain ⟨_, others, _, same, storedAgain, again⟩ := again
      cases same
      cases determined count got bytes others stored storedAgain
      exact inductionHypothesis bytes run again
  | tx bytes next inductionHypothesis =>
      obtain ⟨rest, rfl, run⟩ := run
      obtain ⟨_, same, again⟩ := again
      cases same
      exact inductionHypothesis run again
  | poll next inductionHypothesis =>
      obtain ⟨ready, rest, rfl, run⟩ := run
      obtain ⟨_, _, same, again⟩ := again
      cases same
      exact inductionHypothesis ready run again
  | flush next inductionHypothesis =>
      exact inductionHypothesis run again
  | ask query next inductionHypothesis =>
      obtain ⟨answer, rest, rfl, run⟩ := run
      obtain ⟨_, _, same, again⟩ := again
      cases same
      exact inductionHypothesis answer run again
  | note event next inductionHypothesis =>
      exact inductionHypothesis run again

/-- What is ensured may be weakened. -/
theorem Ensures.mono
    {program : Prog S α}
    {post weaker : List (Event S R) → α → Prop}
    (ensured : program.Ensures reads post)
    (weaken : ∀ events result, post events result → weaker events result) :
    program.Ensures reads weaker :=
  fun events result run => weaken events result (ensured events result run)

theorem Ensures.pure
    {value : α}
    {post : List (Event S R) → α → Prop}
    (holds : post [] value) :
    Ensures reads (Pure.pure value : Prog S α) post := by
  rintro _ _ ⟨rfl, rfl⟩
  exact holds

/-- The parts of a sequence are ensured one after the other. -/
theorem Ensures.bind
    {program : Prog S α}
    {next : α → Prog S β}
    {between : List (Event S R) → α → Prop}
    {post : List (Event S R) → β → Prop}
    (starts : program.Ensures reads between)
    (continues :
      ∀ first value,
        between first value →
        (next value).Ensures reads fun second =>
          post (first ++ second)) :
    Ensures reads (program >>= next) post := by
  intro events result run
  obtain ⟨first, second, value, rfl, begun, continued⟩ :=
    yields_bind.mp run
  exact
    continues first value (starts first value begun) second result
      continued

end Runs

end Prog

/-- A run only adds to the requested areas. -/
theorem exec_requests
    (world : World S ε)
    (program : Prog S α)
    {port : Port S ε}
    {request : Nat × Nat}
    (requested : request ∈ port.requests) :
    request ∈ (exec world program port).2.requests := by
  induction program generalizing port with
  | done result => exact requested
  | rx offset count next inductionHypothesis =>
      rw [exec]
      by_cases delivered : count ≤ port.input.length
      · rw [if_pos delivered]
        exact
          inductionHypothesis _ (List.mem_append_left _ requested)
      · rw [if_neg delivered]
        exact List.mem_append_left _ requested
  | tx bytes next inductionHypothesis =>
      rw [exec]
      cases world.react bytes port.env with
      | none => exact requested
      | some reaction => exact inductionHypothesis requested
  | poll next inductionHypothesis =>
      exact inductionHypothesis _ requested
  | flush next inductionHypothesis =>
      rw [exec]
      by_cases flushable : world.flushable = true
      · rw [if_pos flushable]
        exact inductionHypothesis requested
      · rw [if_neg flushable]
        exact requested
  | ask query next inductionHypothesis =>
      exact inductionHypothesis _ requested
  | note event next inductionHypothesis =>
      exact inductionHypothesis requested

/--
A run against a port is one of these runs, where whole reads are among those
that the surroundings may choose.
-/
theorem exec_yields
    {reads : Nat → R → List UInt8 → Prop}
    (world : World S ε)
    {program : Prog S α}
    {port after : Port S ε}
    {value : α}
    (finished : exec world program port = (some value, after))
    (whole :
      ∀ offset, ∀ bytes : List UInt8,
        (offset, bytes.length) ∈ after.requests →
        ∃ got, reads bytes.length got bytes) :
    ∃ events, program.Yields reads events value := by
  induction program generalizing port with
  | done result =>
      cases finished
      exact ⟨[], rfl, rfl⟩
  | rx offset count next inductionHypothesis =>
      rw [exec] at finished
      by_cases delivered : count ≤ port.input.length
      · rw [if_pos delivered] at finished
        have noted :
            (offset, count) ∈ (port.received offset count).requests :=
          List.mem_append_right _ (List.mem_singleton_self _)
        have requested :=
          exec_requests world (next (port.input.take count)) noted
        rw [finished] at requested
        have length := List.length_take_of_le delivered
        obtain ⟨events, run⟩ := inductionHypothesis _ finished
        obtain ⟨got, stored⟩ :=
          whole offset (port.input.take count) (by rwa [length])
        rw [length] at stored
        exact
          ⟨.read offset count got :: events, got, _, events, rfl, stored,
            run⟩
      · rw [if_neg delivered] at finished
        cases finished
  | tx bytes next inductionHypothesis =>
      rw [exec] at finished
      cases reacted : world.react bytes port.env with
      | none =>
          rw [reacted] at finished
          cases finished
      | some reaction =>
          rw [reacted] at finished
          obtain ⟨events, run⟩ := inductionHypothesis finished
          exact ⟨.sent bytes :: events, events, rfl, run⟩
  | poll next inductionHypothesis =>
      obtain ⟨events, run⟩ := inductionHypothesis _ finished
      exact ⟨.polled _ :: events, _, events, rfl, run⟩
  | flush next inductionHypothesis =>
      rw [exec] at finished
      by_cases flushable : world.flushable = true
      · rw [if_pos flushable] at finished
        exact inductionHypothesis finished
      · rw [if_neg flushable] at finished
        cases finished
  | ask query next inductionHypothesis =>
      obtain ⟨events, run⟩ := inductionHypothesis _ finished
      exact ⟨.asked query _ :: events, _, events, rfl, run⟩
  | note event next inductionHypothesis =>
      exact inductionHypothesis finished

end Ammc.Serial
