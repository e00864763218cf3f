import Mathlib.Data.List.Basic

namespace Ammc.Serial

/-!
# Programs on a byte stream

A program that talks over a serial line is a finite tree of calls.  Reads name
the offset of the caller's buffer at which the bytes are stored, so that every
access is visible in a run.  What lies outside the program (a bus, a terminal,
the contents of an uninitialised variable) is reached through queries, whose
types belong to the signature.  Notes are observations for the specification;
they do not influence a run.

A `Port` is the program's side of the line.  `exec` runs a program against a
port: it returns `none` as soon as the program waits for bytes that never come.
-/

/-- The queries and notes that one family of programs uses. -/
structure Signature where
  Query : Type
  Answer : Query → Type
  Note : Type

/-- A finite program that reads and writes one byte stream. -/
inductive Prog (S : Signature) (α : Type) : Type where
  | done (value : α) : Prog S α
  | rx (offset count : Nat) (next : List UInt8 → Prog S α) : Prog S α
  | tx (bytes : List UInt8) (next : Prog S α) : Prog S α
  | poll (next : Bool → Prog S α) : Prog S α
  | flush (next : Prog S α) : Prog S α
  | ask (query : S.Query) (next : S.Answer query → Prog S α) : Prog S α
  | note (event : S.Note) (next : Prog S α) : Prog S α

namespace Prog

/-- Continue with `next` at every result of `program`. -/
def bind
    (program : Prog S α)
    (next : α → Prog S β) : Prog S β :=
  match program with
  | .done value => next value
  | .rx offset count rest =>
      .rx offset count fun bytes => (rest bytes).bind next
  | .tx bytes rest => .tx bytes (rest.bind next)
  | .poll rest => .poll fun ready => (rest ready).bind next
  | .flush rest => .flush (rest.bind next)
  | .ask query rest => .ask query fun reply => (rest reply).bind next
  | .note event rest => .note event (rest.bind next)

instance : Monad (Prog S) where
  pure := .done
  bind := bind

/-- Wait for `count` bytes, to be stored from `offset` on. -/
def receive (offset count : Nat) : Prog S (List UInt8) :=
  .rx offset count .done

/-- Hand bytes to the line. -/
def transmit (bytes : List UInt8) : Prog S Unit :=
  .tx bytes (.done ())

/-- Is there any byte to read? -/
def pending : Prog S Bool :=
  .poll .done

/-- Throw away the bytes delivered so far. -/
def discard : Prog S Unit :=
  .flush (.done ())

/-- Put a query to the surroundings. -/
def query (asked : S.Query) : Prog S (S.Answer asked) :=
  .ask asked .done

/-- Leave a note for the specification. -/
def record (event : S.Note) : Prog S Unit :=
  .note event (.done ())

end Prog

/-- A note with the stream positions at which it was left. -/
structure Entry (S : Signature) where
  event : S.Note
  read : Nat
  written : Nat

instance [DecidableEq S.Note] : DecidableEq (Entry S) :=
  fun first second =>
    decidable_of_iff
      (first.event = second.event ∧ first.read = second.read ∧
        first.written = second.written)
      (by
        obtain ⟨event, read, written⟩ := first
        obtain ⟨otherEvent, otherRead, otherWritten⟩ := second
        simp only [Entry.mk.injEq])

/--
One program's side of a serial line: the bytes delivered and not yet read, the
buffers handed to the line, the memory areas requested for reading, the state
of the surroundings, the positions reached in both streams, and the notes.
-/
structure Port (S : Signature) (ε : Type) where
  input : List UInt8
  sent : List (List UInt8)
  requests : List (Nat × Nat)
  env : ε
  read : Nat
  written : Nat
  log : List (Entry S)

/--
What surrounds a port.  `react` gives the bytes that come back once a buffer
has been handed to the line (`none` when the other side never finishes with
it), `expecting` tells whether more bytes may still arrive when none is
delivered, and `flushable` whether delivered bytes may be thrown away.
-/
structure World (S : Signature) (ε : Type) where
  answer : (query : S.Query) → ε → S.Answer query × ε
  react : List UInt8 → ε → Option (List UInt8 × ε)
  expecting : Bool
  flushable : Bool

namespace Port

/-- A port at the start of both streams, with the given bytes delivered. -/
def start
    (input : List UInt8)
    (env : ε) : Port S ε where
  input := input
  sent := []
  requests := []
  env := env
  read := 0
  written := 0
  log := []

/-- Every memory area requested for reading ends inside `size` bytes. -/
def RequestsInside
    (size : Nat)
    (port : Port S ε) : Prop :=
  ∀ request ∈ port.requests, request.1 + request.2 ≤ size

/-- The port after a read of `count` delivered bytes into `offset`. -/
def received
    (port : Port S ε)
    (offset count : Nat) : Port S ε :=
  { port with
    input := port.input.drop count
    requests := port.requests ++ [(offset, count)]
    read := port.read + count }

/-- The port whose program waits in a read. -/
def waiting
    (port : Port S ε)
    (offset count : Nat) : Port S ε :=
  { port with
    requests := port.requests ++ [(offset, count)] }

@[simp] theorem log_waiting
    (port : Port S ε)
    (offset count : Nat) :
    (port.waiting offset count).log = port.log :=
  rfl

@[simp] theorem env_waiting
    (port : Port S ε)
    (offset count : Nat) :
    (port.waiting offset count).env = port.env :=
  rfl

/-- The port after `bytes` went out and `back` came in. -/
def transmitted
    (port : Port S ε)
    (bytes back : List UInt8)
    (env : ε) : Port S ε :=
  { port with
    input := port.input ++ back
    sent := port.sent ++ [bytes]
    env := env
    written := port.written + bytes.length }

/-- The port after the delivered bytes were thrown away. -/
def flushed (port : Port S ε) : Port S ε :=
  { port with
    input := []
    read := port.read + port.input.length }

/-- The port after the first `count` delivered bytes were thrown away. -/
def discarded
    (port : Port S ε)
    (count : Nat) : Port S ε :=
  { port with
    input := port.input.drop count
    read := port.read + count }

/-- The port after a note. -/
def noted
    (port : Port S ε)
    (event : S.Note) : Port S ε :=
  { port with
    log := port.log ++ [⟨event, port.read, port.written⟩] }

/-- The port with changed surroundings. -/
def withEnv
    (port : Port S ε)
    (env : ε) : Port S ε :=
  { port with
    env := env }

end Port

/-- Run a program against a port; `none` means that it waits for ever. -/
def exec
    (world : World S ε) :
    Prog S α → Port S ε → Option α × Port S ε
  | .done value, port => (some value, port)
  | .rx offset count next, port =>
      if count ≤ port.input.length then
        exec world (next (port.input.take count))
          (port.received offset count)
      else
        (none, port.waiting offset count)
  | .tx bytes next, port =>
      match world.react bytes port.env with
      | none => (none, port)
      | some (back, env) =>
          exec world next (port.transmitted bytes back env)
  | .poll next, port =>
      exec world
        (next (world.expecting || !port.input.isEmpty)) port
  | .flush next, port =>
      if world.flushable then
        exec world next port.flushed
      else
        (none, port)
  | .ask query next, port =>
      exec world (next (world.answer query port.env).1)
        (port.withEnv (world.answer query port.env).2)
  | .note event next, port =>
      exec world next (port.noted event)

section Execution

variable {S : Signature} {ε α β : Type}
variable (world : World S ε)

@[simp] theorem exec_done
    (value : α)
    (port : Port S ε) :
    exec world (.done value) port = (some value, port) :=
  rfl

@[simp] theorem exec_pure
    (value : α)
    (port : Port S ε) :
    exec world (pure value) port = (some value, port) :=
  rfl

/-- A run of a sequence is a run of its parts, one after the other. -/
theorem exec_bind
    (program : Prog S α)
    (next : α → Prog S β)
    (port : Port S ε) :
    exec world (program >>= next) port =
      match exec world program port with
      | (none, after) => (none, after)
      | (some value, after) => exec world (next value) after := by
  change exec world (program.bind next) port = _
  induction program generalizing port with
  | done value =>
      rfl
  | rx offset count rest inductionHypothesis =>
      simp only [Prog.bind, exec]
      split
      · exact inductionHypothesis _ _
      · rfl
  | tx bytes rest inductionHypothesis =>
      simp only [Prog.bind, exec]
      cases world.react bytes port.env with
      | none =>
          rfl
      | some reaction =>
          exact inductionHypothesis _
  | poll rest inductionHypothesis =>
      exact inductionHypothesis _ _
  | flush rest inductionHypothesis =>
      simp only [Prog.bind, exec]
      split
      · exact inductionHypothesis _
      · rfl
  | ask query rest inductionHypothesis =>
      exact inductionHypothesis _ _
  | note event rest inductionHypothesis =>
      exact inductionHypothesis _

/-- A run only adds to the notes. -/
theorem exec_log
    (program : Prog S α)
    (port : Port S ε) :
    ∃ added, (exec world program port).2.log = port.log ++ added := by
  induction program generalizing port with
  | done value =>
      exact ⟨[], (List.append_nil _).symm⟩
  | rx offset count rest inductionHypothesis =>
      rw [exec]
      split
      · exact inductionHypothesis _ _
      · exact ⟨[], (List.append_nil _).symm⟩
  | tx bytes rest inductionHypothesis =>
      rw [exec]
      cases world.react bytes port.env with
      | none =>
          exact ⟨[], (List.append_nil _).symm⟩
      | some reaction =>
          exact inductionHypothesis _
  | poll rest inductionHypothesis =>
      exact inductionHypothesis _ _
  | flush rest inductionHypothesis =>
      rw [exec]
      split
      · exact inductionHypothesis _
      · exact ⟨[], (List.append_nil _).symm⟩
  | ask query rest inductionHypothesis =>
      exact inductionHypothesis _ _
  | note event rest inductionHypothesis =>
      obtain ⟨added, extended⟩ := inductionHypothesis (port.noted event)
      refine ⟨⟨event, port.read, port.written⟩ :: added, ?_⟩
      rw [exec, extended]
      simp [Port.noted]

/-- The notes of the first part come first. -/
theorem exec_bind_log
    (program : Prog S α)
    (next : α → Prog S β)
    (port : Port S ε) :
    ∃ added,
      (exec world (program >>= next) port).2.log =
        (exec world program port).2.log ++ added := by
  rw [exec_bind]
  rcases exec world program port with ⟨_ | value, after⟩
  · exact ⟨[], (List.append_nil _).symm⟩
  · exact exec_log world (next value) after

variable {world}

/-- A first part that finishes hands its result to the second part. -/
theorem exec_bind_of_done
    {program : Prog S α}
    {next : α → Prog S β}
    {port after : Port S ε}
    {value : α}
    (finished : exec world program port = (some value, after)) :
    exec world (program >>= next) port =
      exec world (next value) after := by
  rw [exec_bind, finished]

/-- A first part that waits for ever makes the sequence wait for ever. -/
theorem exec_bind_of_stuck
    {program : Prog S α}
    {next : α → Prog S β}
    {port after : Port S ε}
    (stuck : exec world program port = (none, after)) :
    exec world (program >>= next) port = (none, after) := by
  rw [exec_bind, stuck]

/-- A read of delivered bytes takes them off the line. -/
theorem exec_receive
    {offset count : Nat}
    {port : Port S ε}
    (delivered : count ≤ port.input.length) :
    exec world (Prog.receive offset count) port =
      (some (port.input.take count), port.received offset count) := by
  simp [Prog.receive, exec, delivered]

/-- A read of bytes that are not delivered waits for ever. -/
theorem exec_receive_stuck
    {offset count : Nat}
    {port : Port S ε}
    (missing : port.input.length < count) :
    exec world (Prog.receive offset count) port =
      (none, port.waiting offset count) := by
  simp [Prog.receive, exec, Nat.not_le.mpr missing]

/-- A buffer handed to the line brings the other side's reaction back. -/
theorem exec_transmit
    {bytes back : List UInt8}
    {env : ε}
    {port : Port S ε}
    (reacted : world.react bytes port.env = some (back, env)) :
    exec world (Prog.transmit bytes) port =
      (some (), port.transmitted bytes back env) := by
  simp [Prog.transmit, exec, reacted]

@[simp] theorem exec_pending
    (port : Port S ε) :
    exec world Prog.pending port =
      (some (world.expecting || !port.input.isEmpty), port) :=
  rfl

/-- Throwing away the delivered bytes leaves none. -/
theorem exec_discard
    {port : Port S ε}
    (flushable : world.flushable = true) :
    exec world Prog.discard port = (some (), port.flushed) := by
  simp [Prog.discard, exec, flushable]

@[simp] theorem exec_query
    (asked : S.Query)
    (port : Port S ε) :
    exec world (Prog.query asked) port =
      (some (world.answer asked port.env).1,
        port.withEnv (world.answer asked port.env).2) :=
  rfl

@[simp] theorem exec_record
    (event : S.Note)
    (port : Port S ε) :
    exec world (Prog.record event) port =
      (some (), port.noted event) :=
  rfl

end Execution

end Ammc.Serial
