import Ammc.ClientReceive

namespace Ammc.Client

open ByteMemory Serial Packet

/-!
# Memory touched by the client's receive attempts

`_recv_attempt` trusts the size field of a header with the expected id: it
subtracts the header size from it without a lower bound and runs the checksum
over as many bytes as it says without an upper bound.
-/

/-- All reads store, and all checksums look, inside the packet object. -/
structure Confined (port : Port signature ε) : Prop where
  reads : port.RequestsInside packetSize
  checks :
    ∀ entry ∈ port.log, ∀ count,
      entry.event = .checked count → count ≤ packetSize

/--
The first header that arrives, if it carries the expected id, announces between
4 and 37 bytes.
-/
def SizeInside
    (globalId : UInt8)
    (arrived : List UInt8) : Prop :=
  ∀ id type selector size rest,
    arrived = id :: type :: selector :: size :: rest →
      id = globalId →
      4 ≤ size ∧ size.toNat ≤ packetSize

/-- The size condition, on the packet object that the header is stored in. -/
theorem sizeInside_iff
    {globalId : UInt8}
    {p : Memory}
    {arrived : List UInt8}
    (delivered : headerSize ≤ arrived.length)
    (sameId : packetGetId (headed p arrived) = globalId) :
    SizeInside globalId arrived ↔
      4 ≤ packetGetSize (headed p arrived) ∧
        (packetGetSize (headed p arrived)).toNat ≤ packetSize := by
  obtain ⟨id, type, selector, size, rest, rfl⟩ :=
    exists_header delivered
  constructor
  · intro inside
    exact inside id type selector size rest rfl sameId
  · rintro inside _ _ _ _ _ same _
    cases same
    exact inside

/-- A header that does not arrive, or has another id, says nothing. -/
theorem sizeInside_of_not_expected
    {globalId : UInt8}
    {p : Memory}
    {arrived : List UInt8}
    (unexpected :
      headerSize ≤ arrived.length →
        packetGetId (headed p arrived) ≠ globalId) :
    SizeInside globalId arrived := by
  rintro id type selector size rest rfl sameId
  exact absurd sameId (unexpected (by simp [headerSize]))

/-- The wrapped byte count stays behind the header for sizes from 4 to 37. -/
theorem bodyCount_inside_iff (size : UInt8) :
    headerSize + bodyCount size ≤ packetSize ↔
      4 ≤ size ∧ size.toNat ≤ packetSize := by
  have sizeLimit := size.toNat_lt
  simp only [bodyCount, headerSize, packetSize, bodyMaxLen, crcSize,
    UInt8.le_iff_toNat_le, UInt8.reduceToNat]
  omega

namespace Confined

variable {ε : Type}

/-- Only the requests and the notes matter. -/
theorem of_same
    {first second : Port signature ε}
    (requests : first.requests = second.requests)
    (log : first.log = second.log) :
    Confined first ↔ Confined second := by
  constructor
  · rintro ⟨reads, checks⟩
    exact ⟨by rwa [Port.RequestsInside, ← requests], by rwa [← log]⟩
  · rintro ⟨reads, checks⟩
    exact ⟨by rwa [Port.RequestsInside, requests], by rwa [log]⟩

/-- At the start of a run nothing has been touched. -/
theorem start
    (input : List UInt8)
    (env : ε) :
    Confined (Port.start input env) where
  reads _ member := by
    simp [Port.start] at member
  checks _ member := by
    simp [Port.start] at member

/-- A further read has to stay inside as well. -/
theorem received_iff
    (port : Port signature ε)
    (offset count : Nat) :
    Confined (port.received offset count) ↔
      Confined port ∧ offset + count ≤ packetSize := by
  constructor
  · rintro ⟨reads, checks⟩
    exact ⟨⟨fun request member => reads request (by simp [Port.received, member]),
      checks⟩, reads (offset, count) (by simp [Port.received])⟩
  · rintro ⟨⟨reads, checks⟩, inside⟩
    refine ⟨fun request member => ?_, checks⟩
    rcases List.mem_append.mp member with earlier | now
    · exact reads request earlier
    · rw [List.mem_singleton.mp now]
      exact inside

/-- A read that blocks has been requested all the same. -/
theorem waiting_iff
    (port : Port signature ε)
    (offset count : Nat) :
    Confined (port.waiting offset count) ↔
      Confined port ∧ offset + count ≤ packetSize := by
  rw [← received_iff]
  exact of_same rfl rfl

/-- A checksum over `count` bytes has to stay inside. -/
theorem noted_checked_iff
    (port : Port signature ε)
    (count : Nat) :
    Confined (port.noted (.checked count)) ↔
      Confined port ∧ count ≤ packetSize := by
  constructor
  · rintro ⟨reads, checks⟩
    exact ⟨⟨reads, fun entry member => checks entry (by simp [Port.noted, member])⟩,
      checks ⟨.checked count, port.read, port.written⟩
        (by simp [Port.noted]) count rfl⟩
  · rintro ⟨⟨reads, checks⟩, inside⟩
    refine ⟨reads, fun entry member looked same => ?_⟩
    rcases List.mem_append.mp member with earlier | now
    · exact checks entry earlier looked same
    · rw [List.mem_singleton.mp now] at same
      cases same
      exact inside

/-- Other notes touch no memory. -/
theorem noted_iff
    (port : Port signature ε)
    {event : Note}
    (other : ∀ count, event ≠ .checked count) :
    Confined (port.noted event) ↔ Confined port := by
  constructor
  · rintro ⟨reads, checks⟩
    exact ⟨reads, fun entry member =>
      checks entry (by simp [Port.noted, member])⟩
  · rintro ⟨reads, checks⟩
    refine ⟨reads, fun entry member looked same => ?_⟩
    rcases List.mem_append.mp member with earlier | now
    · exact checks entry earlier looked same
    · rw [List.mem_singleton.mp now] at same
      exact absurd same (other looked)

/-- Transmitting touches no memory. -/
theorem transmitted_iff
    (port : Port signature ε)
    (bytes back : List UInt8)
    (env : ε) :
    Confined (port.transmitted bytes back env) ↔ Confined port :=
  of_same rfl rfl

/-- Throwing delivered bytes away touches no memory. -/
theorem flushed_iff (port : Port signature ε) :
    Confined port.flushed ↔ Confined port :=
  of_same rfl rfl

end Confined

section Attempts

variable {ε : Type}
variable {world : World signature ε}
variable {fd : Int}

/-- The size field survives the read behind the header. -/
theorem packetGetSize_filled
    (p : Memory)
    (input : List UInt8) :
    packetGetSize (filled p input) = packetGetSize (headed p input) := by
  rw [packetGetSize, filled, Memory.store_before _ _ (by decide)]
  rfl

/-- One receive attempt stays inside exactly when the size field does. -/
theorem recvAttempt_confined_iff
    (connected : Connected world fd)
    (globalId : UInt8)
    (p : Memory)
    {port : Port signature ε}
    (confined : Confined port) :
    Confined (exec world (recvAttempt globalId fd p) port).2 ↔
      SizeInside globalId port.input := by
  have headerRead : Confined (port.received 0 headerSize) :=
    (Confined.received_iff port 0 headerSize).mpr
      ⟨confined, by decide⟩
  by_cases delivered : headerSize ≤ port.input.length
  · by_cases sameId : packetGetId (headed p port.input) = globalId
    · rw [sizeInside_iff delivered sameId]
      by_cases arrived :
          bodyCount (packetGetSize (headed p port.input)) ≤
            port.input.length - headerSize
      · rw [exec_recvAttempt_whole connected port delivered sameId
          arrived]
        rw [Confined.noted_checked_iff, Confined.received_iff,
          bodyCount_inside_iff, packetGetSize_filled]
        simp only [headerRead, true_and, and_iff_left_iff_imp]
        exact And.right
      · rw [exec_recvAttempt_stuck connected port delivered sameId
          (Nat.not_le.mp arrived)]
        rw [Confined.waiting_iff, bodyCount_inside_iff]
        simp only [headerRead, true_and]
    · rw [exec_recvAttempt_mismatch connected port delivered sameId]
      exact iff_of_true headerRead
        (sizeInside_of_not_expected fun _ => sameId)
  · rw [exec_recvAttempt_short connected globalId p port
      (Nat.not_le.mp delivered)]
    exact iff_of_true
      ((Confined.waiting_iff port 0 headerSize).mpr
        ⟨confined, by decide⟩)
      (sizeInside_of_not_expected (p := p) fun whole =>
        absurd whole delivered)

/-- What `communication_send` does after its attempt touches no memory. -/
theorem communicationSend_confined_iff
    (connected : Connected world fd)
    (globalId : UInt8)
    {p : Memory}
    (sendable : Sendable p)
    {port : Port signature ε}
    (confined : Confined port)
    {back : List UInt8}
    {env : ε}
    (reacted :
      world.react (p.bytes 0 (packetGetSize p).toNat) port.env =
        some (back, env)) :
    Confined (exec world (communicationSend globalId fd p) port).2 ↔
      SizeInside globalId back := by
  have before :
      Confined (transmittedPacket port
        (p.bytes 0 (packetGetSize p).toNat) back env) := by
    rw [transmittedPacket, Confined.transmitted_iff,
      Confined.noted_iff _ (by rintro _ ⟨⟩), Confined.flushed_iff]
    exact confined
  have arrived :
      (transmittedPacket port
        (p.bytes 0 (packetGetSize p).toNat) back env).input = back :=
    rfl
  have attempt :=
    recvAttempt_confined_iff connected globalId
      (garbage world env) before
  rw [arrived] at attempt
  rw [exec_communicationSend connected globalId sendable port reacted,
    ← attempt]
  rcases exec world (recvAttempt globalId fd (garbage world env))
      (transmittedPacket port
        (p.bytes 0 (packetGetSize p).toNat) back env) with
    ⟨_ | attempt, after⟩
  · exact Iff.rfl
  · change Confined ((after.noted _).noted _) ↔ Confined after
    rw [Confined.noted_iff _ (by rintro _ ⟨⟩),
      Confined.noted_iff _ (by rintro _ ⟨⟩)]

/-- What `communication_recv` does after its attempt touches no memory. -/
theorem communicationRecv_confined_iff
    (connected : Connected world fd)
    (reacts :
      ∀ bytes env, ∃ back next,
        world.react bytes env = some (back, next))
    (globalId : UInt8)
    (p : Memory)
    {port : Port signature ε}
    (confined : Confined port) :
    Confined (exec world (communicationRecv globalId fd p) port).2 ↔
      SizeInside globalId port.input := by
  rw [← recvAttempt_confined_iff connected globalId p confined]
  rcases attempted : exec world (recvAttempt globalId fd p) port with
    ⟨_ | attempt, after⟩
  · rw [exec_communicationRecv_stuck connected attempted]
  · obtain ⟨back, next, reacted⟩ := reacts (recvReply attempt) after.env
    rw [exec_communicationRecv connected attempted reacted,
      Confined.transmitted_iff, Confined.noted_iff _ (by rintro _ ⟨⟩)]

end Attempts

/--
A device that answers every transmitted packet with the same bytes, and a stack
that leaves `contents` in uninitialised variables.
-/
def deviceWorld
    (contents : Memory)
    (arrived : List UInt8) : World signature Unit where
  answer query env :=
    match query with
    | .isatty _ => (true, env)
    | .openDevice _ => (3, env)
    | .close _ => (0, env)
    | .uninitialised => (contents, env)
  react _ env := some (arrived, env)
  expecting := false
  flushable := true

theorem deviceWorld_connected
    (contents : Memory)
    (arrived : List UInt8)
    (fd : Descriptor) :
    Connected (deviceWorld contents arrived) fd.number where
  above := fd.above
  tty _ := rfl
  uninitialised _ := rfl
  flushable := rfl

/--
Whatever bytes the device sends, waiting for a packet in `communication_send`
and in `communication_recv` stays inside the packet object exactly when the
first header with the expected id announces between 4 and 37 bytes.
-/
theorem recvAttempts_confined_iff
    (fd : Descriptor)
    (contents p : Memory)
    (globalId : UInt8)
    (stale arrived : List UInt8) :
    (Confined
        (exec (deviceWorld contents arrived)
          (communicationSend globalId fd.number p)
          (Port.start stale ())).2 ↔
      (Sendable p → SizeInside globalId arrived)) ∧
    (Confined
        (exec (deviceWorld contents [])
          (communicationRecv globalId fd.number p)
          (Port.start arrived ())).2 ↔
      SizeInside globalId arrived) := by
  constructor
  · by_cases sendable : Sendable p
    · rw [communicationSend_confined_iff
        (deviceWorld_connected contents arrived fd) globalId sendable
        (Confined.start stale ()) rfl]
      simp only [sendable, forall_const]
    · rw [exec_communicationSend_refused globalId sendable]
      exact iff_of_true (Confined.start stale ())
        fun admitted => absurd admitted sendable
  · exact communicationRecv_confined_iff
      (deviceWorld_connected contents [] fd)
      (fun _ _ => ⟨[], (), rfl⟩) globalId p
      (Confined.start arrived ())

/--
An acknowledgement header with size field 3 makes the client ask for 2^64 - 1
bytes behind the header.
-/
theorem shortSize_not_confined :
    ¬ Confined
      (exec (deviceWorld (fun _ => 0) [0, 2, 0, 3])
        (communicationSend 0 3 fun _ => 5)
        (Port.start [] ())).2 := by
  intro confined
  have requested :
      (4, 2 ^ 64 - 1) ∈
        (exec (deviceWorld (fun _ => 0) [0, 2, 0, 3])
          (communicationSend 0 3 fun _ => 5)
          (Port.start [] ())).2.requests := by
    decide
  exact absurd (confined.reads _ requested) (by decide)

end Ammc.Client
