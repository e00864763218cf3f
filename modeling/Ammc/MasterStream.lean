import Ammc.MasterServe

namespace Ammc.Master

open ByteMemory Serial Packet

/-!
# A stream of packets in the master

The handler is run on the bytes of any number of complete packets.  What it
should do is read each packet from its first byte on and answer it once.  It
does so as long as every packet carries the id that is expected at its turn:
the header check refuses any other packet without reading on.
-/

/-- The bytes of consecutive packets. -/
def streamBytes (frames : List Frame) : List UInt8 :=
  frames.flatMap fun frame => frame.bytes

/-- Where in the two streams the handler began to read a packet. -/
def receivings (log : List (Entry signature)) : List (Nat × Nat) :=
  log.filterMap fun entry =>
    if entry.event = .receiving then
      some (entry.read, entry.written)
    else
      none

/-- A buffer that holds an `ACK` or a `NAK` packet. -/
def isReply (buffer : List UInt8) : Bool :=
  buffer[1]? = some ComType.ack.code ∨
    buffer[1]? = some ComType.nak.code

/--
From the given positions of the two streams on, the handler begins to read at
the first byte of every packet, and hands exactly one reply to the line before
it begins to read the next packet.
-/
inductive AnsweredInOrder :
    Nat → Nat → List Frame → List (Nat × Nat) →
      List (List UInt8) → Prop where
  | nil (read written : Nat) :
      AnsweredInOrder read written [] [] []
  | cons
      {read written : Nat}
      {frame : Frame}
      {frames : List Frame}
      {starts : List (Nat × Nat)}
      {answer sent : List (List UInt8)}
      (once : (answer.filter isReply).length = 1)
      (later :
        AnsweredInOrder (read + frame.bytes.length)
          (written + answer.flatten.length) frames starts sent) :
      AnsweredInOrder read written (frame :: frames)
        ((read, written) :: starts) (answer ++ sent)

/-- Every packet carries the id that is expected once its turn has come. -/
def Expected : UInt8 → List Frame → Prop
  | _, [] => True
  | globalId, frame :: frames =>
      frame.Admitted globalId ∧ Expected (frame.nextId globalId) frames

/-- The positions of the first bytes of consecutive packets. -/
def boundaries : Nat → List Frame → List Nat
  | _, [] => []
  | read, frame :: frames =>
      read :: boundaries (read + frame.bytes.length) frames

theorem AnsweredInOrder.starts_eq
    {read written : Nat}
    {frames : List Frame}
    {starts : List (Nat × Nat)}
    {sent : List (List UInt8)}
    (answered : AnsweredInOrder read written frames starts sent) :
    starts.map Prod.fst = boundaries read frames := by
  induction answered with
  | nil read written =>
      rfl
  | cons once later inductionHypothesis =>
      rw [List.map_cons, inductionHypothesis, boundaries]

/-- Four bytes into a packet no other packet begins. -/
theorem boundaries_ne_of_inside
    (frame : Frame)
    (frames : List Frame)
    (read : Nat)
    (more : List Nat) :
    boundaries (read + frame.bytes.length) frames ≠
      (read + 4) :: more := by
  intro same
  have nonempty := List.length_pos_iff.mpr frame.closed
  cases frames with
  | nil =>
      cases same
  | cons next frames =>
      have sameStart := (List.cons.inj same).1
      rw [frame.length_bytes] at sameStart
      omega

/-- A `DAT` packet is not a reply. -/
theorem filter_isReply_datFrames
    (globalId : UInt8)
    (reply : Option (UInt8 × List UInt8)) :
    (datFrames globalId reply).filter isReply = [] := by
  cases reply with
  | none =>
      rfl
  | some content =>
      rw [datFrames, framed]
      split
      · rfl
      · rfl

/-- An admitted packet is answered by one reply. -/
theorem served_once
    (packet : Datagram)
    (bus : Bus ε)
    (globalId : UInt8)
    (rx : Memory)
    (env : ε) :
    ((packet.served bus globalId rx env).1.filter isReply).length = 1 := by
  by_cases accepted : packet.verdict = .success
  · have isAck :
        isReply (packetImage (packet.ackId globalId)
          ComType.ack.code 0 []) = true :=
      rfl
    rw [Datagram.served, if_pos accepted, List.filter_cons_of_pos isAck,
      filter_isReply_datFrames]
    rfl
  · rw [Datagram.served, if_neg accepted]
    rfl

section Streams

variable {ε : Type}
variable (bus : Bus ε)

/-- Serving a packet adds its beginning to the recorded ones. -/
theorem receivings_portAfter
    (packet : Datagram)
    (globalId : UInt8)
    (rx : Memory)
    (tail : List UInt8)
    (port : Port signature ε) :
    receivings (packet.portAfter bus globalId rx tail port).log =
      receivings port.log ++ [(port.read, port.written)] := by
  simp [receivings, Datagram.portAfter, List.filterMap_append]

/-- Packets with the expected ids are answered one after the other. -/
theorem exec_expected
    (frames : List Frame)
    {globalId : UInt8}
    (rx : Memory)
    (port : Port signature ε)
    (input : port.input = streamBytes frames)
    (expected : Expected globalId frames)
    {turns : Nat}
    (enough : 4 * frames.length < turns)
    (performed : Bool) :
    ∃ result after starts sent,
      exec bus.world
          (communicationHandler turns performed
            ⟨globalId, .receiving, rx⟩) port =
        (some (some result), after) ∧
      receivings after.log = receivings port.log ++ starts ∧
      after.sent = port.sent ++ sent ∧
      AnsweredInOrder port.read port.written frames starts sent := by
  induction frames generalizing globalId rx port turns performed with
  | nil =>
      obtain ⟨left, rfl⟩ : ∃ left, turns = left + 1 :=
        ⟨turns - 1, by omega⟩
      exact ⟨_, _, [], [],
        exec_communicationHandler_returned bus _ _ input left performed,
        (List.append_nil _).symm, (List.append_nil _).symm,
        .nil _ _⟩
  | cons frame frames inductionHypothesis =>
      obtain ⟨admitted, laterExpected⟩ := expected
      have head : port.input = frame.bytes ++ streamBytes frames :=
        input
      obtain ⟨used, few, served⟩ :=
        exec_serve bus frame rx port head admitted
      rw [List.length_cons] at enough
      obtain ⟨left, rfl⟩ : ∃ left, turns = left + used :=
        ⟨turns - used, by omega⟩
      have leftEnough : 4 * frames.length < left := by
        omega
      obtain ⟨result, after, starts, sent, finished, recorded,
          transmitted, answered⟩ :=
        inductionHypothesis (frame.landed rx)
          (frame.portAfter bus globalId rx (streamBytes frames) port)
          rfl laterExpected leftEnough true
      refine ⟨result, after, (port.read, port.written) :: starts,
        (frame.served bus globalId rx port.env).1 ++ sent,
        (served left performed).trans finished, ?_, ?_, ?_⟩
      · rw [recorded, receivings_portAfter]
        simp
      · rw [transmitted]
        simp [Datagram.portAfter]
      · exact .cons (served_once frame.toDatagram bus globalId rx port.env) answered

/-- A packet with another id is refused after its header. -/
theorem exec_refuse
    (frame : Frame)
    {globalId : UInt8}
    (rx : Memory)
    {tail : List UInt8}
    (port : Port signature ε)
    (input : port.input = frame.bytes ++ tail)
    (refused : ¬ frame.Admitted globalId)
    (turns : Nat)
    (performed : Bool) :
    ∃ after : Port signature ε,
      exec bus.world
          (communicationHandler (turns + 2) performed
            ⟨globalId, .receiving, rx⟩) port =
        exec bus.world
          (communicationHandler turns true
            ⟨0, .receiving, frame.withHeader rx⟩) after ∧
      after.input = frame.rest ++ tail ∧
      after.read = port.read + 4 ∧
      receivings after.log =
        receivings port.log ++ [(port.read, port.written)] := by
  have pending : port.input ≠ [] := by
    rw [input]
    exact List.cons_ne_nil _ _
  have turned :=
    exec_turn_of_recv pending
      (exec_communicationRecv_datagram_refused bus.world rx
        frame.toDatagram (port.noted .receiving) input refused)
  rw [if_pos (by decide)] at turned
  refine
    ⟨sentPort
      (((port.noted .receiving).received 0 4).noted
        (.received .idMismatch))
      [packetImage globalId ComType.nak.code
        ComError.idMismatch.code []] port.env,
      ?_, ?_, rfl, ?_⟩
  · rw [exec_communicationHandler_again turned,
      exec_communicationHandler_again (exec_nak bus globalId _ _ _)]
    simp only [decide_true, Bool.or_true, Bool.true_or]
    rfl
  · simp [sentPort, Port.noted, Port.received, input, Datagram.bytes,
      Datagram.header]
  · simp [sentPort, Port.noted, Port.received, receivings,
      List.filterMap_append]

/-- While bytes are left, the next turn begins to read at the next one. -/
theorem receivings_of_pending
    (globalId : UInt8)
    (rx : Memory)
    (port : Port signature ε)
    (pending : port.input ≠ [])
    (turns : Nat)
    (performed : Bool) :
    ∃ more,
      receivings
          (exec bus.world
            (communicationHandler (turns + 1) performed
              ⟨globalId, .receiving, rx⟩) port).2.log =
        receivings port.log ++ (port.read, port.written) :: more := by
  have delivered : port.input.isEmpty = false := by
    simpa using pending
  have begun :
      ∃ added,
        (exec bus.world
            (communicationHandlerTurn ⟨globalId, .receiving, rx⟩)
            port).2.log =
          (port.noted .receiving).log ++ added := by
    simp only [communicationHandlerTurn, serialRxAvailable]
    rw [exec_bind_of_done (exec_pending port), delivered]
    exact exec_log bus.world _ (port.noted .receiving)
  obtain ⟨added, turned⟩ := begun
  have continued :
      ∃ later,
        (exec bus.world
            (communicationHandler (turns + 1) performed
              ⟨globalId, .receiving, rx⟩) port).2.log =
          (exec bus.world
              (communicationHandlerTurn ⟨globalId, .receiving, rx⟩)
              port).2.log ++ later := by
    rw [communicationHandler]
    exact exec_bind_log bus.world _ _ port
  obtain ⟨later, extended⟩ := continued
  have whole :
      (exec bus.world
          (communicationHandler (turns + 1) performed
            ⟨globalId, .receiving, rx⟩) port).2.log =
        port.log ++ [⟨.receiving, port.read, port.written⟩] ++
          (added ++ later) := by
    rw [extended, turned, ← List.append_assoc]
    rfl
  refine ⟨receivings (added ++ later), ?_⟩
  rw [whole]
  simp [receivings, List.filterMap_append]

/--
When the handler begins to read at the first byte of every packet and nowhere
else, no packet has been refused for its id.
-/
theorem expected_of_boundaries
    (frames : List Frame)
    {globalId : UInt8}
    (rx : Memory)
    (port : Port signature ε)
    (input : port.input = streamBytes frames)
    {turns : Nat}
    (enough : 4 * frames.length < turns)
    (performed : Bool)
    {starts : List (Nat × Nat)}
    (recorded :
      receivings
          (exec bus.world
            (communicationHandler turns performed
              ⟨globalId, .receiving, rx⟩) port).2.log =
        receivings port.log ++ starts)
    (aligned : starts.map Prod.fst = boundaries port.read frames) :
    Expected globalId frames := by
  induction frames generalizing globalId rx port turns performed starts with
  | nil =>
      trivial
  | cons frame frames inductionHypothesis =>
      rw [List.length_cons] at enough
      have head : port.input = frame.bytes ++ streamBytes frames :=
        input
      by_cases admitted : frame.Admitted globalId
      · refine ⟨admitted, ?_⟩
        obtain ⟨used, few, served⟩ :=
          exec_serve bus frame rx port head admitted
        obtain ⟨left, rfl⟩ : ∃ left, turns = left + used :=
          ⟨turns - used, by omega⟩
        have leftEnough : 4 * frames.length < left := by
          omega
        obtain ⟨added, extended⟩ :=
          exec_log bus.world
            (communicationHandler left true
              (frame.handlerAfter globalId rx))
            (frame.portAfter bus globalId rx (streamBytes frames) port)
        have later :
            receivings
                (exec bus.world
                  (communicationHandler left true
                    (frame.handlerAfter globalId rx))
                  (frame.portAfter bus globalId rx (streamBytes frames)
                    port)).2.log =
              receivings
                  (frame.portAfter bus globalId rx (streamBytes frames)
                    port).log ++
                receivings added := by
          rw [extended, receivings, List.filterMap_append]
          rfl
        rw [served left performed, later, receivings_portAfter,
          List.append_assoc] at recorded
        have exposed := List.append_cancel_left recorded
        rw [← exposed] at aligned
        exact
          inductionHypothesis (frame.landed rx)
            (frame.portAfter bus globalId rx (streamBytes frames) port)
            rfl leftEnough true later (List.cons.inj aligned).2
      · exfalso
        obtain ⟨left, rfl⟩ : ∃ left, turns = left + 1 + 2 :=
          ⟨turns - 3, by omega⟩
        obtain ⟨after, refused, afterInput, afterRead, afterLog⟩ :=
          exec_refuse bus frame rx port head admitted (left + 1) performed
        have pending : after.input ≠ [] := by
          rw [afterInput]
          simp [frame.closed]
        obtain ⟨more, misplaced⟩ :=
          receivings_of_pending bus 0 (frame.withHeader rx) after pending
            left true
        rw [refused, misplaced, afterLog, List.append_assoc] at recorded
        have exposed := List.append_cancel_left recorded
        rw [← exposed, afterRead] at aligned
        exact boundaries_ne_of_inside frame frames port.read _
          (List.cons.inj aligned).2.symm

end Streams

/-- The handler run on a stream, with turns enough to read every byte of it. -/
def handleStream
    (bus : Bus ε)
    (globalId : UInt8)
    (rx : Memory)
    (env : ε)
    (frames : List Frame)
    (spare : Nat) : Option (Option (Bool × Handler)) × Port signature ε :=
  exec bus.world
    (communicationHandler ((streamBytes frames).length + 1 + spare) false
      ⟨globalId, .receiving, rx⟩)
    (Port.start (streamBytes frames) env)

/--
The handler takes the stream apart into its packets: it returns, and it has
read every packet from its first byte on and answered it once, in order.
-/
def StreamAnswered
    (bus : Bus ε)
    (globalId : UInt8)
    (rx : Memory)
    (env : ε)
    (frames : List Frame)
    (spare : Nat) : Prop :=
  (∃ result,
    (handleStream bus globalId rx env frames spare).1 =
      some (some result)) ∧
  AnsweredInOrder 0 0 frames
    (receivings (handleStream bus globalId rx env frames spare).2.log)
    (handleStream bus globalId rx env frames spare).2.sent

theorem length_streamBytes (frames : List Frame) :
    5 * frames.length ≤ (streamBytes frames).length := by
  induction frames with
  | nil =>
      exact Nat.zero_le _
  | cons frame frames inductionHypothesis =>
      have nonempty := List.length_pos_iff.mpr frame.closed
      have split :
          (streamBytes (frame :: frames)).length =
            frame.bytes.length + (streamBytes frames).length := by
        simp [streamBytes]
      rw [split, frame.length_bytes, List.length_cons]
      omega

/--
The handler takes a stream of complete packets apart correctly exactly when
every packet carries the id that is expected once its turn has come.
-/
theorem streamAnswered_iff
    (bus : Bus ε)
    (globalId : UInt8)
    (rx : Memory)
    (env : ε)
    (frames : List Frame)
    (spare : Nat) :
    StreamAnswered bus globalId rx env frames spare ↔
      Expected globalId frames := by
  have bytesBound := length_streamBytes frames
  have enough :
      4 * frames.length < (streamBytes frames).length + 1 + spare := by
    omega
  constructor
  · rintro ⟨_, answered⟩
    exact expected_of_boundaries bus frames rx
      (Port.start (streamBytes frames) env) rfl enough false
      rfl answered.starts_eq
  · intro expected
    obtain ⟨result, after, starts, sent, finished, recorded,
        transmitted, answered⟩ :=
      exec_expected bus frames rx
        (Port.start (streamBytes frames) env) rfl expected enough false
    have run :
        handleStream bus globalId rx env frames spare =
          (some (some result), after) :=
      finished
    rw [StreamAnswered, run]
    refine ⟨⟨result, rfl⟩, ?_⟩
    rw [recorded, transmitted]
    exact answered

/-- An acknowledgement that comes with id 7. -/
def strayAck : Frame where
  id := 7
  type := ComType.ack.code
  selector := 0
  rest := [0]
  fits := by decide
  closed := by decide

/--
A master that expects id 0 refuses one packet with id 7 after four of its five
bytes and begins to read the next packet at the fifth.
-/
theorem strayAck_not_consumed :
    ¬ StreamAnswered idleBus 0 (fun _ => 0) () [strayAck] 0 := by
  rintro ⟨_, answered⟩
  have starts := answered.starts_eq
  revert starts
  decide

end Ammc.Master
