import Ammc.Behaviours
import Ammc.DamagedPackets

namespace Ammc.Master

open ByteMemory Serial Packet

/-!
# The master on any bytes

Whatever arrives, the handler takes it apart from its first byte on: it refuses a
header, or reads a whole packet and judges it, and goes on behind it.  It makes
these attempts until nothing is left, until the rest of a packet is missing, or
until a header announces less than itself, for which the handler asks for bytes
beyond its packet object.
-/

/-- A stretch of bytes that the handler deals with at once. -/
inductive Attempt where
  | refused (id type selector size : UInt8)
  | taken (packet : Datagram)

/-- An accepted echo command that ends with its header. -/
def BareEcho (packet : Datagram) : Prop :=
  packet.verdict = .success ∧ packet.type = ComType.echo.code ∧
    packet.rest = []

instance (packet : Datagram) : Decidable (BareEcho packet) :=
  inferInstanceAs (Decidable (_ ∧ _))

/--
What is sent for it: `packet_craft` refuses a body of 255 bytes, and what
`serial_tx` is given has never been written.
-/
def unwritten
    (bus : Bus ε)
    (env : ε) : List (List UInt8) :=
  let p := bus.uninitialised env
  if packetGetSize p = 0 ∨ (packetGetSize p).toNat > txBufferSize then
    []
  else
    [p.bytes 0 (packetGetSize p).toNat]

namespace Attempt

/-- The bytes that are read. -/
def bytes : Attempt → List UInt8
  | .refused id type selector size => [id, type, selector, size]
  | .taken packet => packet.bytes

/-- The handler makes the attempt while it expects an id. -/
def Made
    (globalId : UInt8) : Attempt → Prop
  | .refused id type _ size => HeaderRefused globalId id type size
  | .taken packet => packet.Admitted globalId

/-- The result of the checks. -/
def verdict
    (globalId : UInt8) : Attempt → ComError
  | .refused id type _ _ =>
      if id ≠ globalId ∧ (type ≠ ComType.hnd.code ∨ id ≠ 0) then
        .idMismatch
      else
        .tooBig
  | .taken packet => packet.verdict

/-- `packet_global_id` afterwards. -/
def nextId
    (globalId : UInt8) : Attempt → UInt8
  | .refused _ _ _ _ => 0
  | .taken packet => packet.nextId globalId

/-- The packet object afterwards. -/
def stored
    (rx : Memory) : Attempt → Memory
  | .refused id type selector size => rx.store 0 [id, type, selector, size]
  | .taken packet => packet.landed rx

/-- The parts of the packet object that are written. -/
def requests : Attempt → List (Nat × Nat)
  | .refused _ _ _ _ => [(0, 4)]
  | .taken packet => [(0, 4), (headerSize, packet.rest.length)]

/-- What the handler sends, and what becomes of the bus. -/
def served
    (bus : Bus ε)
    (globalId : UInt8)
    (rx : Memory)
    (env : ε)
    (attempt : Attempt) : List (List UInt8) × ε :=
  match attempt with
  | .refused _ _ _ _ =>
      ([packetImage globalId ComType.nak.code
          (attempt.verdict globalId).code []],
        env)
  | .taken packet =>
      if BareEcho packet then
        (packetImage globalId ComType.ack.code 0 [] :: unwritten bus env,
          env)
      else
        packet.served bus globalId rx env

/-- The handler and its port after the attempt. -/
def after
    (bus : Bus ε)
    (state : Handler × Port signature ε)
    (attempt : Attempt) : Handler × Port signature ε :=
  let served :=
    attempt.served bus state.1.globalId state.1.rx state.2.env
  ({ globalId := attempt.nextId state.1.globalId
     state := .receiving
     rx := attempt.stored state.1.rx },
    { input := state.2.input.drop attempt.bytes.length
      sent := state.2.sent ++ served.1
      requests := state.2.requests ++ attempt.requests
      env := served.2
      read := state.2.read + attempt.bytes.length
      written := state.2.written + served.1.flatten.length
      log :=
        state.2.log ++
          [⟨.receiving, state.2.read, state.2.written⟩,
            ⟨.received (attempt.verdict state.1.globalId),
              state.2.read + attempt.bytes.length,
              state.2.written⟩] })

end Attempt

section Attempts

variable {ε : Type}
variable (bus : Bus ε)

/-- A refused header is answered by its error, and nothing more is read. -/
theorem exec_refusedHeader
    {globalId id type selector size : UInt8}
    (rx : Memory)
    {tail : List UInt8}
    (port : Port signature ε)
    (input : port.input = id :: type :: selector :: size :: tail)
    (refused : HeaderRefused globalId id type size)
    (turns : Nat)
    (performed : Bool) :
    exec bus.world
        (communicationHandler (turns + 2) performed
          ⟨globalId, .receiving, rx⟩) port =
      exec bus.world
        (communicationHandler turns true
          ((Attempt.refused id type selector size).after bus
            (⟨globalId, .receiving, rx⟩, port)).1)
        ((Attempt.refused id type selector size).after bus
          (⟨globalId, .receiving, rx⟩, port)).2 := by
  have pending : port.input ≠ [] := by
    rw [input]
    exact List.cons_ne_nil _ _
  have delivered : 4 ≤ (port.noted .receiving).input.length := by
    change 4 ≤ port.input.length
    rw [input]
    exact Nat.le_add_left 4 tail.length
  have result :
      packetHeaderSanity globalId
          (headed rx (port.noted .receiving).input) =
        (Attempt.refused id type selector size).verdict globalId := by
    change packetHeaderSanity globalId (headed rx port.input) = _
    rw [input]
    change
      (if id ≠ globalId ∧ (type ≠ ComType.hnd.code ∨ id ≠ 0) then
        ComError.idMismatch
      else if size.toNat > headerSize + bodyMaxLen + crcSize then
        ComError.tooBig
      else
        ComError.success) = _
    rw [Attempt.verdict]
    by_cases otherId :
        id ≠ globalId ∧ (type ≠ ComType.hnd.code ∨ id ≠ 0)
    · rw [if_pos otherId, if_pos otherId]
    · have large : size.toNat > packetSize :=
        refused.resolve_left otherId
      rw [if_neg otherId, if_neg otherId]
      exact if_pos large
  have insane :
      (Attempt.refused id type selector size).verdict globalId ≠
        .success := by
    rw [Attempt.verdict]
    split
    · decide
    · decide
  have turned :=
    exec_turn_of_recv pending
      (exec_communicationRecv_refused bus.world (port.noted .receiving)
        delivered (result.trans_ne insane))
  rw [result, if_pos insane] at turned
  rw [exec_communicationHandler_again turned,
    exec_communicationHandler_again (exec_nak bus globalId _ _ _)]
  have stored :
      headed rx (port.noted .receiving).input =
        rx.store 0 [id, type, selector, size] := by
    change headed rx port.input = _
    rw [input]
    rfl
  rw [stored]
  simp [Attempt.after, Attempt.served, Attempt.nextId, Attempt.stored,
    Attempt.requests, Attempt.bytes, sentPort, Port.noted, Port.received]

/-- A body that is too long leaves the packet as it was. -/
theorem exec_communicationSend_tooLong
    (globalId type selector : UInt8)
    {bodySize : UInt8}
    (tooLong : bodySize.toNat > bodyMaxLen)
    (body : Option Memory)
    (port : Port signature ε) :
    exec bus.world
        (communicationSend globalId type selector bodySize body) port =
      (some (), sentPort port (unwritten bus port.env) port.env) := by
  have crafted :
      (packetCraft (bus.uninitialised port.env) globalId type selector
          bodySize body).2 =
        bus.uninitialised port.env := by
    rw [packetCraft, craft, if_pos (Or.inl tooLong)]
  have program :
      exec bus.world
          (communicationSend globalId type selector bodySize body) port =
        exec bus.world
          (serialTx (bus.uninitialised port.env)
              (packetGetSize (bus.uninitialised port.env)) >>= fun _ =>
            pure ()) port := by
    change
      exec bus.world
          (serialTx
            (packetCraft (bus.uninitialised port.env) globalId type
              selector bodySize body).2
            (packetGetSize
              (packetCraft (bus.uninitialised port.env) globalId type
                selector bodySize body).2) >>= fun _ => pure ())
          port = _
    rw [crafted]
  rw [program, serialTx, unwritten]
  split
  · rw [sentPort_nil]
    rfl
  · change
      (some (),
        port.transmitted
          ((bus.uninitialised port.env).bytes 0
            (packetGetSize (bus.uninitialised port.env)).toNat)
          [] port.env) = _
    simp [sentPort, Port.transmitted]

/-- A turn in `STATE_EXECUTE` for a bare echo command. -/
theorem exec_execute_bareEcho
    {handler : Handler}
    (state : handler.state = .execute)
    (echo : packetGetType handler.rx = ComType.echo.code)
    (tooLong : (packetGetBodySize handler.rx).toNat > bodyMaxLen)
    (port : Port signature ε) :
    exec bus.world (communicationHandlerTurn handler) port =
      (some (.again { handler with state := .receiving }),
        sentPort port (unwritten bus port.env) port.env) := by
  obtain ⟨globalId, _, rx⟩ := handler
  cases state
  have registered :
      (comOperationTable[(packetGetType rx).toNat]?).join =
        some opEcho := by
    rw [echo]
    rfl
  have sent :=
    exec_communicationSend_tooLong bus globalId ComType.dat.code 0 tooLong
      (some (packetBody rx)) port
  simp only [communicationHandlerTurn, registered]
  exact exec_bind_of_done (exec_bind_of_done sent)

/-- A bare echo command is acknowledged, and then answered unwritten. -/
theorem exec_bareEcho
    {packet : Datagram}
    (bare : BareEcho packet)
    {globalId : UInt8}
    (rx : Memory)
    {tail : List UInt8}
    (port : Port signature ε)
    (input : port.input = packet.bytes ++ tail)
    (admitted : packet.Admitted globalId)
    (turns : Nat)
    (performed : Bool) :
    exec bus.world
        (communicationHandler (turns + 3) performed
          ⟨globalId, .receiving, rx⟩) port =
      exec bus.world
        (communicationHandler turns true
          ((Attempt.taken packet).after bus
            (⟨globalId, .receiving, rx⟩, port)).1)
        ((Attempt.taken packet).after bus
          (⟨globalId, .receiving, rx⟩, port)).2 := by
  obtain ⟨accepted, echo, nothing⟩ := bare
  have notHandshake : packet.type ≠ ComType.hnd.code := by
    rw [echo]
    decide
  have typeField : packetGetType (packet.landed rx) = packet.type :=
    packet.landed_header rx (by decide)
  have sizeField : packetGetSize (packet.landed rx) = packet.size :=
    packet.landed_header rx (by decide)
  have tooLong :
      (packetGetBodySize (packet.landed rx)).toNat > bodyMaxLen := by
    have size : packet.size = 4 := by
      rw [Datagram.size, nothing]
      rfl
    rw [packetGetBodySize, sizeField, size]
    decide
  have judged :=
    exec_receiving bus.world packet rx port input admitted
  rw [accepted, if_neg (not_not.mpr rfl), if_neg notHandshake] at judged
  have performs :=
    @exec_execute_bareEcho _ bus
      ⟨packetGlobalIdIncrement globalId, .execute, packet.landed rx⟩ rfl
      (typeField.trans echo) tooLong
      (sentPort (packet.portJudged port)
        [packetImage globalId ComType.ack.code 0 []] port.env)
  rw [exec_communicationHandler_again judged,
    exec_communicationHandler_again
      (exec_ack bus globalId (packet.landed rx) (packet.portJudged port))]
  refine (exec_communicationHandler_again performs turns _).trans ?_
  have isBare : BareEcho packet := ⟨accepted, echo, nothing⟩
  simp [Attempt.after, Attempt.served, Attempt.nextId, Attempt.stored,
    Attempt.requests, Attempt.bytes, Attempt.verdict, isBare,
    Datagram.nextId, Datagram.ackId, accepted, notHandshake,
    Datagram.portJudged, sentPort, Port.noted, Port.received, input,
    nothing, Datagram.bytes, Datagram.header, Nat.add_assoc]

/-- Every attempt takes a few turns of the loop. -/
theorem exec_attempt
    {globalId : UInt8}
    {attempt : Attempt}
    (made : attempt.Made globalId)
    (rx : Memory)
    {tail : List UInt8}
    (port : Port signature ε)
    (input : port.input = attempt.bytes ++ tail) :
    ∃ used ≤ 4, ∀ turns performed,
      exec bus.world
          (communicationHandler (turns + used) performed
            ⟨globalId, .receiving, rx⟩) port =
        exec bus.world
          (communicationHandler turns true
            (attempt.after bus (⟨globalId, .receiving, rx⟩, port)).1)
          (attempt.after bus (⟨globalId, .receiving, rx⟩, port)).2 := by
  cases attempt with
  | refused id type selector size =>
      exact
        ⟨2, by decide, fun turns performed =>
          exec_refusedHeader bus rx port input made turns performed⟩
  | taken packet =>
      by_cases bare : BareEcho packet
      · exact
          ⟨3, by decide, fun turns performed =>
            exec_bareEcho bus bare rx port input made turns performed⟩
      · have complete :
            packet.verdict = .success →
              packet.type = ComType.echo.code → packet.rest ≠ [] :=
          fun accepted echo nothing => bare ⟨accepted, echo, nothing⟩
        obtain ⟨used, few, served⟩ :=
          exec_serve_datagram bus packet complete rx port input made
        have same :
            packet.portAfter bus globalId rx tail port =
              ((Attempt.taken packet).after bus
                (⟨globalId, .receiving, rx⟩, port)).2 := by
          simp [Attempt.after, Attempt.served, Attempt.requests,
            Attempt.bytes, Attempt.verdict, bare, Datagram.portAfter,
            input]
        rw [same] at served
        exact ⟨used, few, served⟩

end Attempts

/-! ## All attempts -/

/-- How the handler ends, as far as it can be followed. -/
inductive Ending where
  | drained
  | waiting
  | overrun
  deriving DecidableEq

/-- The handler makes no further attempt on the bytes that are left. -/
inductive Stop (globalId : UInt8) : List UInt8 → Ending → Prop where
  | drained : Stop globalId [] .drained
  | header
      {left : List UInt8}
      (begun : left ≠ [])
      (few : left.length < 4) :
      Stop globalId left .waiting
  | body
      {id type selector size : UInt8}
      {left : List UInt8}
      (passed : ¬ HeaderRefused globalId id type size)
      (covers : 4 ≤ size.toNat)
      (missing : left.length < (size - 4).toNat) :
      Stop globalId (id :: type :: selector :: size :: left) .waiting
  | overrun
      {id type selector size : UInt8}
      {left : List UInt8}
      (passed : ¬ HeaderRefused globalId id type size)
      (announces : size.toNat < 4) :
      Stop globalId (id :: type :: selector :: size :: left) .overrun

/-- The attempts that the handler makes on some bytes, and what it leaves. -/
inductive Reads :
    UInt8 → List UInt8 → List Attempt → List UInt8 → Ending → Prop where
  | stop
      {globalId : UInt8}
      {left : List UInt8}
      {ending : Ending}
      (stop : Stop globalId left ending) :
      Reads globalId left [] left ending
  | attempt
      {globalId : UInt8}
      {attempt : Attempt}
      {tail left : List UInt8}
      {later : List Attempt}
      {ending : Ending}
      (made : attempt.Made globalId)
      (others : Reads (attempt.nextId globalId) tail later left ending) :
      Reads globalId (attempt.bytes ++ tail) (attempt :: later) left ending

theorem Attempt.four_le_length (attempt : Attempt) :
    4 ≤ attempt.bytes.length := by
  cases attempt with
  | refused id type selector size => exact Nat.le_refl 4
  | taken packet =>
      rw [Attempt.bytes, packet.length_bytes]
      exact Nat.le_add_left 4 _

/-- Any bytes can be read. -/
theorem exists_reads
    (globalId : UInt8)
    (bytes : List UInt8) :
    ∃ attempts left ending, Reads globalId bytes attempts left ending := by
  induction known : bytes.length using Nat.strong_induction_on
    generalizing globalId bytes with
  | _ count inductionHypothesis =>
      subst known
      rcases Nat.lt_or_ge bytes.length 4 with few | whole
      · by_cases begun : bytes = []
        · subst begun
          exact ⟨[], [], _, .stop .drained⟩
        · exact ⟨[], bytes, _, .stop (.header begun few)⟩
      obtain ⟨id, type, selector, size, rest, rfl⟩ := exists_header whole
      by_cases refused : HeaderRefused globalId id type size
      · have shorter : rest.length < rest.length + 4 :=
          Nat.lt_add_of_pos_right (by decide)
        obtain ⟨later, left, ending, others⟩ :=
          inductionHypothesis rest.length shorter 0 rest rfl
        have made :
            (Attempt.refused id type selector size).Made globalId :=
          refused
        exact ⟨_, left, ending, .attempt made others⟩
      rcases Nat.lt_or_ge size.toNat 4 with announces | covers
      · exact ⟨[], _, _, .stop (.overrun refused announces)⟩
      rcases Nat.lt_or_ge rest.length (size - 4).toNat with
        missing | arrived
      · exact ⟨[], _, _, .stop (.body refused covers missing)⟩
      obtain ⟨packet, tail, admitted, _, _, split⟩ :=
        @exists_datagram_of_covers globalId id type selector size rest
          refused covers arrived
      have shorter : tail.length < packet.bytes.length + tail.length :=
        Nat.lt_add_of_pos_left
          (Nat.lt_of_lt_of_le (by decide)
            (Attempt.taken packet).four_le_length)
      rw [split, List.length_append] at inductionHypothesis
      obtain ⟨later, left, ending, others⟩ :=
        inductionHypothesis tail.length shorter
          (packet.nextId globalId) tail rfl
      have made : (Attempt.taken packet).Made globalId :=
        admitted
      rw [split]
      exact ⟨_, left, ending, .attempt made others⟩

/-- The id that the handler expects after some attempts. -/
def idAfter
    (globalId : UInt8)
    (attempts : List Attempt) : UInt8 :=
  attempts.foldl (fun id attempt => attempt.nextId id) globalId

namespace Reads

variable {globalId : UInt8}
variable {bytes left : List UInt8}
variable {attempts : List Attempt}
variable {ending : Ending}

/-- What is read and what is left are all bytes. -/
theorem bytes_eq
    (reads : Reads globalId bytes attempts left ending) :
    bytes = attempts.flatMap Attempt.bytes ++ left := by
  induction reads with
  | stop stop => rfl
  | attempt made others inductionHypothesis =>
      rw [List.flatMap_cons, List.append_assoc, ← inductionHypothesis]

/-- Every attempt reads four bytes at least. -/
theorem length_attempts
    (reads : Reads globalId bytes attempts left ending) :
    4 * attempts.length ≤ bytes.length := by
  induction reads with
  | stop stop => exact Nat.zero_le _
  | @attempt _ attempt _ _ _ _ made others inductionHypothesis =>
      have some := attempt.four_le_length
      rw [List.length_cons, List.length_append]
      omega

/-- The handler behind the last attempt makes no further one. -/
theorem stop_of_reads
    (reads : Reads globalId bytes attempts left ending) :
    Stop (idAfter globalId attempts) left ending := by
  induction reads with
  | stop stop => exact stop
  | attempt made others inductionHypothesis => exact inductionHypothesis

end Reads

section Runs

variable {ε : Type}
variable (bus : Bus ε)

/-- The handler and its port after some attempts. -/
def carriedOut
    (state : Handler × Port signature ε)
    (attempts : List Attempt) : Handler × Port signature ε :=
  attempts.foldl (Attempt.after bus) state

theorem globalId_carriedOut
    (state : Handler × Port signature ε)
    (attempts : List Attempt) :
    (carriedOut bus state attempts).1.globalId =
      idAfter state.1.globalId attempts := by
  induction attempts generalizing state with
  | nil => rfl
  | cons attempt later inductionHypothesis =>
      exact inductionHypothesis (attempt.after bus state)

theorem state_carriedOut
    {state : Handler × Port signature ε}
    (waiting : state.1.state = .receiving)
    (attempts : List Attempt) :
    (carriedOut bus state attempts).1.state = .receiving := by
  induction attempts generalizing state with
  | nil => exact waiting
  | cons attempt later inductionHypothesis =>
      exact @inductionHypothesis (attempt.after bus state) rfl

/-- What the attempts leave is still to be read. -/
theorem Reads.input_carriedOut
    {globalId : UInt8}
    {bytes left : List UInt8}
    {attempts : List Attempt}
    {ending : Ending}
    (reads : Reads globalId bytes attempts left ending)
    {state : Handler × Port signature ε}
    (input : state.2.input = bytes) :
    (carriedOut bus state attempts).2.input = left := by
  induction reads generalizing state with
  | stop stop => exact input
  | @attempt _ attempt _ _ _ _ made others inductionHypothesis =>
      apply @inductionHypothesis (attempt.after bus state)
      rw [Attempt.after, input]
      exact List.drop_left

/-- The handler carries out all attempts, one after the other. -/
theorem Reads.exec_eq
    {globalId : UInt8}
    {bytes left : List UInt8}
    {attempts : List Attempt}
    {ending : Ending}
    (reads : Reads globalId bytes attempts left ending)
    (rx : Memory)
    (port : Port signature ε)
    (input : port.input = bytes) :
    ∃ used ≤ 4 * attempts.length, ∀ turns performed,
      exec bus.world
          (communicationHandler (turns + used) performed
            ⟨globalId, .receiving, rx⟩) port =
        exec bus.world
          (communicationHandler turns
            (performed || !attempts.isEmpty)
            (carriedOut bus (⟨globalId, .receiving, rx⟩, port)
              attempts).1)
          (carriedOut bus (⟨globalId, .receiving, rx⟩, port)
            attempts).2 := by
  induction reads generalizing rx port with
  | stop stop =>
      refine ⟨0, Nat.le_refl 0, fun turns performed => ?_⟩
      rw [List.isEmpty_nil, Bool.not_true, Bool.or_false]
      rfl
  | @attempt globalId attempt tail _ later _ made others
      inductionHypothesis =>
      obtain ⟨used, few, first⟩ := exec_attempt bus made rx port input
      have left :
          (attempt.after bus (⟨globalId, .receiving, rx⟩, port)).2.input =
            tail := by
        rw [Attempt.after, input]
        exact List.drop_left
      obtain ⟨usedLater, fewLater, rest⟩ :=
        inductionHypothesis (attempt.stored rx) _ left
      refine ⟨usedLater + used, ?_, fun turns performed => ?_⟩
      · rw [List.length_cons]
        exact Nat.add_le_add fewLater few
      · rw [← Nat.add_assoc, first, List.isEmpty_cons, Bool.not_false,
          Bool.or_true]
        exact rest turns true

/-! ## The end of a run -/

/-- A turn whose read blocks ends the run. -/
theorem exec_communicationHandler_stuck
    {world : World signature ε}
    {globalId : UInt8}
    {rx : Memory}
    {port after : Port signature ε}
    (pending : port.input ≠ [])
    (stuck :
      exec world (communicationRecv globalId rx)
          (port.noted .receiving) =
        (none, after))
    (turns : Nat)
    (performed : Bool) :
    exec world
        (communicationHandler (turns + 1) performed
          ⟨globalId, .receiving, rx⟩) port =
      (none, after) := by
  rw [communicationHandler,
    exec_bind_of_stuck (exec_turn_of_stuck pending stuck)]

/-- The handler has begun to read, and nothing else has happened. -/
structure Begun (before after : Port signature ε) : Prop where
  sent : after.sent = before.sent
  env : after.env = before.env
  log :
    after.log =
      before.log ++ [⟨.receiving, before.read, before.written⟩]

/-- It waits inside its packet object. -/
structure Waits (before after : Port signature ε) : Prop
    extends Begun before after where
  inside :
    before.RequestsInside packetSize → after.RequestsInside packetSize

/-- A read that fits keeps the requests inside. -/
theorem inside_append
    {requests added : List (Nat × Nat)}
    {size : Nat}
    (before : ∀ request ∈ requests, request.1 + request.2 ≤ size)
    (fits : ∀ request ∈ added, request.1 + request.2 ≤ size) :
    ∀ request ∈ requests ++ added, request.1 + request.2 ≤ size :=
  List.forall_mem_append.mpr ⟨before, fits⟩

/-- A handler that lacks bytes waits for them. -/
theorem exec_waiting
    {globalId : UInt8}
    {left : List UInt8}
    (stop : Stop globalId left .waiting)
    (rx : Memory)
    (port : Port signature ε)
    (input : port.input = left)
    (turns : Nat)
    (performed : Bool) :
    ∃ after,
      exec bus.world
          (communicationHandler (turns + 1) performed
            ⟨globalId, .receiving, rx⟩) port =
        (none, after) ∧
        Waits port after := by
  cases stop with
  | header begun few =>
      have pending : port.input ≠ [] := by
        rw [input]
        exact begun
      have short : (port.noted .receiving).input.length < 4 := by
        change port.input.length < 4
        rw [input]
        exact few
      exact
        ⟨_,
          exec_communicationHandler_stuck pending
            (exec_communicationRecv_short bus.world globalId rx _ short)
            turns performed,
          ⟨⟨rfl, rfl, rfl⟩, fun inside =>
            inside_append inside (by decide)⟩⟩
  | @body id type selector size rest passed covers missing =>
      have pending : port.input ≠ [] := by
        rw [input]
        exact List.cons_ne_nil _ _
      have delivered : 4 ≤ (port.noted .receiving).input.length := by
        change 4 ≤ port.input.length
        rw [input]
        exact Nat.le_add_left 4 rest.length
      have header :
          headed rx (port.noted .receiving).input =
            headed rx (id :: type :: selector :: size :: rest) :=
        congrArg (headed rx) input
      have request :
          bodyRequest (headed rx (port.noted .receiving).input) =
            (size - 4).toNat := by
        rw [header]
        rfl
      have stuck :=
        exec_communicationRecv_stuck bus.world (port.noted .receiving)
          delivered
          (by
            rw [header]
            exact
              (packetHeaderSanity_cons globalId rx id type selector size
                rest).mpr passed)
          (by
            rw [request]
            change port.input.length - 4 < (size - 4).toNat
            rw [input]
            exact missing)
      have bound : size.toNat ≤ packetSize :=
        Nat.not_lt.mp (not_or.mp passed).2
      have least : (4 : UInt8) ≤ size :=
        UInt8.le_iff_toNat_le.mpr covers
      have fits : headerSize + (size - 4).toNat ≤ packetSize := by
        rw [UInt8.toNat_sub_of_le _ _ least]
        simp only [headerSize, packetSize, bodyMaxLen, crcSize,
          UInt8.reduceToNat] at bound ⊢
        omega
      rw [request] at stuck
      refine
        ⟨_, exec_communicationHandler_stuck pending stuck turns performed,
          ⟨⟨rfl, rfl, rfl⟩, fun inside => ?_⟩⟩
      exact
        inside_append (inside_append inside (by decide))
          (List.forall_mem_singleton.mpr fits)

/-- A handler that asks for bytes beyond its packet object. -/
structure Overruns
    (before : Port signature ε)
    (result : Option (Option (Bool × Handler)) × Port signature ε) :
    Prop where
  outside : ¬ result.2.RequestsInside packetSize
  /-- It waits for them while there are not so many. -/
  waits :
    before.input.length < 256 → result.1 = none ∧ Begun before result.2

/-- A header that announces less than itself makes the handler read too far. -/
theorem exec_overrun
    {globalId : UInt8}
    {left : List UInt8}
    (stop : Stop globalId left .overrun)
    (rx : Memory)
    (port : Port signature ε)
    (input : port.input = left)
    (turns : Nat)
    (performed : Bool) :
    Overruns port
      (exec bus.world
        (communicationHandler (turns + 1) performed
          ⟨globalId, .receiving, rx⟩) port) := by
  cases stop with
  | @overrun id type selector size rest passed announces =>
      have pending : port.input ≠ [] := by
        rw [input]
        exact List.cons_ne_nil _ _
      have delivered : 4 ≤ (port.noted .receiving).input.length := by
        change 4 ≤ port.input.length
        rw [input]
        exact Nat.le_add_left 4 rest.length
      have header :
          headed rx (port.noted .receiving).input =
            headed rx (id :: type :: selector :: size :: rest) :=
        congrArg (headed rx) input
      have sane :
          packetHeaderSanity globalId
              (headed rx (port.noted .receiving).input) =
            .success := by
        rw [header]
        exact
          (packetHeaderSanity_cons globalId rx id type selector size
            rest).mpr passed
      have request :
          bodyRequest (headed rx (port.noted .receiving).input) =
            (size - 4).toNat := by
        rw [header]
        rfl
      have large :
          252 ≤ bodyRequest (headed rx (port.noted .receiving).input) := by
        rw [request, UInt8.toNat_sub]
        simp only [UInt8.reduceToNat]
        omega
      have tooFar :
          ¬ headerSize +
              bodyRequest (headed rx (port.noted .receiving).input) ≤
            packetSize := by
        simp only [headerSize, packetSize, bodyMaxLen, crcSize]
        omega
      rcases Nat.lt_or_ge
          ((port.noted .receiving).input.length - 4)
          (bodyRequest (headed rx (port.noted .receiving).input)) with
        missing | arrived
      · rw [exec_communicationHandler_stuck pending
          (exec_communicationRecv_stuck bus.world (port.noted .receiving)
            delivered sane missing)]
        refine ⟨fun inside => tooFar ?_, fun _ => ⟨rfl, rfl, rfl, rfl⟩⟩
        exact
          inside _
            (List.mem_append_right _ (List.mem_singleton.mpr rfl))
      · rw [exec_communicationHandler_again
          (exec_turn_of_recv pending
            (exec_communicationRecv_whole bus.world
              (port.noted .receiving) delivered sane arrived))]
        refine ⟨fun inside => tooFar ?_, fun few => ?_⟩
        · exact
            inside _
              (exec_requests bus.world _
                (List.mem_append_right _ (List.mem_singleton.mpr rfl)))
        · change
            _ ≤ port.input.length - 4 at arrived
          omega

/--
How a run ends behind the last attempt: the handler returns, it waits for more
bytes, or it has asked for bytes beyond its packet object.
-/
inductive Ended
    (last : Handler × Port signature ε)
    (performed : Bool) :
    Ending → Option (Option (Bool × Handler)) × Port signature ε → Prop where
  | drained :
      Ended last performed .drained
        (some (some (performed, last.1)), last.2)
  | waiting
      {after : Port signature ε}
      (waits : Waits last.2 after) :
      Ended last performed .waiting (none, after)
  | overrun
      {result : Option (Option (Bool × Handler)) × Port signature ε}
      (overruns : Overruns last.2 result) :
      Ended last performed .overrun result

theorem ended_of_stop
    {globalId : UInt8}
    {left : List UInt8}
    {ending : Ending}
    (stop : Stop globalId left ending)
    (rx : Memory)
    (port : Port signature ε)
    (input : port.input = left)
    (turns : Nat)
    (performed : Bool) :
    Ended (⟨globalId, .receiving, rx⟩, port) performed ending
      (exec bus.world
        (communicationHandler (turns + 1) performed
          ⟨globalId, .receiving, rx⟩) port) := by
  cases ending with
  | drained =>
      cases stop
      rw [exec_communicationHandler_returned bus globalId rx input]
      exact .drained
  | waiting =>
      obtain ⟨after, ran, waits⟩ :=
        exec_waiting bus stop rx port input turns performed
      rw [ran]
      exact .waiting waits
  | overrun =>
      exact .overrun (exec_overrun bus stop rx port input turns performed)

/-- What the attempts write is inside the packet object. -/
theorem Attempt.requests_inside (attempt : Attempt) :
    ∀ request ∈ attempt.requests, request.1 + request.2 ≤ packetSize := by
  cases attempt with
  | refused id type selector size =>
      exact List.forall_mem_singleton.mpr (by decide)
  | taken packet =>
      exact
        List.forall_mem_cons.mpr
          ⟨by decide,
            List.forall_mem_singleton.mpr
              (Nat.add_le_add_left packet.fits 4)⟩

theorem inside_carriedOut
    {state : Handler × Port signature ε}
    (inside : state.2.RequestsInside packetSize)
    (attempts : List Attempt) :
    (carriedOut bus state attempts).2.RequestsInside packetSize := by
  induction attempts generalizing state with
  | nil => exact inside
  | cons attempt later inductionHypothesis =>
      exact
        @inductionHypothesis (attempt.after bus state)
          (inside_append inside attempt.requests_inside)

/-- Only an overrun writes elsewhere. -/
theorem Ended.stays_inside_iff
    {last : Handler × Port signature ε}
    (inside : last.2.RequestsInside packetSize)
    {performed : Bool}
    {ending : Ending}
    {result : Option (Option (Bool × Handler)) × Port signature ε}
    (ended : Ended last performed ending result) :
    result.2.RequestsInside packetSize ↔ ending ≠ .overrun := by
  cases ended with
  | drained =>
      exact ⟨fun _ same => Ending.noConfusion same, fun _ => inside⟩
  | waiting waits =>
      exact
        ⟨fun _ same => Ending.noConfusion same, fun _ =>
          waits.inside inside⟩
  | overrun overruns =>
      exact
        ⟨fun stillInside => absurd stillInside overruns.outside, fun other =>
          absurd rfl other⟩

/-- The handler run on any bytes, with turns enough to read every byte. -/
def handleBytes
    (globalId : UInt8)
    (rx : Memory)
    (env : ε)
    (bytes : List UInt8)
    (spare : Nat) : Option (Option (Bool × Handler)) × Port signature ε :=
  exec bus.world
    (communicationHandler (bytes.length + 1 + spare) false
      ⟨globalId, .receiving, rx⟩)
    (Port.start bytes env)

/-- The handler makes the attempts that the bytes are read by, and ends. -/
theorem Reads.ended
    {globalId : UInt8}
    {bytes left : List UInt8}
    {attempts : List Attempt}
    {ending : Ending}
    (reads : Reads globalId bytes attempts left ending)
    (rx : Memory)
    (env : ε)
    (spare : Nat) :
    Ended
      (carriedOut bus (⟨globalId, .receiving, rx⟩, Port.start bytes env)
        attempts)
      (!attempts.isEmpty) ending
      (handleBytes bus globalId rx env bytes spare) := by
  obtain ⟨used, few, ran⟩ :=
    reads.exec_eq bus rx (Port.start bytes env) rfl
  have enough := reads.length_attempts
  obtain ⟨turns, split⟩ :
      ∃ turns, bytes.length + 1 + spare = turns + 1 + used :=
    ⟨bytes.length + spare - used, by omega⟩
  have stop := reads.stop_of_reads
  have input :=
    @Reads.input_carriedOut ε bus globalId bytes left attempts ending reads
      (⟨globalId, .receiving, rx⟩, Port.start bytes env) rfl
  have sameId :=
    globalId_carriedOut bus
      (⟨globalId, .receiving, rx⟩, Port.start bytes env) attempts
  have state :=
    @state_carriedOut ε bus
      (⟨globalId, .receiving, rx⟩, Port.start bytes env) rfl attempts
  rw [handleBytes, split, ran, Bool.false_or]
  generalize
    carriedOut bus (⟨globalId, .receiving, rx⟩, Port.start bytes env)
      attempts = last at input sameId state ⊢
  obtain ⟨⟨_, _, lastRx⟩, port⟩ := last
  cases state
  cases sameId
  exact ended_of_stop bus stop lastRx port input turns _

/--
Whatever bytes arrive, the handler does with them what the attempts say by which
they are read, and ends as it then has to.
-/
theorem handler_reads
    (globalId : UInt8)
    (rx : Memory)
    (env : ε)
    (bytes : List UInt8)
    (spare : Nat) :
    ∃ attempts left ending,
      Reads globalId bytes attempts left ending ∧
        Ended
          (carriedOut bus
            (⟨globalId, .receiving, rx⟩, Port.start bytes env) attempts)
          (!attempts.isEmpty) ending
          (handleBytes bus globalId rx env bytes spare) := by
  obtain ⟨attempts, left, ending, reads⟩ := exists_reads globalId bytes
  exact
    ⟨attempts, left, ending, reads, reads.ended bus rx env spare⟩

end Runs

end Ammc.Master
