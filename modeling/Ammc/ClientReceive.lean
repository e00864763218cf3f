import Ammc.ClientCommunication

namespace Ammc.Client

open ByteMemory Serial Packet

/-!
# Receiving one packet in the client

`_recv_attempt` reads the header, refuses a wrong id or reads as many further
bytes as the size field announces, and then runs the checksum over the packet.
`communication_send` and `communication_recv` both wait for a packet this way.
-/

/-- A descriptor above the three standard streams. -/
structure Descriptor where
  number : Int
  above : 2 < number

/-- A session with such a descriptor is connected. -/
theorem Descriptor.positive
    (device : Descriptor)
    {fd : Int}
    (connected : fd = device.number) :
    0 < fd := by
  have above := device.above
  omega

theorem Descriptor.opened
    (device : Descriptor)
    {fd : Int}
    (connected : fd = device.number) :
    ¬ fd < 0 :=
  Int.not_lt.mpr (Int.le_of_lt (device.positive connected))

/-- A session without a descriptor is not. -/
theorem negative_of_closed
    {fd : Int}
    (disconnected : fd = -1) :
    fd < 0 := by
  rw [disconnected]
  decide

/--
The descriptor is an open terminal device and stays one, and looking at an
uninitialised variable changes nothing.
-/
structure Connected
    (world : World signature ε)
    (fd : Int) : Prop where
  above : 2 < fd
  tty : ∀ env, world.answer (.isatty fd) env = (true, env)
  uninitialised : ∀ env, (world.answer .uninitialised env).2 = env
  flushable : world.flushable = true

section Execution

variable {ε : Type}
variable {world : World signature ε}
variable {fd : Int}

theorem exec_validDev
    (connected : Connected world fd)
    (port : Port signature ε) :
    exec world (validDev fd) port = (some true, port) := by
  have above : fd > 2 := connected.above
  rw [validDev, if_pos above]
  change
    (some (world.answer (.isatty fd) port.env).1,
      port.withEnv (world.answer (.isatty fd) port.env).2) = _
  rw [connected.tty]
  rfl

/-- A read of delivered bytes stores them in the object. -/
theorem exec_serialRx
    (connected : Connected world fd)
    (dest : Memory)
    (offset size : Nat)
    (port : Port signature ε)
    (delivered : size ≤ port.input.length) :
    exec world (serialRx fd dest offset size) port =
      (some ((size : Int), dest.store offset (port.input.take size)),
        port.received offset size) := by
  rw [serialRx, exec_bind_of_done (exec_validDev connected port)]
  simp only [not_true_eq_false, ↓reduceIte]
  rw [exec_bind_of_done (exec_receive delivered), exec_pure]
  simp [delivered]

/-- A read of bytes that do not arrive blocks. -/
theorem exec_serialRx_stuck
    (connected : Connected world fd)
    (dest : Memory)
    (offset size : Nat)
    (port : Port signature ε)
    (missing : port.input.length < size) :
    exec world (serialRx fd dest offset size) port =
      (none, port.waiting offset size) := by
  rw [serialRx, exec_bind_of_done (exec_validDev connected port)]
  simp only [not_true_eq_false, ↓reduceIte]
  rw [exec_bind_of_stuck (exec_receive_stuck missing)]

/-- A write hands the bytes to the line. -/
theorem exec_serialTx
    (connected : Connected world fd)
    (buf : Memory)
    {size : Nat}
    (port : Port signature ε)
    {back : List UInt8}
    {env : ε}
    (reacted :
      world.react (buf.bytes 0 size) port.env = some (back, env)) :
    exec world (serialTx fd buf size) port =
      (some (size : Int),
        port.transmitted (buf.bytes 0 size) back env) := by
  rw [serialTx, exec_bind_of_done (exec_validDev connected port)]
  simp only [not_true_eq_false, ↓reduceIte]
  rw [exec_bind_of_done (exec_transmit reacted), exec_pure]

/-- A flush throws the delivered bytes away. -/
theorem exec_serialRxFlush
    (connected : Connected world fd)
    (port : Port signature ε) :
    exec world (serialRxFlush fd) port = (some (), port.flushed) := by
  rw [serialRxFlush, exec_bind_of_done (exec_validDev connected port)]
  simp only [↓reduceIte]
  exact exec_discard connected.flushable

/-- What an uninitialised packet object holds. -/
def garbage
    (world : World signature ε)
    (env : ε) : Memory :=
  (world.answer .uninitialised env).1

theorem exec_uninitialised
    (connected : Connected world fd)
    (port : Port signature ε) :
    exec world (ask .uninitialised) port =
      (some (garbage world port.env), port) := by
  change
    (some (world.answer .uninitialised port.env).1,
      port.withEnv (world.answer .uninitialised port.env).2) = _
  rw [connected.uninitialised]
  rfl

/-- The checksum test leaves a note of the bytes it looked at. -/
theorem exec_packetCheckCrc
    (p : Memory)
    (port : Port signature ε) :
    exec world (packetCheckCrc p) port =
      (some
        (if crcCheck (p.bytes 0 (packetGetSize p).toNat) ≠ 0 then 1 else 0),
        port.noted (.checked (packetGetSize p).toNat)) :=
  rfl

/-- Without a whole header the attempt blocks in its first read. -/
theorem exec_recvAttempt_short
    (connected : Connected world fd)
    (globalId : UInt8)
    (p : Memory)
    (port : Port signature ε)
    (short : port.input.length < headerSize) :
    exec world (recvAttempt globalId fd p) port =
      (none, port.waiting 0 headerSize) :=
  exec_bind_of_stuck (exec_serialRx_stuck connected p 0 headerSize port short)

/-- A packet with another id is refused after its header. -/
theorem exec_recvAttempt_mismatch
    (connected : Connected world fd)
    {globalId : UInt8}
    {p : Memory}
    (port : Port signature ε)
    (delivered : headerSize ≤ port.input.length)
    (otherId : packetGetId (headed p port.input) ≠ globalId) :
    exec world (recvAttempt globalId fd p) port =
      (some (.idMismatch, headed p port.input),
        port.received 0 headerSize) := by
  rw [recvAttempt,
    exec_bind_of_done
      (exec_serialRx connected p 0 headerSize port delivered)]
  have refused :
      packetGetId (p.store 0 (port.input.take headerSize)) ≠ globalId :=
    otherId
  simp only [refused, ne_eq, not_false_eq_true, ↓reduceIte, exec_pure]
  rfl

/-- With the expected id, a body that does not arrive blocks the attempt. -/
theorem exec_recvAttempt_stuck
    (connected : Connected world fd)
    {globalId : UInt8}
    {p : Memory}
    (port : Port signature ε)
    (delivered : headerSize ≤ port.input.length)
    (sameId : packetGetId (headed p port.input) = globalId)
    (missing :
      port.input.length - headerSize <
        bodyCount (packetGetSize (headed p port.input))) :
    exec world (recvAttempt globalId fd p) port =
      (none,
        (port.received 0 headerSize).waiting headerSize
          (bodyCount (packetGetSize (headed p port.input)))) := by
  have blocked :=
    exec_serialRx_stuck connected (headed p port.input) headerSize
      (bodyCount (packetGetSize (headed p port.input)))
      (port.received 0 headerSize)
      (by simpa [Port.received] using missing)
  have expected :
      packetGetId (p.store 0 (port.input.take headerSize)) = globalId :=
    sameId
  rw [recvAttempt,
    exec_bind_of_done
      (exec_serialRx connected p 0 headerSize port delivered)]
  simp only [expected, ne_eq, not_true_eq_false, ↓reduceIte]
  exact exec_bind_of_stuck blocked

/-- The packet object once the announced number of bytes is stored in it. -/
def filled
    (p : Memory)
    (input : List UInt8) : Memory :=
  (headed p input).store headerSize
    ((input.drop headerSize).take
      (bodyCount (packetGetSize (headed p input))))

/-- The result of the checksum test on a packet object. -/
def checksumResult (p : Memory) : ComError :=
  if crcCheck (p.bytes 0 (packetGetSize p).toNat) ≠ 0 then
    .corruptedChecksum
  else
    .success

/-- With the expected id, a body that has arrived is checked. -/
theorem exec_recvAttempt_whole
    (connected : Connected world fd)
    {globalId : UInt8}
    {p : Memory}
    (port : Port signature ε)
    (delivered : headerSize ≤ port.input.length)
    (sameId : packetGetId (headed p port.input) = globalId)
    (arrived :
      bodyCount (packetGetSize (headed p port.input)) ≤
        port.input.length - headerSize) :
    exec world (recvAttempt globalId fd p) port =
      (some
        (checksumResult (filled p port.input), filled p port.input),
        ((port.received 0 headerSize).received headerSize
          (bodyCount (packetGetSize (headed p port.input)))).noted
            (.checked (packetGetSize (filled p port.input)).toNat)) := by
  have stored :=
    exec_serialRx connected (headed p port.input) headerSize
      (bodyCount (packetGetSize (headed p port.input)))
      (port.received 0 headerSize)
      (by simpa [Port.received] using arrived)
  have expected :
      packetGetId (p.store 0 (port.input.take headerSize)) = globalId :=
    sameId
  rw [recvAttempt,
    exec_bind_of_done
      (exec_serialRx connected p 0 headerSize port delivered)]
  simp only [expected, ne_eq, not_true_eq_false, ↓reduceIte]
  refine (exec_bind_of_done stored).trans ?_
  refine (exec_bind_of_done
    (exec_packetCheckCrc (filled p port.input) _)).trans ?_
  rw [exec_pure]
  by_cases intact :
      crcCheck ((filled p port.input).bytes 0
        (packetGetSize (filled p port.input)).toNat) = 0
  · simp [checksumResult, intact]
    rfl
  · simp [checksumResult, intact]
    rfl

/-! ## Sending and receiving a packet -/

/-- The packet size that `communication_send` lets through. -/
def Sendable (p : Memory) : Prop :=
  packetGetSize p ≠ 0 ∧ (packetGetSize p).toNat ≤ packetSize

/-- The port once a packet has been transmitted and answered. -/
def transmittedPacket
    (port : Port signature ε)
    (bytes back : List UInt8)
    (env : ε) : Port signature ε :=
  (port.flushed.noted .transmitting).transmitted bytes back env

/-- Transmitting a packet throws away what was delivered before. -/
theorem exec_transmitPacket
    (connected : Connected world fd)
    (p : Memory)
    (port : Port signature ε)
    {back : List UInt8}
    {env : ε}
    (reacted :
      world.react (p.bytes 0 (packetGetSize p).toNat) port.env =
        some (back, env)) :
    exec world (transmitPacket fd p) port =
      (some (),
        transmittedPacket port
          (p.bytes 0 (packetGetSize p).toNat) back env) := by
  rw [transmitPacket,
    exec_bind_of_done (exec_serialRxFlush connected port)]
  change
    exec world (serialTx fd p (packetGetSize p).toNat >>= _)
      (port.flushed.noted .transmitting) = _
  rw [exec_bind_of_done
    (exec_serialTx connected p (port.flushed.noted .transmitting) reacted)]
  rfl

/-- The return code of `communication_send` after an attempt. -/
def sendCode
    (attempt : ComError × Memory) : Int :=
  if attempt.1 = .success ∧
      packetGetType attempt.2 = ComType.ack.code then 0 else 1

/-- The result of `communication_send` after an attempt. -/
def sendOutcome
    (globalId : UInt8)
    (attempt : ComError × Memory) : Outcome :=
  if attempt.1 = .success ∧
      packetGetType attempt.2 = ComType.ack.code then
    { code := 0, globalId := packetNextId globalId }
  else
    { code := 1, globalId := 0 }

/-- `communication_send` transmits, waits for one packet and judges it. -/
theorem exec_communicationSend
    (connected : Connected world fd)
    (globalId : UInt8)
    {p : Memory}
    (sendable : Sendable p)
    (port : Port signature ε)
    {back : List UInt8}
    {env : ε}
    (reacted :
      world.react (p.bytes 0 (packetGetSize p).toNat) port.env =
        some (back, env)) :
    exec world (communicationSend globalId fd p) port =
      match
        exec world (recvAttempt globalId fd (garbage world env))
          (transmittedPacket port
            (p.bytes 0 (packetGetSize p).toNat) back env) with
      | (none, after) => (none, after)
      | (some attempt, after) =>
          (some (sendOutcome globalId attempt),
            (after.noted (.attempted attempt.1)).noted
              (.returned (sendCode attempt))) := by
  have above := connected.above
  have admitted :
      ¬ (fd = 0 ∨ packetGetSize p = 0 ∨
        (packetGetSize p).toNat > packetSize) := by
    rintro (zeroFd | zeroSize | tooBig)
    · omega
    · exact sendable.1 zeroSize
    · exact Nat.not_lt.mpr sendable.2 tooBig
  simp only [communicationSend, admitted, ↓reduceIte]
  rw [exec_bind_of_done (exec_transmitPacket connected p port reacted),
    exec_bind_of_done (exec_uninitialised connected _), exec_bind]
  have answered :
      (transmittedPacket port
        (p.bytes 0 (packetGetSize p).toNat) back env).env = env :=
    rfl
  rw [answered]
  rcases exec world (recvAttempt globalId fd (garbage world env))
      (transmittedPacket port
        (p.bytes 0 (packetGetSize p).toNat) back env) with
    ⟨_ | attempt, after⟩
  · rfl
  · by_cases acked :
        attempt.1 = .success ∧
          packetGetType attempt.2 = ComType.ack.code
    · simp only [acked, sendOutcome, sendCode]
      rfl
    · simp only [acked, sendOutcome, sendCode]
      rfl

theorem sendOutcome_code
    (globalId : UInt8)
    (attempt : ComError × Memory) :
    (sendOutcome globalId attempt).code = sendCode attempt := by
  rw [sendOutcome, sendCode]
  split
  · rfl
  · rfl

/-- A packet that can be crafted is crafted and sent. -/
theorem exec_communicationCraftAndSend
    (connected : Connected world fd)
    {globalId type selector : UInt8}
    {data : Option Memory}
    {dataSize : UInt8}
    {port : Port signature ε}
    {crafted : Memory}
    (craftedOk :
      craft crc (garbage world port.env) globalId type selector data
        dataSize = (0, crafted)) :
    exec world
        (communicationCraftAndSend globalId fd type selector data dataSize)
        port =
      exec world (communicationSend globalId fd crafted) port := by
  rw [communicationCraftAndSend,
    exec_bind_of_done (exec_uninitialised connected port)]
  simp only [packetCraft, craftedOk, ne_eq, not_true_eq_false,
    ↓reduceIte]

/-- A packet of the wrong size is not transmitted. -/
theorem exec_communicationSend_refused
    (globalId : UInt8)
    {p : Memory}
    (refused : ¬ Sendable p)
    (port : Port signature ε) :
    exec world (communicationSend globalId fd p) port =
      (some { code := 1, globalId := globalId }, port) := by
  have notAdmitted :
      fd = 0 ∨ packetGetSize p = 0 ∨
        (packetGetSize p).toNat > packetSize := by
    by_contra admitted
    simp only [not_or, Nat.not_lt] at admitted
    exact refused admitted.2
  simp only [communicationSend, notAdmitted, ↓reduceIte]
  rfl

/-- An attempt ends with success, a wrong id or a wrong checksum. -/
theorem recvAttempt_error
    (connected : Connected world fd)
    {globalId : UInt8}
    {p : Memory}
    {port after : Port signature ε}
    {attempt : ComError × Memory}
    (attempted :
      exec world (recvAttempt globalId fd p) port =
        (some attempt, after)) :
    attempt.1 = .success ∨ attempt.1 = .idMismatch ∨
      attempt.1 = .corruptedChecksum := by
  by_cases delivered : headerSize ≤ port.input.length
  · by_cases sameId : packetGetId (headed p port.input) = globalId
    · by_cases arrived :
          bodyCount (packetGetSize (headed p port.input)) ≤
            port.input.length - headerSize
      · rw [exec_recvAttempt_whole connected port delivered sameId
          arrived] at attempted
        cases attempted
        rw [checksumResult]
        split
        · exact Or.inr (Or.inr rfl)
        · exact Or.inl rfl
      · rw [exec_recvAttempt_stuck connected port delivered sameId
          (Nat.not_le.mp arrived)] at attempted
        cases attempted
    · rw [exec_recvAttempt_mismatch connected port delivered
        sameId] at attempted
      cases attempted
      exact Or.inr (Or.inl rfl)
  · rw [exec_recvAttempt_short connected globalId p port
      (Nat.not_le.mp delivered)] at attempted
    cases attempted

/-- An answer crafted for a received packet. -/
theorem bytes_packetCraft_none
    (response : Memory)
    (id : UInt8)
    {type : UInt8}
    (knownType : type < ComType.limit.code) :
    (packetCraft response id type 0 none 0).2.bytes 0 packetMinSize =
      packetImage id type 0 [] := by
  obtain ⟨crafted, craftedOk, size, bytes⟩ :=
    craft_of_craftable crc response id 0 (craftable_of_none knownType)
  rw [size] at bytes
  rw [packetCraft, craftedOk]
  exact bytes

/-- The packet with which `communication_recv` answers an attempt. -/
def recvReply (attempt : ComError × Memory) : List UInt8 :=
  packetImage (packetGetId attempt.2)
    (if attempt.1 = .success then
      ComType.ack.code
    else
      ComType.nak.code)
    0 []

/-- The result of `communication_recv` after an attempt. -/
def recvOutcome
    (globalId : UInt8)
    (attempt : ComError × Memory) : Outcome :=
  if attempt.1 = .success then
    { code := 0, globalId := packetNextId globalId }
  else
    { code := 1, globalId := globalId }

/-- `communication_recv` blocks where its attempt blocks. -/
theorem exec_communicationRecv_stuck
    (connected : Connected world fd)
    {globalId : UInt8}
    {p : Memory}
    {port after : Port signature ε}
    (stuck :
      exec world (recvAttempt globalId fd p) port = (none, after)) :
    exec world (communicationRecv globalId fd p) port =
      (none, after) := by
  have above := connected.above
  have nonzero : fd ≠ 0 := by
    omega
  simp only [communicationRecv, nonzero, ↓reduceIte]
  rw [exec_bind_of_done (exec_uninitialised connected port),
    exec_bind_of_stuck stuck]

/-- `communication_recv` waits for one packet and answers it. -/
theorem exec_communicationRecv
    (connected : Connected world fd)
    {globalId : UInt8}
    {p : Memory}
    {port after : Port signature ε}
    {attempt : ComError × Memory}
    (attempted :
      exec world (recvAttempt globalId fd p) port =
        (some attempt, after))
    {back : List UInt8}
    {env : ε}
    (reacted :
      world.react (recvReply attempt) after.env = some (back, env)) :
    exec world (communicationRecv globalId fd p) port =
      (some (recvOutcome globalId attempt, attempt.2),
        (after.noted (.attempted attempt.1)).transmitted
          (recvReply attempt) back env) := by
  have above := connected.above
  have nonzero : fd ≠ 0 := by
    omega
  have judged := recvAttempt_error connected attempted
  obtain ⟨error, received⟩ := attempt
  simp only [communicationRecv, nonzero, ↓reduceIte]
  rw [exec_bind_of_done (exec_uninitialised connected port),
    exec_bind_of_done attempted]
  rcases judged with rfl | rfl | rfl
  · have answered :
        (packetAck received (garbage world port.env)).2.bytes
            0 packetMinSize =
          recvReply (.success, received) :=
      bytes_packetCraft_none _ _ (by decide)
    rw [← answered] at reacted ⊢
    exact exec_bind_of_done
      (exec_serialTx connected _ (after.noted (.attempted .success))
        reacted)
  · have answered :
        (packetNak received (garbage world port.env)).2.bytes
            0 packetMinSize =
          recvReply (.idMismatch, received) :=
      bytes_packetCraft_none _ _ (by decide)
    rw [← answered] at reacted ⊢
    exact exec_bind_of_done
      (exec_serialTx connected _ (after.noted (.attempted .idMismatch))
        reacted)
  · have answered :
        (packetNak received (garbage world port.env)).2.bytes
            0 packetMinSize =
          recvReply (.corruptedChecksum, received) :=
      bytes_packetCraft_none _ _ (by decide)
    rw [← answered] at reacted ⊢
    exact exec_bind_of_done
      (exec_serialTx connected _
        (after.noted (.attempted .corruptedChecksum)) reacted)

end Execution

end Ammc.Client
