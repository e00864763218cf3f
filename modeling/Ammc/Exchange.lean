import Ammc.ClientCommands
import Ammc.ClientFrames
import Ammc.MasterServe

namespace Ammc.Exchange

open ByteMemory Serial Packet

/-!
# Drained exchanges

The client runs against a master that takes every packet from the line at once
and works on it until its handler has drained its input and returned.  What the
master has sent by then is what the client finds on the line.  The line may
change a packet on its way, in either direction.
-/

/--
The master at the far end of the line, with the number of packets that have
come from the client and of packets that have been sent to it.
-/
structure Station (ε : Type) where
  handler : Master.Handler
  port : Port Master.signature ε
  arrived : Nat
  answered : Nat

/-- What the line does to each packet, by its number in its direction. -/
structure Line where
  up : Nat → List UInt8 → List UInt8
  down : Nat → List UInt8 → List UInt8

/-- A line without errors. -/
def Line.clear : Line where
  up _ bytes := bytes
  down _ bytes := bytes

/-- The bytes that leave the line when `packets` enter it. -/
def Line.deliver
    (line : Line)
    (first : Nat) : List (List UInt8) → List UInt8
  | [] => []
  | packet :: packets =>
      line.down first packet ++ line.deliver (first + 1) packets

@[simp] theorem Line.deliver_clear
    (first : Nat)
    (packets : List (List UInt8)) :
    Line.clear.deliver first packets = packets.flatten := by
  induction packets generalizing first with
  | nil =>
      rfl
  | cons packet packets inductionHypothesis =>
      rw [deliver, inductionHypothesis]
      rfl

namespace Station

variable {ε : Type}

/-- The master waits for a packet. -/
structure Idle (station : Station ε) : Prop where
  waiting : station.handler.state = .receiving
  drained : station.port.input = []

/-- The master with a packet delivered to it. -/
def delivered
    (station : Station ε)
    (bytes : List UInt8) : Port Master.signature ε :=
  { station.port with
    input := station.port.input ++ bytes
    sent := [] }

/--
The master works on a packet until its handler returns; `none` when it never
does.
-/
def serve
    (bus : Master.Bus ε)
    (line : Line)
    (bytes : List UInt8)
    (station : Station ε) : Option (List UInt8 × Station ε) :=
  let port := station.delivered (line.up station.arrived bytes)
  match
    exec bus.world
      (Master.communicationHandler (port.input.length + 5) false
        station.handler) port with
  | (some (some (_, handler)), port) =>
      some
        (line.deliver station.answered port.sent,
          { handler := handler
            port := port
            arrived := station.arrived + 1
            answered := station.answered + port.sent.length })
  | _ => none

/-- What the master answers to an admitted packet. -/
def answers
    (station : Station ε)
    (bus : Master.Bus ε)
    (frame : Frame) : List (List UInt8) :=
  (frame.served bus station.handler.globalId station.handler.rx
    station.port.env).1

/-- The master after an admitted packet. -/
def after
    (station : Station ε)
    (bus : Master.Bus ε)
    (frame : Frame) : Station ε where
  handler :=
    frame.handlerAfter station.handler.globalId station.handler.rx
  port :=
    frame.portAfter bus station.handler.globalId station.handler.rx []
      (station.delivered frame.bytes)
  arrived := station.arrived + 1
  answered := station.answered + (station.answers bus frame).length

/-- An idle master answers an admitted packet and is idle again. -/
theorem serve_frame
    (bus : Master.Bus ε)
    (line : Line)
    {station : Station ε}
    (idle : station.Idle)
    (frame : Frame)
    (admitted : frame.Admitted station.handler.globalId)
    {bytes : List UInt8}
    (received : line.up station.arrived bytes = frame.bytes) :
    station.serve bus line bytes =
      some
        (line.deliver station.answered (station.answers bus frame),
          station.after bus frame) := by
  obtain ⟨⟨globalId, state, rx⟩, port, arrived, answered⟩ := station
  obtain ⟨waiting, drained⟩ := idle
  cases waiting
  have input :
      ({ port with
        input := port.input ++ frame.bytes
        sent := [] } : Port Master.signature ε).input =
        frame.bytes ++ [] := by
    simp only at drained
    simp [drained]
  obtain ⟨used, few, served⟩ :=
    Master.exec_serve bus frame rx _ input admitted
  have length := frame.length_bytes
  obtain ⟨left, turns⟩ :
      ∃ left,
        (port.input ++ frame.bytes).length + 5 = left + 1 + used :=
    ⟨(port.input ++ frame.bytes).length + 4 - used, by omega⟩
  have drainedAfter :
      (frame.portAfter bus globalId rx []
        { port with
          input := port.input ++ frame.bytes
          sent := [] }).input = [] :=
    rfl
  have finished :=
    Master.exec_communicationHandler_returned bus
      (frame.nextId globalId) (frame.landed rx) drainedAfter left true
  have run := (served (left + 1) false).trans finished
  simp only at received
  simp only [serve, delivered, received]
  rw [turns, run]
  simp [answers, after, delivered, Datagram.portAfter,
    Datagram.handlerAfter]

/-- Serving a packet leaves the master idle. -/
theorem idle_after
    (station : Station ε)
    (bus : Master.Bus ε)
    (frame : Frame) :
    (station.after bus frame).Idle where
  waiting := rfl
  drained := rfl

end Station

/-- The client's computer: its serial device and its stack memory. -/
structure Host (ε : Type) where
  device : Client.Descriptor
  uninitialised : Station ε → Memory

/-- A computer whose device is opened as descriptor 3. -/
def plainHost : Host Unit where
  device := ⟨3, by decide⟩
  uninitialised _ := fun _ => 0

/-- The client's surroundings: its computer, the line and the master. -/
def drainedWorld
    (bus : Master.Bus ε)
    (line : Line)
    (host : Host ε) : World Client.signature (Station ε) where
  answer query station :=
    match query with
    | .isatty _ => (true, station)
    | .openDevice _ => (host.device.number, station)
    | .close _ => (0, station)
    | .uninitialised => (host.uninitialised station, station)
  react bytes station := station.serve bus line bytes
  expecting := false
  flushable := true

theorem drainedWorld_connected
    (bus : Master.Bus ε)
    (line : Line)
    (host : Host ε) :
    Client.Connected (drainedWorld bus line host) host.device.number where
  above := host.device.above
  tty _ := rfl
  uninitialised _ := rfl
  flushable := rfl

section Sending

variable {ε : Type}
variable (bus : Master.Bus ε)
variable (line : Line)
variable (host : Host ε)

/-- A crafted packet has a size that `communication_send` lets through. -/
theorem sendable_of_craftable
    {type : UInt8}
    {data : Option Memory}
    {dataSize : UInt8}
    (craftable : Craftable type data dataSize)
    {crafted : Memory}
    (size : (packetGetSize crafted).toNat = dataSize.toNat + 5) :
    Client.Sendable crafted := by
  have fits := craftable.fits
  constructor
  · intro zero
    rw [zero] at size
    simp at size
  · rw [size]
    simp only [bodyMaxLen] at fits
    simp only [packetSize, headerSize, bodyMaxLen, crcSize]
    omega

/-- The bytes of a packet that the client's `packet_craft` does not refuse. -/
theorem exec_psend
    (session : Client.Session)
    (descriptor : session.avrFd = host.device.number)
    (selector : UInt8)
    {type : UInt8}
    {data : Option Memory}
    {dataSize : UInt8}
    (craftable : Craftable type data dataSize)
    (port : Port Client.signature (Station ε))
    {back : List UInt8}
    {station : Station ε}
    (served :
      port.env.serve bus line
          (Client.packetImage session.globalId type selector
            (bodyBytes data dataSize)) =
        some (back, station)) :
    exec (drainedWorld bus line host)
        (Client.psend session type selector data dataSize) port =
      match
        exec (drainedWorld bus line host)
          (Client.recvAttempt session.globalId host.device.number
            (host.uninitialised station))
          (Client.transmittedPacket port
            (Client.packetImage session.globalId type selector
              (bodyBytes data dataSize)) back station) with
      | (none, after) => (none, after)
      | (some attempt, after) =>
          (some
            (Client.sendCode attempt,
              { session with
                globalId :=
                  (Client.sendOutcome session.globalId
                    attempt).globalId }),
            (after.noted (.attempted attempt.1)).noted
              (.returned (Client.sendCode attempt))) := by
  have connected := drainedWorld_connected bus line host
  obtain ⟨crafted, craftedOk, size, bytes⟩ :=
    craft_of_craftable Client.crc (host.uninitialised port.env)
      session.globalId selector craftable
  have sendable := sendable_of_craftable craftable size
  have reacted :
      (drainedWorld bus line host).react
          (crafted.bytes 0 (packetGetSize crafted).toNat) port.env =
        some (back, station) := by
    rw [bytes]
    exact served
  have sent :=
    Client.exec_communicationSend connected session.globalId sendable
      port reacted
  have imageBytes :
      crafted.bytes 0 (packetGetSize crafted).toNat =
        Client.packetImage session.globalId type selector
          (bodyBytes data dataSize) :=
    bytes
  have fresh :
      Client.garbage (drainedWorld bus line host) station =
        host.uninitialised station :=
    rfl
  rw [Client.psend, descriptor, exec_bind,
    Client.exec_communicationCraftAndSend connected craftedOk, sent,
    imageBytes, fresh]
  rcases exec (drainedWorld bus line host)
      (Client.recvAttempt session.globalId host.device.number
        (host.uninitialised station))
      (Client.transmittedPacket port
        (Client.packetImage session.globalId type selector
          (bodyBytes data dataSize)) back station) with
    ⟨_ | attempt, after⟩
  · rfl
  · simp only [exec_pure, Client.sendOutcome_code]

/-- The client takes a packet for an acknowledgement of its own. -/
def Acked (reply : Datagram) : Prop :=
  Client.datagramResult reply = .success ∧
    reply.type = ComType.ack.code

instance (reply : Datagram) : Decidable (Acked reply) :=
  inferInstanceAs (Decidable (_ ∧ _))

/-- The client's port once it has sent a packet and judged the reply. -/
def portAnswered
    (port : Port Client.signature (Station ε))
    (packet : List UInt8)
    (reply : Datagram)
    (tail : List UInt8)
    (station : Station ε) : Port Client.signature (Station ε) :=
  ((Client.portChecked reply tail
      (Client.transmittedPacket port packet (reply.bytes ++ tail)
        station)).noted
    (.attempted (Client.datagramResult reply))).noted
      (.returned (if Acked reply then 0 else 1))

/-- Sending a packet that is answered under its own id. -/
theorem exec_psend_reply
    (session : Client.Session)
    (descriptor : session.avrFd = host.device.number)
    (selector : UInt8)
    {type : UInt8}
    {data : Option Memory}
    {dataSize : UInt8}
    (craftable : Craftable type data dataSize)
    (port : Port Client.signature (Station ε))
    (reply : Datagram)
    (sameId : reply.id = session.globalId)
    {tail : List UInt8}
    {station : Station ε}
    (served :
      port.env.serve bus line
          (Client.packetImage session.globalId type selector
            (bodyBytes data dataSize)) =
        some (reply.bytes ++ tail, station)) :
    exec (drainedWorld bus line host)
        (Client.psend session type selector data dataSize) port =
      (some
        (if Acked reply then 0 else 1,
          { session with
            globalId :=
              if Acked reply then
                Client.packetNextId session.globalId
              else
                0 }),
        portAnswered port
          (Client.packetImage session.globalId type selector
            (bodyBytes data dataSize)) reply tail station) := by
  have connected := drainedWorld_connected bus line host
  have typeField :
      packetGetType (reply.landed (host.uninitialised station)) =
        reply.type :=
    reply.landed_header _ (by decide)
  have arrived :
      (Client.transmittedPacket port
        (Client.packetImage session.globalId type selector
          (bodyBytes data dataSize)) (reply.bytes ++ tail)
        station).input = reply.bytes ++ tail :=
    rfl
  have attempted :=
    Client.exec_recvAttempt_datagram connected reply
      (host.uninitialised station) arrived
  rw [sameId] at attempted
  rw [exec_psend bus line host session descriptor selector craftable
    port served, attempted]
  simp only [Client.sendCode, Client.sendOutcome, typeField]
  by_cases acked : Acked reply
  · have both := acked
    rw [Acked] at both
    simp only [both, acked, and_self, ↓reduceIte, portAnswered]
  · have either := acked
    rw [Acked] at either
    simp only [either, acked, ↓reduceIte, portAnswered]

/-- Sending a packet that is answered under another id. -/
theorem exec_psend_otherId
    (session : Client.Session)
    (descriptor : session.avrFd = host.device.number)
    (selector : UInt8)
    {type : UInt8}
    {data : Option Memory}
    {dataSize : UInt8}
    (craftable : Craftable type data dataSize)
    (port : Port Client.signature (Station ε))
    (reply : Datagram)
    (otherId : reply.id ≠ session.globalId)
    {tail : List UInt8}
    {station : Station ε}
    (served :
      port.env.serve bus line
          (Client.packetImage session.globalId type selector
            (bodyBytes data dataSize)) =
        some (reply.bytes ++ tail, station)) :
    ∃ after,
      exec (drainedWorld bus line host)
          (Client.psend session type selector data dataSize) port =
        (some (1, { session with globalId := 0 }), after) ∧
      after.env = station := by
  have connected := drainedWorld_connected bus line host
  have arrived :
      (Client.transmittedPacket port
        (Client.packetImage session.globalId type selector
          (bodyBytes data dataSize)) (reply.bytes ++ tail)
        station).input = reply.bytes ++ tail :=
    rfl
  have attempted :=
    Client.exec_recvAttempt_otherId connected reply otherId
      (host.uninitialised station) arrived
  rw [exec_psend bus line host session descriptor selector craftable
    port served, attempted]
  exact ⟨_, rfl, rfl⟩

/-- The client's port once it has received a packet and answered it. -/
def portReceived
    (port : Port Client.signature (Station ε))
    (packet : Datagram)
    (tail answer back : List UInt8)
    (station : Station ε) : Port Client.signature (Station ε) :=
  ((Client.portChecked packet tail port).noted
    (.attempted (Client.datagramResult packet))).transmitted
      answer back station

/-- Receiving a packet that comes under the expected id. -/
theorem exec_precv
    (session : Client.Session)
    (descriptor : session.avrFd = host.device.number)
    (p : Memory)
    (packet : Datagram)
    (sameId : packet.id = session.globalId)
    {tail : List UInt8}
    (port : Port Client.signature (Station ε))
    (input : port.input = packet.bytes ++ tail)
    {back : List UInt8}
    {station : Station ε}
    (served :
      port.env.serve bus line
          (Client.packetImage session.globalId
            (if Client.datagramResult packet = .success then
              ComType.ack.code
            else
              ComType.nak.code)
            0 []) =
        some (back, station)) :
    exec (drainedWorld bus line host) (Client.precv session p) port =
      (some
        (if Client.datagramResult packet = .success then 0 else 1,
          { session with
            globalId :=
              if Client.datagramResult packet = .success then
                Client.packetNextId session.globalId
              else
                session.globalId },
          packet.landed p),
        portReceived port packet tail
          (Client.packetImage session.globalId
            (if Client.datagramResult packet = .success then
              ComType.ack.code
            else
              ComType.nak.code)
            0 [])
          back station) := by
  have connected := drainedWorld_connected bus line host
  have idField : packetGetId (packet.landed p) = session.globalId := by
    rw [← sameId]
    exact packet.landed_header _ (by decide)
  have attempted :=
    Client.exec_recvAttempt_datagram connected packet p input
  rw [sameId] at attempted
  have answered :
      Client.recvReply (Client.datagramResult packet, packet.landed p) =
        Client.packetImage session.globalId
          (if Client.datagramResult packet = .success then
            ComType.ack.code
          else
            ComType.nak.code)
          0 [] := by
    rw [Client.recvReply, idField]
  rw [← answered] at served ⊢
  have received :=
    Client.exec_communicationRecv connected attempted served
  rw [Client.precv, descriptor, exec_bind_of_done received,
    Client.recvOutcome]
  by_cases intact : Client.datagramResult packet = .success
  · simp only [intact, ↓reduceIte, exec_pure, portReceived]
  · simp only [intact, ↓reduceIte, exec_pure, portReceived]

end Sending

end Ammc.Exchange
