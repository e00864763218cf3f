import Ammc.Exchange
import Ammc.PacketRoundTrip
import Ammc.SendHistory

namespace Ammc.Exchange

open ByteMemory Serial Packet

/-!
# Drained exchanges on a line without errors

Client and master are in step when they hold the same `packet_global_id`, the
master waits for a packet, and every byte that one of them has sent has been
read by the other or is still delivered to it.  Sending a packet and receiving a
`DAT` packet both lead from such a state to such a state.
-/

/-- Client and master count the ids in the same way. -/
theorem packetNextId_eq_increment (globalId : UInt8) :
    Client.packetNextId globalId =
      Master.packetGlobalIdIncrement globalId :=
  rfl

section States

variable {ε : Type}

/-- The master waits, and both sides have counted the same bytes. -/
structure Settled (port : Port Client.signature (Station ε)) : Prop where
  idle : port.env.Idle
  upstream : port.written = port.env.port.read
  downstream : port.read + port.input.length = port.env.port.written

/-- The line is settled, and both sides hold the same id. -/
structure InStep
    (globalId : UInt8)
    (port : Port Client.signature (Station ε)) : Prop
    extends Settled port where
  ids : globalId = port.env.handler.globalId

/-- The master waits under the id that the client holds. -/
structure Ready
    (globalId : UInt8)
    (port : Port Client.signature (Station ε)) : Prop where
  idle : port.env.Idle
  ids : globalId = port.env.handler.globalId

theorem InStep.ready
    {globalId : UInt8}
    {port : Port Client.signature (Station ε)}
    (inStep : InStep globalId port) :
    Ready globalId port :=
  ⟨inStep.idle, inStep.ids⟩

/--
Nothing has gone wrong so far: no id check has refused a packet, and every send
that has returned has read the reply to its own packet, which acknowledged it.
-/
structure Faultless
    (client : ClientLog)
    (master : MasterLog) : Prop where
  attempts : ∀ entry ∈ client, entry.event ≠ .attempted .idMismatch
  receipts : ∀ entry ∈ master, entry.event ≠ .received .idMismatch
  sends :
    ∀ send ∈ completedSends client,
      send.code = 0 ∧ send.read < send.stop ∧
        Accepted master send.written send.read

/-- Further receipts without a refusal keep a history faultless. -/
theorem Faultless.receive
    {client : ClientLog}
    {master added : MasterLog}
    (faultless : Faultless client master)
    (clean : ∀ entry ∈ added, entry.event ≠ .received .idMismatch) :
    Faultless client (master ++ added) where
  attempts := faultless.attempts
  receipts entry member := by
    rcases List.mem_append.mp member with earlier | now
    · exact faultless.receipts entry earlier
    · exact clean entry now
  sends send member := by
    obtain ⟨code, replied, accepted⟩ := faultless.sends send member
    exact ⟨code, replied, accepted.append added⟩

/-- Notes that neither begin, judge nor end a send keep it faultless. -/
theorem Faultless.note
    {client added : ClientLog}
    {master : MasterLog}
    (faultless : Faultless client master)
    (clean :
      ∀ entry ∈ added,
        Passing entry.event ∧ entry.event ≠ .attempted .idMismatch) :
    Faultless (client ++ added) master where
  attempts entry member := by
    rcases List.mem_append.mp member with earlier | now
    · exact faultless.attempts entry earlier
    · exact (clean entry now).2
  receipts := faultless.receipts
  sends send member := by
    rw [completedSends_passing client added
      fun entry inAdded => (clean entry inAdded).1] at member
    exact faultless.sends send member

/-- A send whose packet has been accepted and acknowledged. -/
theorem Faultless.send
    {client middle : ClientLog}
    {master : MasterLog}
    (faultless : Faultless client master)
    (clean :
      ∀ entry ∈ middle,
        Passing entry.event ∧ entry.event ≠ .attempted .idMismatch)
    {read written stopRead : Nat}
    (replied : read < stopRead)
    (accepted : Accepted master written read)
    (stopWritten : Nat) :
    Faultless
      (client ++ ⟨.transmitting, read, written⟩ ::
        (middle ++ [⟨.returned 0, stopRead, stopWritten⟩]))
      master where
  attempts entry member := by
    rcases List.mem_append.mp member with earlier | now
    · exact faultless.attempts entry earlier
    · rcases List.mem_cons.mp now with first | later
      · rw [first]
        rintro ⟨⟩
      · rcases List.mem_append.mp later with between | last
        · exact (clean entry between).2
        · rw [List.mem_singleton.mp last]
          rintro ⟨⟩
  receipts := faultless.receipts
  sends send member := by
    rw [completedSends_send client middle
      fun entry inMiddle => (clean entry inMiddle).1] at member
    rcases List.mem_append.mp member with earlier | now
    · exact faultless.sends send earlier
    · rw [List.mem_singleton.mp now]
      exact ⟨rfl, replied, accepted⟩

end States

section Steps

variable {ε : Type}
variable (bus : Master.Bus ε)
variable (host : Host ε)

/-- The acknowledgement that the master sends under an id. -/
def ackFrame (id : UInt8) : Frame :=
  imageFrame Master.crc id ComType.ack.code 0 [] (by decide)

theorem acked_ackFrame (id : UInt8) :
    Acked (ackFrame id).toDatagram :=
  ⟨datagramResult_masterFrame id ComType.ack.code 0 (by decide), rfl⟩

/-- The packet that the client crafts for the given fields. -/
def sentFrame
    (id selector : UInt8)
    {type : UInt8}
    {data : Option Memory}
    {dataSize : UInt8}
    (craftable : Craftable type data dataSize) : Frame :=
  imageFrame Client.crc id type selector (bodyBytes data dataSize)
    (by
      rw [craftable.length_bodyBytes]
      exact craftable.fits)

theorem bytes_sentFrame
    (id selector : UInt8)
    {type : UInt8}
    {data : Option Memory}
    {dataSize : UInt8}
    (craftable : Craftable type data dataSize) :
    (sentFrame id selector craftable).bytes =
      Client.packetImage id type selector (bodyBytes data dataSize) :=
  bytes_imageFrame _ _ _ _ _

/-- The master accepts every packet that the client sends. -/
theorem verdict_sentFrame
    (id selector : UInt8)
    {type : UInt8}
    {data : Option Memory}
    {dataSize : UInt8}
    (craftable : Craftable type data dataSize) :
    (sentFrame id selector craftable).verdict = .success :=
  verdict_imageFrame id selector craftable.knownType _

/-- What the operation of an accepted packet sends. -/
def dats
    (bus : Master.Bus ε)
    (station : Station ε)
    (frame : Frame) : List (List UInt8) :=
  Master.datFrames (frame.nextId station.handler.globalId)
    (Master.effect bus (frame.landed station.handler.rx)
      station.port.env).1

/-- An accepted packet is acknowledged before its operation sends. -/
theorem answers_of_success
    (station : Station ε)
    (frame : Frame)
    (accepted : frame.verdict = .success) :
    station.answers bus frame =
      (ackFrame (frame.ackId station.handler.globalId)).bytes ::
        dats bus station frame := by
  rw [Station.answers, Datagram.served, if_pos accepted, ackFrame,
    bytes_imageFrame]
  rfl

/-- The receipt of an admitted packet is the last in the master's notes. -/
theorem log_after
    (station : Station ε)
    (frame : Frame) :
    (station.after bus frame).port.log =
      station.port.log ++
        [⟨.receiving, station.port.read, station.port.written⟩,
          ⟨.received frame.verdict,
            station.port.read + frame.bytes.length,
            station.port.written⟩] :=
  rfl

/-- The client sends under the id that the master expects. -/
def Agree
    (globalId type : UInt8)
    (station : Station ε) : Prop :=
  globalId =
    if type = ComType.hnd.code then 0 else station.handler.globalId

theorem Agree.admitted
    {globalId : UInt8}
    {station : Station ε}
    {type : UInt8}
    {data : Option Memory}
    {dataSize : UInt8}
    (agree : Agree globalId type station)
    (selector : UInt8)
    (craftable : Craftable type data dataSize) :
    (sentFrame globalId selector craftable).Admitted
      station.handler.globalId := by
  rw [Agree] at agree
  by_cases handshake : type = ComType.hnd.code
  · rw [if_pos handshake] at agree
    exact Or.inr ⟨handshake, agree⟩
  · rw [if_neg handshake] at agree
    exact Or.inl agree

theorem Agree.ackId
    {globalId : UInt8}
    {station : Station ε}
    {type : UInt8}
    {data : Option Memory}
    {dataSize : UInt8}
    (agree : Agree globalId type station)
    (selector : UInt8)
    (craftable : Craftable type data dataSize) :
    (sentFrame globalId selector craftable).ackId
      station.handler.globalId = globalId :=
  agree.symm

/-- The client's packet is accepted, and both sides advance their id. -/
theorem Agree.nextId
    {globalId : UInt8}
    {station : Station ε}
    {type : UInt8}
    {data : Option Memory}
    {dataSize : UInt8}
    (agree : Agree globalId type station)
    (selector : UInt8)
    (craftable : Craftable type data dataSize) :
    (sentFrame globalId selector craftable).nextId
      station.handler.globalId = Client.packetNextId globalId := by
  have accepted :
      (sentFrame globalId selector craftable).verdict = .success :=
    verdict_sentFrame _ _ craftable
  rw [Datagram.nextId, if_pos accepted, agree.ackId,
    packetNextId_eq_increment]

/-- Any packet but a handshake is sent under the common id. -/
theorem Ready.agree
    {globalId : UInt8}
    {port : Port Client.signature (Station ε)}
    (ready : Ready globalId port)
    {type : UInt8}
    (noHandshake : type ≠ ComType.hnd.code) :
    Agree globalId type port.env := by
  rw [Agree, if_neg noHandshake]
  exact ready.ids

/-- The session with the id that follows a packet. -/
def advanced (session : Client.Session) : Client.Session :=
  { session with
    globalId := Client.packetNextId session.globalId }

/-- The client's port once a packet has been sent and acknowledged. -/
def portSent
    (bus : Master.Bus ε)
    (port : Port Client.signature (Station ε))
    (globalId selector : UInt8)
    {type : UInt8}
    {data : Option Memory}
    {dataSize : UInt8}
    (craftable : Craftable type data dataSize) :
    Port Client.signature (Station ε) :=
  portAnswered port (sentFrame globalId selector craftable).bytes
    (ackFrame globalId).toDatagram
    (dats bus port.env (sentFrame globalId selector craftable)).flatten
    (port.env.after bus (sentFrame globalId selector craftable))

/--
A packet sent under the expected id is acknowledged, whatever the line does to
the packets after the acknowledgement.
-/
theorem exec_psend_intact
    {line : Line}
    (session : Client.Session)
    (descriptor : session.avrFd = host.device.number)
    (selector : UInt8)
    {type : UInt8}
    {data : Option Memory}
    {dataSize : UInt8}
    (craftable : Craftable type data dataSize)
    (port : Port Client.signature (Station ε))
    (intactUp : ∀ packet, line.up port.env.arrived packet = packet)
    (intactDown : ∀ packet, line.down port.env.answered packet = packet)
    (idle : port.env.Idle)
    (agree : Agree session.globalId type port.env) :
    exec (drainedWorld bus line host)
        (Client.psend session type selector data dataSize) port =
      (some (0, advanced session),
        portAnswered port
          (sentFrame session.globalId selector craftable).bytes
          (ackFrame session.globalId).toDatagram
          (line.deliver (port.env.answered + 1)
            (dats bus port.env
              (sentFrame session.globalId selector craftable)))
          (port.env.after bus
            (sentFrame session.globalId selector craftable))) := by
  have accepted :
      (sentFrame session.globalId selector craftable).verdict =
        .success :=
    verdict_sentFrame _ _ craftable
  have received :
      line.up port.env.arrived
          (Client.packetImage session.globalId type selector
            (bodyBytes data dataSize)) =
        (sentFrame session.globalId selector craftable).bytes := by
    rw [intactUp, bytes_sentFrame]
  have served :=
    Station.serve_frame bus line idle
      (sentFrame session.globalId selector craftable)
      (agree.admitted selector craftable) received
  rw [answers_of_success bus port.env _ accepted,
    agree.ackId selector craftable, Line.deliver, intactDown] at served
  rw [bytes_sentFrame,
    exec_psend_reply bus line host session descriptor selector craftable
      port (ackFrame session.globalId).toDatagram rfl served,
    if_pos (acked_ackFrame session.globalId),
    if_pos (acked_ackFrame session.globalId)]
  rfl

/-- A packet sent under the expected id on a line without errors. -/
theorem exec_psend_clear
    (session : Client.Session)
    (descriptor : session.avrFd = host.device.number)
    (selector : UInt8)
    {type : UInt8}
    {data : Option Memory}
    {dataSize : UInt8}
    (craftable : Craftable type data dataSize)
    (port : Port Client.signature (Station ε))
    (idle : port.env.Idle)
    (agree : Agree session.globalId type port.env) :
    exec (drainedWorld bus .clear host)
        (Client.psend session type selector data dataSize) port =
      (some (0, advanced session),
        portSent bus port session.globalId selector craftable) := by
  have sent :=
    exec_psend_intact bus host session descriptor selector craftable
      port (fun packet => show Line.clear.up _ packet = packet from rfl)
      (fun _ => rfl) idle agree
  rw [Line.deliver_clear] at sent
  exact sent

/-- A sent packet leaves both sides in step. -/
theorem inStep_portSent
    (globalId selector : UInt8)
    {type : UInt8}
    {data : Option Memory}
    {dataSize : UInt8}
    (craftable : Craftable type data dataSize)
    {port : Port Client.signature (Station ε)}
    (settled : Settled port)
    (agree : Agree globalId type port.env) :
    InStep (Client.packetNextId globalId)
      (portSent bus port globalId selector craftable) where
  ids := (agree.nextId selector craftable).symm
  idle := port.env.idle_after bus _
  upstream := by
    simp only [portSent, portAnswered, Port.noted, Client.portChecked,
      Client.transmittedPacket, Port.transmitted, Port.flushed,
      Station.after, Datagram.portAfter, Station.delivered,
      settled.upstream]
  downstream := by
    have accepted :
        (sentFrame globalId selector craftable).verdict = .success :=
      verdict_sentFrame _ _ craftable
    have answers :=
      answers_of_success bus port.env
        (sentFrame globalId selector craftable) accepted
    rw [agree.ackId selector craftable] at answers
    have flattened := congrArg (fun sent => sent.flatten.length) answers
    rw [List.flatten_cons, List.length_append] at flattened
    change
      port.read + port.input.length + (ackFrame globalId).bytes.length +
          (dats bus port.env
            (sentFrame globalId selector craftable)).flatten.length =
        port.env.port.written +
          (port.env.answers bus
            (sentFrame globalId selector craftable)).flatten.length
    rw [flattened, settled.downstream]
    exact Nat.add_assoc _ _ _

/-- The receipt of an accepted packet keeps the history faultless. -/
theorem Faultless.serve
    {client : ClientLog}
    {station : Station ε}
    (faultless : Faultless client station.port.log)
    {frame : Frame}
    (accepted : frame.verdict = .success) :
    Faultless client (station.after bus frame).port.log := by
  rw [log_after, accepted]
  refine faultless.receive fun entry member => ?_
  simp only [List.mem_cons, List.not_mem_nil, or_false] at member
  rcases member with rfl | rfl
  · rintro ⟨⟩
  · rintro ⟨⟩

/-- The notes of a send, from its first to its last. -/
theorem log_portSent
    (globalId selector : UInt8)
    {type : UInt8}
    {data : Option Memory}
    {dataSize : UInt8}
    (craftable : Craftable type data dataSize)
    (port : Port Client.signature (Station ε)) :
    let replied :=
      port.read + port.input.length + (ackFrame globalId).bytes.length
    let sent :=
      port.written + (sentFrame globalId selector craftable).bytes.length
    (portSent bus port globalId selector craftable).log =
      port.log ++
        ⟨.transmitting, port.read + port.input.length, port.written⟩ ::
          ([⟨.checked ((ackFrame globalId).rest.length + 4), replied,
              sent⟩,
            ⟨.attempted .success, replied, sent⟩] ++
            [⟨.returned 0, replied, sent⟩]) := by
  have intact :
      Client.datagramResult (ackFrame globalId).toDatagram = .success :=
    datagramResult_masterFrame _ _ _ _
  simp [portSent, portAnswered, Port.noted, Client.portChecked,
    Client.transmittedPacket, Port.transmitted, Port.flushed, intact,
    acked_ackFrame]

/-- A sent packet keeps the history faultless. -/
theorem faultless_portSent
    (globalId selector : UInt8)
    {type : UInt8}
    {data : Option Memory}
    {dataSize : UInt8}
    (craftable : Craftable type data dataSize)
    {port : Port Client.signature (Station ε)}
    (settled : Settled port)
    (faultless : Faultless port.log port.env.port.log) :
    Faultless (portSent bus port globalId selector craftable).log
      (portSent bus port globalId selector craftable).env.port.log := by
  have verdict :
      (sentFrame globalId selector craftable).verdict = .success :=
    verdict_sentFrame _ _ craftable
  have accepted :
      Accepted
        (port.env.after bus
          (sentFrame globalId selector craftable)).port.log
        port.written (port.read + port.input.length) := by
    refine ⟨port.env.port.log,
      port.env.port.read +
        (sentFrame globalId selector craftable).bytes.length, [], ?_⟩
    rw [log_after, verdict, settled.upstream, settled.downstream]
  have replied : 0 < (ackFrame globalId).bytes.length := by
    rw [Datagram.length_bytes]
    omega
  rw [log_portSent]
  refine (faultless.serve bus verdict).send ?_
    (Nat.lt_add_of_pos_right replied) accepted _
  intro entry member
  simp only [List.mem_cons, List.not_mem_nil, or_false] at member
  rcases member with rfl | rfl
  · exact ⟨trivial, by rintro ⟨⟩⟩
  · exact ⟨trivial, by rintro ⟨⟩⟩

/-- The `DAT` packet that the master sends under an id. -/
def datFrame
    (id selector : UInt8)
    (body : List UInt8)
    (fits : body.length ≤ bodyMaxLen) : Frame :=
  imageFrame Master.crc id ComType.dat.code selector body fits

/-- A `DAT` packet that is not too long for the transmit buffer is sent. -/
theorem datFrames_of_fits
    (id selector : UInt8)
    {body : List UInt8}
    (fits : body.length ≤ bodyMaxLen)
    (sent : body.length + 5 ≤ Master.txBufferSize) :
    Master.datFrames id (some (selector, body)) =
      [(datFrame id selector body fits).bytes] := by
  rw [Master.datFrames, Master.framed, if_pos sent, datFrame,
    bytes_imageFrame]
  rfl

/-- The client's own acknowledgement. -/
theorem craftable_ack : Craftable ComType.ack.code none 0 :=
  craftable_of_none (by decide)

/-- The client's port once it has acknowledged a `DAT` packet. -/
def portAcknowledged
    (bus : Master.Bus ε)
    (port : Port Client.signature (Station ε))
    (packet : Frame) : Port Client.signature (Station ε) :=
  portReceived port packet.toDatagram []
    (sentFrame packet.id 0 craftable_ack).bytes
    (ackFrame packet.id).bytes
    (port.env.after bus (sentFrame packet.id 0 craftable_ack))

/-- The master answers the client's acknowledgement with one of its own. -/
theorem answers_ack
    {globalId : UInt8}
    {station : Station ε}
    (agree : Agree globalId ComType.ack.code station) :
    station.answers bus (sentFrame globalId 0 craftable_ack) =
      [(ackFrame globalId).bytes] := by
  have accepted :
      (sentFrame globalId 0 craftable_ack).verdict = .success :=
    verdict_sentFrame _ _ craftable_ack
  have typeField :
      packetGetType
          ((sentFrame globalId 0 craftable_ack).landed
            station.handler.rx) =
        ComType.ack.code :=
    Datagram.landed_header _ _ (by decide)
  have inert :
      Master.Inert
        (packetGetType
          ((sentFrame globalId 0 craftable_ack).landed
            station.handler.rx)) := by
    rw [typeField]
    decide
  rw [answers_of_success bus station _ accepted,
    agree.ackId 0 craftable_ack, dats, Master.effect_inert bus inert]
  rfl

/-- A `DAT` packet with the expected id is received and acknowledged. -/
theorem exec_precv_clear
    (session : Client.Session)
    (descriptor : session.avrFd = host.device.number)
    (p : Memory)
    (selector : UInt8)
    {body : List UInt8}
    (fits : body.length ≤ bodyMaxLen)
    (port : Port Client.signature (Station ε))
    (input :
      port.input =
        (datFrame session.globalId selector body fits).bytes)
    (ready : Ready session.globalId port) :
    exec (drainedWorld bus .clear host) (Client.precv session p) port =
      (some
        (0, advanced session,
          (datFrame session.globalId selector body fits).landed p),
        portAcknowledged bus port
          (datFrame session.globalId selector body fits)) := by
  have intact :
      Client.datagramResult
          (datFrame session.globalId selector body fits).toDatagram =
        .success :=
    datagramResult_masterFrame _ _ _ _
  have agree : Agree session.globalId ComType.ack.code port.env :=
    ready.ids
  have received :
      Line.clear.up port.env.arrived
          (Client.packetImage session.globalId ComType.ack.code 0 []) =
        (sentFrame session.globalId 0 craftable_ack).bytes :=
    (bytes_sentFrame _ _ craftable_ack).symm
  have served :=
    Station.serve_frame bus .clear ready.idle
      (sentFrame session.globalId 0 craftable_ack)
      (agree.admitted 0 craftable_ack) received
  rw [answers_ack bus agree, Line.deliver_clear, List.flatten_cons,
    List.flatten_nil, List.append_nil] at served
  have arrived :
      port.input =
        (datFrame session.globalId selector body fits).bytes ++ [] := by
    rw [input, List.append_nil]
  have answered :
      port.env.serve bus .clear
          (Client.packetImage session.globalId
            (if Client.datagramResult
                (datFrame session.globalId selector body
                  fits).toDatagram = .success then
              ComType.ack.code
            else
              ComType.nak.code)
            0 []) =
        some ((ackFrame session.globalId).bytes,
          port.env.after bus
            (sentFrame session.globalId 0 craftable_ack)) := by
    rw [if_pos intact]
    exact served
  have run :=
    exec_precv bus .clear host session descriptor p
      (datFrame session.globalId selector body fits).toDatagram rfl port
      arrived answered
  simp only [intact, ↓reduceIte] at run
  rw [run, portAcknowledged, bytes_sentFrame]
  rfl

/-- A received packet leaves both sides in step. -/
theorem inStep_portAcknowledged
    {port : Port Client.signature (Station ε)}
    (packet : Frame)
    (input : port.input = packet.bytes)
    (inStep : InStep packet.id port) :
    InStep (Client.packetNextId packet.id)
      (portAcknowledged bus port packet) := by
  have agree : Agree packet.id ComType.ack.code port.env :=
    inStep.ids
  refine ⟨⟨port.env.idle_after bus _, ?_, ?_⟩,
    (agree.nextId 0 craftable_ack).symm⟩
  · simp only [portAcknowledged, portReceived, Port.noted,
      Client.portChecked, Port.transmitted, Station.after,
      Datagram.portAfter, Station.delivered, inStep.upstream]
  · have flattened :=
      congrArg (fun sent => sent.flatten.length) (answers_ack bus agree)
    rw [List.flatten_cons, List.flatten_nil, List.append_nil] at flattened
    have downstream := inStep.downstream
    rw [input] at downstream
    change
      port.read + packet.bytes.length + (ackFrame packet.id).bytes.length =
        port.env.port.written +
          (port.env.answers bus
            (sentFrame packet.id 0 craftable_ack)).flatten.length
    rw [flattened, downstream]

/-- A received packet keeps the history faultless. -/
theorem faultless_portAcknowledged
    (port : Port Client.signature (Station ε))
    (packet : Frame)
    (intact : Client.datagramResult packet.toDatagram = .success)
    (faultless : Faultless port.log port.env.port.log) :
    Faultless (portAcknowledged bus port packet).log
      (portAcknowledged bus port packet).env.port.log := by
  have verdict :
      (sentFrame packet.id 0 craftable_ack).verdict = .success :=
    verdict_sentFrame _ _ craftable_ack
  have noted :
      (portAcknowledged bus port packet).log =
        port.log ++
          [⟨.checked (packet.rest.length + 4),
              port.read + packet.bytes.length, port.written⟩,
            ⟨.attempted .success,
              port.read + packet.bytes.length, port.written⟩] := by
    simp [portAcknowledged, portReceived, Port.noted,
      Client.portChecked, Port.transmitted, intact]
  rw [noted]
  refine (faultless.serve bus verdict).note fun entry member => ?_
  simp only [List.mem_cons, List.not_mem_nil, or_false] at member
  rcases member with rfl | rfl
  · exact ⟨trivial, by rintro ⟨⟩⟩
  · exact ⟨trivial, by rintro ⟨⟩⟩

/-- The `DAT` packet that answers a sent packet is delivered with the ACK. -/
theorem input_portSent
    {globalId selector : UInt8}
    {type : UInt8}
    {data : Option Memory}
    {dataSize : UInt8}
    (craftable : Craftable type data dataSize)
    {port : Port Client.signature (Station ε)}
    (agree : Agree globalId type port.env)
    {reply : Option (UInt8 × List UInt8)}
    (replied :
      (Master.effect bus
        ((sentFrame globalId selector craftable).landed
          port.env.handler.rx) port.env.port.env).1 = reply) :
    (portSent bus port globalId selector craftable).input =
      (Master.datFrames (Client.packetNextId globalId) reply).flatten := by
  rw [← replied, ← agree.nextId selector craftable]
  rfl

/-- A packet that is answered with a `DAT` packet, which is acknowledged. -/
theorem exec_exchange
    {session : Client.Session}
    {port : Port Client.signature (Station ε)}
    (ready : Ready session.globalId port)
    (descriptor : session.avrFd = host.device.number)
    (selector : UInt8)
    {type : UInt8}
    {data : Option Memory}
    {dataSize : UInt8}
    (craftable : Craftable type data dataSize)
    (noHandshake : type ≠ ComType.hnd.code)
    {replySelector : UInt8}
    {body : List UInt8}
    (fits : body.length ≤ bodyMaxLen)
    (sent : body.length + 5 ≤ Master.txBufferSize)
    (replied :
      (Master.effect bus
        ((sentFrame session.globalId selector craftable).landed
          port.env.handler.rx) port.env.port.env).1 =
        some (replySelector, body))
    (p : Memory) :
    exec (drainedWorld bus .clear host)
        (Client.precv (advanced session) p)
        (portSent bus port session.globalId selector craftable) =
      (some
        (0, advanced (advanced session),
          (datFrame (advanced session).globalId replySelector body
            fits).landed p),
        portAcknowledged bus
          (portSent bus port session.globalId selector craftable)
          (datFrame (advanced session).globalId replySelector body
            fits)) := by
  have agree := ready.agree noHandshake
  have stillConnected :
      (advanced session).avrFd = host.device.number :=
    descriptor
  have delivered :
      (portSent bus port session.globalId selector craftable).input =
        (datFrame (advanced session).globalId replySelector body
          fits).bytes := by
    rw [input_portSent bus craftable agree replied,
      datFrames_of_fits _ _ fits sent, List.flatten_cons,
      List.flatten_nil, List.append_nil]
    rfl
  exact
    exec_precv_clear bus host (advanced session) stillConnected p
      replySelector fits _ delivered
      ⟨port.env.idle_after bus _,
        (agree.nextId selector craftable).symm⟩

end Steps

end Ammc.Exchange
