import Ammc.CommandShape

namespace Ammc.Exchange

open ByteMemory Serial Packet

/-!
# Exchanges with one corrupted packet

One packet of an exchange is changed behind its header, and the checksum detects
the change.  All other packets arrive as they were sent.
-/

/-- A change behind the header of a packet that its checksum detects. -/
structure Corruption where
  change : List UInt8 → List UInt8
  length_change : ∀ packet, (change packet).length = packet.length
  header :
    ∀ packet,
      (change packet).take headerSize = packet.take headerSize
  detected :
    ∀ packet,
      packetMinSize ≤ packet.length → Master.crcCheck packet = 0 →
        Master.crcCheck (change packet) ≠ 0

/-- The packets of an exchange that may be corrupted. -/
inductive Place where
  | command
  | ack
  | dat
  | clientAck
  deriving Repr, DecidableEq

/-- The packet is part of the command's exchange. -/
def Present (command : Client.Command) : Place → Prop
  | .command | .ack => SendsPacket command
  | .dat | .clientAck => AnsweredByDat command

namespace Corruption

variable (corruption : Corruption)

/-- One packet of a direction is changed. -/
def strike
    (victim index : Nat)
    (packet : List UInt8) : List UInt8 :=
  if index = victim then corruption.change packet else packet

/-- The line for an exchange that begins at the given master. -/
def line
    (station : Station ε) : Place → Line
  | .command =>
      { up := corruption.strike station.arrived
        down := fun _ packet => packet }
  | .ack =>
      { up := fun _ packet => packet
        down := corruption.strike station.answered }
  | .dat =>
      { up := fun _ packet => packet
        down := corruption.strike (station.answered + 1) }
  | .clientAck =>
      { up := corruption.strike (station.arrived + 1)
        down := fun _ packet => packet }

/-- As many bytes as before follow the header of a changed packet. -/
theorem length_drop_change (frame : Frame) :
    ((corruption.change frame.bytes).drop headerSize).length =
      frame.rest.length := by
  rw [List.length_drop, corruption.length_change,
    Datagram.length_bytes]
  exact Nat.add_sub_cancel _ _

theorem fits_change (frame : Frame) :
    ((corruption.change frame.bytes).drop headerSize).length ≤ 33 := by
  rw [corruption.length_drop_change]
  exact frame.fits

theorem closed_change (frame : Frame) :
    (corruption.change frame.bytes).drop headerSize ≠ [] := by
  apply List.length_pos_iff.mp
  rw [corruption.length_drop_change]
  exact List.length_pos_iff.mpr frame.closed

/-- What becomes of a complete packet. -/
def hit (frame : Frame) : Frame where
  id := frame.id
  type := frame.type
  selector := frame.selector
  rest := (corruption.change frame.bytes).drop headerSize
  fits := corruption.fits_change frame
  closed := corruption.closed_change frame

theorem bytes_hit (frame : Frame) :
    (corruption.hit frame).bytes = corruption.change frame.bytes := by
  have length :
      (corruption.hit frame).rest.length = frame.rest.length :=
    corruption.length_drop_change frame
  have sameHeader :
      (corruption.hit frame).header = frame.header := by
    rw [Datagram.header, Datagram.header, Datagram.size, length]
    rfl
  have header := corruption.header frame.bytes
  have split :=
    List.take_append_drop headerSize (corruption.change frame.bytes)
  rw [header] at split
  rw [Datagram.bytes, sameHeader]
  exact split

/-- A complete packet is no shorter than a packet without a body. -/
theorem packetMinSize_le (frame : Frame) :
    packetMinSize ≤ frame.bytes.length := by
  have nonempty := List.length_pos_iff.mpr frame.closed
  rw [Datagram.length_bytes]
  simp only [packetMinSize, headerSize, crcSize]
  omega

/-- The master detects that a packet has been changed. -/
theorem verdict_hit
    (frame : Frame)
    (intact : frame.verdict = .success) :
    (corruption.hit frame).verdict = .corruptedChecksum := by
  rw [Datagram.verdict] at intact
  split at intact
  · cases intact
  · rename_i known
    split at intact
    · cases intact
    · rename_i checked
      have detected :=
        corruption.detected frame.bytes (packetMinSize_le frame)
          (not_not.mp checked)
      have stillKnown :
          ¬ (corruption.hit frame).type ≥ ComType.limit.code :=
        known
      rw [Datagram.verdict, if_neg stillKnown, bytes_hit,
        if_pos detected]

/-- The client detects that a packet of the master has been changed. -/
theorem datagramResult_hit
    (id type selector : UInt8)
    {body : List UInt8}
    (fits : body.length ≤ bodyMaxLen) :
    Client.datagramResult
        (corruption.hit
          (imageFrame Master.crc id type selector body
            fits)).toDatagram =
      .corruptedChecksum := by
  have intact :
      Master.crcCheck
        (imageFrame Master.crc id type selector body fits).bytes = 0 := by
    rw [bytes_imageFrame, image, Master.crcCheck_concat]
  have detected :=
    corruption.detected _ (packetMinSize_le _) intact
  rw [← Crc.client_crcCheck_eq_master_crcCheck] at detected
  rw [Client.datagramResult, bytes_hit, if_pos detected]

/-- Both directions leave every packet but one as it is. -/
theorem strike_other
    {victim index : Nat}
    (other : index ≠ victim)
    (packet : List UInt8) :
    corruption.strike victim index packet = packet :=
  if_neg other

theorem strike_victim
    (victim : Nat)
    (frame : Frame) :
    corruption.strike victim victim frame.bytes =
      (corruption.hit frame).bytes := by
  rw [strike, if_pos rfl, bytes_hit]

end Corruption

section Cases

variable {ε : Type}
variable (bus : Master.Bus ε)
variable (host : Host ε)

/-- A packet whose reply is no acknowledgement is sent in vain. -/
theorem exec_psend_unacknowledged
    {line : Line}
    (session : Client.Session)
    (descriptor : session.avrFd = host.device.number)
    (selector : UInt8)
    {type : UInt8}
    {data : Option Memory}
    {dataSize : UInt8}
    (craftable : Craftable type data dataSize)
    (port : Port Client.signature (Station ε))
    {reply : Datagram}
    (unacknowledged : ¬ Acked reply)
    {tail : List UInt8}
    {station : Station ε}
    (served :
      port.env.serve bus line
          (Client.packetImage session.globalId type selector
            (bodyBytes data dataSize)) =
        some (reply.bytes ++ tail, station)) :
    ∃ after,
      exec (drainedWorld bus line host)
          (Client.psend session type selector data dataSize) port =
        (some (1, { session with globalId := 0 }), after) ∧
      after.env = station := by
  by_cases sameId : reply.id = session.globalId
  · have sent :=
      exec_psend_reply bus line host session descriptor selector
        craftable port reply sameId served
    rw [if_neg unacknowledged, if_neg unacknowledged] at sent
    exact ⟨_, sent, rfl⟩
  · exact
      exec_psend_otherId bus line host session descriptor selector
        craftable port reply sameId served

/-- The command ends, and both sides hold the same id. -/
def EndsInAgreement
    (line : Line)
    (session : Client.Session)
    (command : Client.Command)
    (port : Port Client.signature (Station ε)) : Prop :=
  ∃ code last after,
    exec (drainedWorld bus line host) (command.exec session) port =
      (some (code, last), after) ∧
    last.globalId = after.env.handler.globalId

/-- A command that ends is judged by the ids at its end. -/
theorem endsInAgreement_iff
    {line : Line}
    {session last : Client.Session}
    {command : Client.Command}
    {port after : Port Client.signature (Station ε)}
    {code : Int}
    (run :
      exec (drainedWorld bus line host) (command.exec session) port =
        (some (code, last), after)) :
    EndsInAgreement bus host line session command port ↔
      last.globalId = after.env.handler.globalId := by
  constructor
  · rintro ⟨_, _, _, same, agree⟩
    rw [run] at same
    cases same
    exact agree
  · intro agree
    exact ⟨code, last, after, run, agree⟩

/-- The packet of a command, as the client sends it. -/
def commandFrame
    (session : Client.Session)
    (port : Port Client.signature (Station ε))
    {command : Client.Command}
    (sends : SendsPacket command) : Frame :=
  sentFrame (starting session command).globalId
    (request (host.uninitialised port.env) command).selector
    (request_craftable (host.uninitialised port.env) sends)

theorem verdict_commandFrame
    (session : Client.Session)
    (port : Port Client.signature (Station ε))
    {command : Client.Command}
    (sends : SendsPacket command) :
    (commandFrame host session port sends).verdict = .success :=
  verdict_sentFrame _ _
    (request_craftable (host.uninitialised port.env) sends)

@[simp] theorem env_startingPort
    (port : Port Client.signature (Station ε))
    (command : Client.Command) :
    (startingPort port command).env = port.env := by
  cases command with
  | connect device => rfl
  | _ => rfl

theorem avrFd_starting
    (session : Client.Session)
    (command : Client.Command) :
    (starting session command).avrFd = session.avrFd := by
  cases command with
  | connect device => rfl
  | _ => rfl

theorem starting_zeroed
    (session : Client.Session)
    (command : Client.Command) :
    ({ starting session command with globalId := 0 } : Client.Session) =
      { session with globalId := 0 } := by
  cases command with
  | connect device => rfl
  | _ => rfl

/-- A command sends its packet under the id that the master expects. -/
theorem Ready.agree_starting
    {session : Client.Session}
    {port : Port Client.signature (Station ε)}
    (ready : Ready session.globalId port)
    (fresh : Memory)
    (command : Client.Command) :
    Agree (starting session command).globalId
      (request fresh command).type port.env := by
  by_cases handshake : IsConnect command
  · cases command with
    | connect device => rfl
    | _ => exact handshake.elim
  · have same : (starting session command).globalId = session.globalId := by
      cases command with
      | connect device => exact absurd trivial handshake
      | _ => rfl
    rw [same]
    exact ready.agree (request_noHandshake fresh handshake)

/-- The refusal that the master sends under an id. -/
def nakFrame (id : UInt8) (error : ComError) : Frame :=
  imageFrame Master.crc id ComType.nak.code error.code []
    (Nat.zero_le _)

theorem not_acked_nakFrame (id : UInt8) (error : ComError) :
    ¬ Acked (nakFrame id error).toDatagram := by
  rintro ⟨_, acknowledged⟩
  exact absurd acknowledged
    (show ComType.nak.code ≠ ComType.ack.code by decide)

/-- A packet that the checksum refuses is answered with `NAK`. -/
theorem answers_of_corrupted
    (station : Station ε)
    (frame : Frame)
    (corrupted : frame.verdict = .corruptedChecksum) :
    station.answers bus frame =
      [(nakFrame station.handler.globalId .corruptedChecksum).bytes] := by
  rw [Station.answers, Datagram.served, if_neg (by rw [corrupted]; decide),
    corrupted, nakFrame, bytes_imageFrame]
  rfl

/-- A refused packet takes the master to id 0. -/
theorem globalId_after_corrupted
    (station : Station ε)
    (frame : Frame)
    (corrupted : frame.verdict = .corruptedChecksum) :
    (station.after bus frame).handler.globalId = 0 := by
  change frame.nextId station.handler.globalId = 0
  rw [Datagram.nextId, if_neg (by rw [corrupted]; decide)]

/-- A refused packet takes the client to id 0 and ends its command. -/
theorem endsInAgreement_of_refused
    {line : Line}
    {session : Client.Session}
    (connected : session.avrFd = host.device.number)
    {command : Client.Command}
    (sends : SendsPacket command)
    {port : Port Client.signature (Station ε)}
    {reply : Datagram}
    (unacknowledged : ¬ Acked reply)
    {tail : List UInt8}
    {station : Station ε}
    (served :
      port.env.serve bus line (commandFrame host session port sends).bytes =
        some (reply.bytes ++ tail, station)) :
    EndsInAgreement bus host line session command port ↔
      station.handler.globalId = 0 := by
  have craftable :=
    request_craftable (host.uninitialised port.env) sends
  have servedImage :
      (startingPort port command).env.serve bus line
          (Client.packetImage (starting session command).globalId
            (request (host.uninitialised port.env) command).type
            (request (host.uninitialised port.env) command).selector
            (bodyBytes
              (request (host.uninitialised port.env) command).data
              (request (host.uninitialised port.env) command).dataSize)) =
        some (reply.bytes ++ tail, station) := by
    rw [env_startingPort, ← bytes_sentFrame _ _ craftable]
    exact served
  obtain ⟨after, sent, env⟩ :=
    exec_psend_unacknowledged bus host (starting session command)
      ((avrFd_starting session command).trans connected) _ craftable
      (startingPort port command) unacknowledged servedImage
  rw [starting_zeroed] at sent
  have refused :
      exec (drainedWorld bus line host)
          (psendRequest (starting session command)
            (request (host.uninitialised port.env) command))
          (startingPort port command) =
        (some (1, { session with globalId := 0 }), after) := by
    rw [psendRequest]
    exact sent
  obtain ⟨message, run⟩ :=
    exec_command_refused bus host connected sends refused
  have agreement := endsInAgreement_iff bus host run
  rw [agreement, ← env]
  exact eq_comm

/-- A corrupted command takes both sides to id 0. -/
theorem command_struck
    (corruption : Corruption)
    {session : Client.Session}
    (connected : session.avrFd = host.device.number)
    {port : Port Client.signature (Station ε)}
    (ready : Ready session.globalId port)
    {command : Client.Command}
    (sends : SendsPacket command) :
    EndsInAgreement bus host (corruption.line port.env .command) session
      command port := by
  have agree :=
    ready.agree_starting (host.uninitialised port.env) command
  have admitted :
      (corruption.hit
        (commandFrame host session port sends)).Admitted
        port.env.handler.globalId :=
    agree.admitted
      (request (host.uninitialised port.env) command).selector
      (request_craftable (host.uninitialised port.env) sends)
  have corrupted :
      (corruption.hit
        (commandFrame host session port sends)).verdict =
        .corruptedChecksum :=
    corruption.verdict_hit _
      (verdict_commandFrame host session port sends)
  have served :=
    Station.serve_frame bus (corruption.line port.env .command)
      ready.idle _ admitted (corruption.strike_victim _ _)
  rw [answers_of_corrupted bus _ _ corrupted] at served
  rw [endsInAgreement_of_refused bus host connected sends
    (not_acked_nakFrame _ _) served]
  exact globalId_after_corrupted bus _ _ corrupted

/-- A corrupted `ACK` takes the client to id 0, and the master a step on. -/
theorem ack_struck
    (corruption : Corruption)
    {session : Client.Session}
    (connected : session.avrFd = host.device.number)
    {port : Port Client.signature (Station ε)}
    (ready : Ready session.globalId port)
    {command : Client.Command}
    (sends : SendsPacket command) :
    EndsInAgreement bus host (corruption.line port.env .ack) session
        command port ↔
      Client.packetNextId (starting session command).globalId = 0 := by
  have agree :=
    ready.agree_starting (host.uninitialised port.env) command
  have craftable :=
    request_craftable (host.uninitialised port.env) sends
  have accepted :
      (commandFrame host session port sends).verdict = .success :=
    verdict_commandFrame host session port sends
  have served :=
    Station.serve_frame bus (corruption.line port.env .ack) ready.idle
      (commandFrame host session port sends)
      (agree.admitted
        (request (host.uninitialised port.env) command).selector
        craftable)
      rfl
  have struck :
      (corruption.line port.env .ack).down port.env.answered
          (ackFrame
            ((commandFrame host session port sends).ackId
              port.env.handler.globalId)).bytes =
        (corruption.hit
          (ackFrame
            ((commandFrame host session port sends).ackId
              port.env.handler.globalId))).bytes :=
    corruption.strike_victim _ _
  rw [answers_of_success bus _ _ accepted, Line.deliver, struck] at served
  have unacknowledged :
      ¬ Acked
        (corruption.hit
          (ackFrame
            ((commandFrame host session port sends).ackId
              port.env.handler.globalId))).toDatagram := by
    rintro ⟨intact, _⟩
    rw [ackFrame, corruption.datagramResult_hit _ _ _ (by decide)] at intact
    cases intact
  rw [endsInAgreement_of_refused bus host connected sends
    unacknowledged served,
    ← agree.nextId
      (request (host.uninitialised port.env) command).selector craftable]
  rfl

/-- A packet that is acknowledged and then answered with a `DAT` packet. -/
theorem exec_request_acknowledged
    (line : Line)
    {session : Client.Session}
    (connected : session.avrFd = host.device.number)
    {port : Port Client.signature (Station ε)}
    (ready : Ready session.globalId port)
    {command : Client.Command}
    (answered : AnsweredByDat command)
    (intactUp : ∀ packet, line.up port.env.arrived packet = packet)
    (intactDown :
      ∀ packet, line.down port.env.answered packet = packet) :
    ∃ selector body,
      ∃ fits : body.length ≤ bodyMaxLen,
        ∃ middle,
          exec (drainedWorld bus line host)
              (psendRequest session
                (request (host.uninitialised port.env) command)) port =
            (some (0, advanced session), middle) ∧
          middle.input =
            line.down (port.env.answered + 1)
              (datFrame (advanced session).globalId selector body
                fits).bytes ∧
          middle.env =
            port.env.after bus
              (commandFrame host session port answered.sends) ∧
          Ready (advanced session).globalId middle := by
  have same : starting session command = session := by
    cases command with
    | connect device => exact answered.elim
    | _ => rfl
  have agree :=
    ready.agree_starting (host.uninitialised port.env) command
  have craftable :=
    request_craftable (host.uninitialised port.env) answered.sends
  rw [same] at agree
  obtain ⟨selector, body, replied, short⟩ :=
    answered.effect bus (host.uninitialised port.env) session.globalId
      port.env.handler.rx port.env.port.env
  have fits : body.length ≤ bodyMaxLen := by
    simp only [bodyMaxLen]
    omega
  have sent :=
    exec_psend_intact bus host session connected
      (request (host.uninitialised port.env) command).selector craftable
      port intactUp intactDown ready.idle agree
  have answer :
      dats bus port.env
          (sentFrame session.globalId
            (request (host.uninitialised port.env) command).selector
            craftable) =
        [(datFrame (advanced session).globalId selector body
          fits).bytes] := by
    rw [dats, agree.nextId _ craftable, replied]
    exact
      datFrames_of_fits _ _ fits
        (by simp only [Master.txBufferSize]; omega)
  rw [answer, Line.deliver, Line.deliver, List.append_nil] at sent
  refine ⟨selector, body, fits, _, sent, rfl, ?_,
    ⟨port.env.idle_after bus _, (agree.nextId _ craftable).symm⟩⟩
  rw [commandFrame, same]
  rfl

/-- The client's own refusal. -/
theorem craftable_nak : Craftable ComType.nak.code none 0 :=
  craftable_of_none (by decide)

/-- The ids at the end are the client's after the answer and the master's. -/
theorem ends_after_answer
    {line : Line}
    {session : Client.Session}
    (connected : session.avrFd = host.device.number)
    {command : Client.Command}
    (answered : AnsweredByDat command)
    {port middle : Port Client.signature (Station ε)}
    (acknowledged :
      exec (drainedWorld bus line host)
          (psendRequest session
            (request (host.uninitialised port.env) command)) port =
        (some (0, advanced session), middle))
    {packet : Datagram}
    (sameId : packet.id = (advanced session).globalId)
    (arrived : middle.input = packet.bytes ++ [])
    {back : List UInt8}
    {station : Station ε}
    (served :
      middle.env.serve bus line
          (Client.packetImage (advanced session).globalId
            (if Client.datagramResult packet = .success then
              ComType.ack.code
            else
              ComType.nak.code)
            0 []) =
        some (back, station)) :
    EndsInAgreement bus host line session command port ↔
      (if Client.datagramResult packet = .success then
        Client.packetNextId (advanced session).globalId
      else
        (advanced session).globalId) =
        station.handler.globalId := by
  have answer :=
    exec_precv bus line host (advanced session) connected
      (host.uninitialised middle.env) packet sameId middle arrived served
  obtain ⟨code, last, run, lastEnv⟩ :=
    exec_command_received bus host connected answered acknowledged answer
  rw [endsInAgreement_iff bus host run, lastEnv]
  rfl

/-- A refused `DAT` packet leaves the client behind the master. -/
theorem dat_struck
    (corruption : Corruption)
    {session : Client.Session}
    (connected : session.avrFd = host.device.number)
    {port : Port Client.signature (Station ε)}
    (ready : Ready session.globalId port)
    {command : Client.Command}
    (answered : AnsweredByDat command) :
    EndsInAgreement bus host (corruption.line port.env .dat) session
        command port ↔
      (advanced session).globalId =
        Client.packetNextId (advanced session).globalId := by
  obtain ⟨selector, body, fits, middle, sent, input, env, stillReady⟩ :=
    exec_request_acknowledged bus host (corruption.line port.env .dat)
      connected ready answered (fun _ => rfl)
      (corruption.strike_other (Nat.ne_of_lt (Nat.lt_succ_self _)))
  have arrived :
      middle.input =
        (corruption.hit
          (datFrame (advanced session).globalId selector body
            fits)).bytes ++ [] := by
    rw [input, List.append_nil]
    exact corruption.strike_victim _ _
  have refused :
      Client.datagramResult
          (corruption.hit
            (datFrame (advanced session).globalId selector body
              fits)).toDatagram =
        .corruptedChecksum :=
    corruption.datagramResult_hit _ _ _ fits
  have agree :
      Agree (advanced session).globalId ComType.nak.code middle.env :=
    stillReady.ids
  have intact :
      (corruption.line port.env .dat).up middle.env.arrived
          (sentFrame (advanced session).globalId 0
            craftable_nak).bytes =
        (sentFrame (advanced session).globalId 0 craftable_nak).bytes :=
    rfl
  have served :=
    Station.serve_frame bus (corruption.line port.env .dat)
      stillReady.idle
      (sentFrame (advanced session).globalId 0 craftable_nak)
      (agree.admitted 0 craftable_nak) intact
  rw [bytes_sentFrame] at served
  have failed :
      ¬ Client.datagramResult
          (corruption.hit
            (datFrame (advanced session).globalId selector body
              fits)).toDatagram =
        .success := by
    rw [refused]
    decide
  rw [ends_after_answer bus host connected answered sent rfl arrived
    (by
      rw [if_neg failed]
      exact served),
    if_neg failed, ← agree.nextId 0 craftable_nak]
  rfl

/-- A refused acknowledgement takes the master to id 0. -/
theorem clientAck_struck
    (corruption : Corruption)
    {session : Client.Session}
    (connected : session.avrFd = host.device.number)
    {port : Port Client.signature (Station ε)}
    (ready : Ready session.globalId port)
    {command : Client.Command}
    (answered : AnsweredByDat command) :
    EndsInAgreement bus host (corruption.line port.env .clientAck)
        session command port ↔
      Client.packetNextId (advanced session).globalId = 0 := by
  obtain ⟨selector, body, fits, middle, sent, input, env, stillReady⟩ :=
    exec_request_acknowledged bus host
      (corruption.line port.env .clientAck) connected ready answered
      (corruption.strike_other (Nat.ne_of_lt (Nat.lt_succ_self _)))
      (fun _ => rfl)
  have arrived :
      middle.input =
        (datFrame (advanced session).globalId selector body
          fits).bytes ++ [] := by
    rw [input, List.append_nil]
    rfl
  have intact :
      Client.datagramResult
          (datFrame (advanced session).globalId selector body
            fits).toDatagram =
        .success :=
    datagramResult_masterFrame _ _ _ fits
  have agree :
      Agree (advanced session).globalId ComType.ack.code middle.env :=
    stillReady.ids
  have corrupted :
      (corruption.hit
        (sentFrame (advanced session).globalId 0
          craftable_ack)).verdict = .corruptedChecksum :=
    corruption.verdict_hit _ (verdict_sentFrame _ _ craftable_ack)
  have admitted :
      (corruption.hit
        (sentFrame (advanced session).globalId 0
          craftable_ack)).Admitted middle.env.handler.globalId :=
    agree.admitted 0 craftable_ack
  have struck :
      (corruption.line port.env .clientAck).up middle.env.arrived
          (sentFrame (advanced session).globalId 0
            craftable_ack).bytes =
        (corruption.hit
          (sentFrame (advanced session).globalId 0
            craftable_ack)).bytes := by
    rw [env]
    exact corruption.strike_victim _ _
  have served :=
    Station.serve_frame bus (corruption.line port.env .clientAck)
      stillReady.idle _ admitted struck
  rw [bytes_sentFrame] at served
  have zero := globalId_after_corrupted bus middle.env _ corrupted
  rw [ends_after_answer bus host connected answered sent rfl arrived
    (by
      rw [if_pos intact]
      exact served),
    if_pos intact, zero]

/--
Where the corruption of a packet, from a common id on, leaves both sides at the
same id.
-/
def Recovers
    (command : Client.Command)
    (globalId : UInt8) : Place → Prop
  | .command => True
  | .ack => ¬ IsConnect command ∧ globalId = 254
  | .dat => False
  | .clientAck => globalId = 253

theorem packetNextId_toNat (globalId : UInt8) :
    (Client.packetNextId globalId).toNat =
      (globalId.toNat + 1) % 255 := by
  rw [Client.packetNextId, UInt8.toNat_ofNat']
  omega

/-- Only 254 is followed by 0. -/
theorem packetNextId_eq_zero (globalId : UInt8) :
    Client.packetNextId globalId = 0 ↔ globalId = 254 := by
  have bound := globalId.toNat_lt
  rw [← UInt8.toNat_inj, ← UInt8.toNat_inj, packetNextId_toNat]
  simp only [UInt8.reduceToNat]
  omega

/-- Only 253 is followed by 254. -/
theorem packetNextId_twice_eq_zero (globalId : UInt8) :
    Client.packetNextId (Client.packetNextId globalId) = 0 ↔
      globalId = 253 := by
  have bound := globalId.toNat_lt
  rw [packetNextId_eq_zero, ← UInt8.toNat_inj, ← UInt8.toNat_inj,
    packetNextId_toNat]
  simp only [UInt8.reduceToNat]
  omega

/-- No id follows itself. -/
theorem packetNextId_ne (globalId : UInt8) :
    globalId ≠ Client.packetNextId globalId := by
  intro same
  have value := congrArg UInt8.toNat same
  rw [packetNextId_toNat] at value
  omega

/--
A command that starts from a common id and has one of its packets corrupted
leaves both sides at the same id exactly when that packet is the command itself,
or the ids run over into 0 by themselves.
-/
theorem corrupted_exchange_agrees_iff
    (corruption : Corruption)
    {session : Client.Session}
    (connected : session.avrFd = host.device.number)
    {port : Port Client.signature (Station ε)}
    (ready : Ready session.globalId port)
    {command : Client.Command}
    {place : Place}
    (present : Present command place) :
    EndsInAgreement bus host (corruption.line port.env place) session
        command port ↔
      Recovers command session.globalId place := by
  cases place with
  | command =>
      exact
        iff_of_true
          (command_struck bus host corruption connected ready present)
          trivial
  | ack =>
      rw [ack_struck bus host corruption connected ready present,
        packetNextId_eq_zero, Recovers]
      cases command with
      | connect device =>
          exact
            iff_of_false
              (show ¬ (0 : UInt8) = 254 by decide)
              (fun both => both.1 trivial)
      | _ => exact ⟨fun last => ⟨id, last⟩, fun both => both.2⟩
  | dat =>
      rw [dat_struck bus host corruption connected ready present]
      exact iff_of_false (packetNextId_ne _) id
  | clientAck =>
      rw [clientAck_struck bus host corruption connected ready present]
      exact packetNextId_twice_eq_zero session.globalId

end Cases

/-- The lowest bit of the checksum is inverted. -/
def flipChecksum (packet : List UInt8) : List UInt8 :=
  if packetMinSize ≤ packet.length then
    packet.dropLast ++ [packet.getLastD 0 ^^^ 1]
  else
    packet

theorem length_flipChecksum (packet : List UInt8) :
    (flipChecksum packet).length = packet.length := by
  rw [flipChecksum]
  split
  · rename_i long
    simp only [packetMinSize, headerSize, crcSize] at long
    simp only [List.length_append, List.length_dropLast,
      List.length_singleton]
    omega
  · rfl

theorem take_flipChecksum (packet : List UInt8) :
    (flipChecksum packet).take headerSize = packet.take headerSize := by
  rw [flipChecksum]
  split
  · rename_i long
    rcases List.eq_nil_or_concat packet with
      rfl | ⟨message, checksum, rfl⟩
    · exact absurd long (by decide)
    · simp only [packetMinSize, headerSize, crcSize,
        List.concat_eq_append, List.length_append,
        List.length_singleton] at long
      have inMessage : headerSize ≤ message.length := by
        simp only [headerSize]
        omega
      rw [List.concat_eq_append, List.dropLast_concat,
        List.take_append_of_le_length inMessage,
        List.take_append_of_le_length inMessage]
  · rfl

theorem crcCheck_flipChecksum
    (packet : List UInt8)
    (long : packetMinSize ≤ packet.length)
    (intact : Master.crcCheck packet = 0) :
    Master.crcCheck (flipChecksum packet) ≠ 0 := by
  rw [flipChecksum, if_pos long]
  rcases List.eq_nil_or_concat packet with
    rfl | ⟨message, checksum, rfl⟩
  · exact absurd long (by decide)
  · rw [List.concat_eq_append, Master.crcCheck_concat] at intact
    rw [List.concat_eq_append, List.dropLast_concat,
      List.getLastD_concat, ne_eq, Master.crcCheck_concat, ← intact]
    intro unchanged
    have cancelled := congrArg (checksum ^^^ ·) unchanged
    simp only [← UInt8.xor_assoc, UInt8.xor_self,
      UInt8.zero_xor] at cancelled
    exact absurd cancelled (by decide)

/-- Inverting a bit of the checksum is always detected. -/
def checksumFlip : Corruption where
  change := flipChecksum
  length_change := length_flipChecksum
  header := take_flipChecksum
  detected := crcCheck_flipChecksum

/-- A ping of slave 5 at id 253, with the client's `ACK` corrupted. -/
theorem corrupted_exchange_agrees_ping :
    EndsInAgreement Master.idleBus plainHost
        (checksumFlip.line (freshPort 253 (fun _ => 0) ()).env
          .clientAck)
        ⟨253, 3⟩ (.ping 5) (freshPort 253 (fun _ => 0) ()) ↔
      Recovers (.ping 5) 253 .clientAck :=
  corrupted_exchange_agrees_iff Master.idleBus plainHost checksumFlip
    (show (3 : Int) = plainHost.device.number from rfl)
    (show Ready (253 : UInt8) (freshPort 253 (fun _ => 0) ()) from
      ⟨⟨rfl, rfl⟩, rfl⟩)
    (show ¬ ((5 : UInt32) = 0 ∨ (5 : UInt32) > 127) by decide)

/-- A ping of slave 5 whose `DAT` packet is corrupted leaves ids apart. -/
theorem corruptedDat_disagrees :
    Present (.ping 5) .dat ∧
    Ready (5 : UInt8) (freshPort 5 (fun _ => 0) ()) ∧
    ¬ EndsInAgreement Master.idleBus plainHost
        (checksumFlip.line (freshPort 5 (fun _ => 0) ()).env .dat)
        ⟨5, 3⟩ (.ping 5) (freshPort 5 (fun _ => 0) ()) := by
  have present : AnsweredByDat (.ping 5) :=
    show ¬ ((5 : UInt32) = 0 ∨ (5 : UInt32) > 127) by decide
  have ready : Ready (5 : UInt8) (freshPort 5 (fun _ => 0) ()) :=
    ⟨⟨rfl, rfl⟩, rfl⟩
  have connected :
      (⟨5, 3⟩ : Client.Session).avrFd = plainHost.device.number :=
    rfl
  refine ⟨present, ready, ?_⟩
  rw [dat_struck Master.idleBus plainHost checksumFlip connected ready
    present]
  exact packetNextId_ne _

end Ammc.Exchange
