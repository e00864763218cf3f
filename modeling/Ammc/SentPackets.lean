import Ammc.ClientCommands

namespace Ammc.Serial.Prog

/-!
# What a program of the client sends

A program sends only buffers of some kind when it does so whatever it is
answered.  The commands of the client send their own packet, and they
acknowledge packets of the master.
-/

variable {S : Signature} {ε α β : Type}
variable {good : List UInt8 → Prop}

/-- Whatever the answers are, every buffer handed to the line is good. -/
def SendsOnly (good : List UInt8 → Prop) : Prog S α → Prop
  | .done _ => True
  | .rx _ _ next => ∀ bytes, (next bytes).SendsOnly good
  | .tx bytes next => good bytes ∧ next.SendsOnly good
  | .poll next => ∀ ready, (next ready).SendsOnly good
  | .flush next => next.SendsOnly good
  | .ask _ next => ∀ reply, (next reply).SendsOnly good
  | .note _ next => next.SendsOnly good

/-- A sequence sends what its parts send. -/
theorem SendsOnly.bind
    {program : Prog S α}
    {next : α → Prog S β}
    (sends : program.SendsOnly good)
    (continued : ∀ value, (next value).SendsOnly good) :
    (program >>= next).SendsOnly good := by
  change (program.bind next).SendsOnly good
  induction program with
  | done value => exact continued value
  | rx offset count rest inductionHypothesis =>
      intro bytes
      exact inductionHypothesis bytes (sends bytes)
  | tx bytes rest inductionHypothesis =>
      exact ⟨sends.1, inductionHypothesis sends.2⟩
  | poll rest inductionHypothesis =>
      intro ready
      exact inductionHypothesis ready (sends ready)
  | flush rest inductionHypothesis => exact inductionHypothesis sends
  | ask query rest inductionHypothesis =>
      intro reply
      exact inductionHypothesis reply (sends reply)
  | note event rest inductionHypothesis =>
      exact inductionHypothesis sends

/-- In a run, only good buffers are added to those that were sent. -/
theorem SendsOnly.exec
    {program : Prog S α}
    (sends : program.SendsOnly good)
    (world : World S ε)
    (port : Port S ε) :
    ∃ added,
      (exec world program port).2.sent = port.sent ++ added ∧
        ∀ bytes ∈ added, good bytes := by
  have nothing :
      ∃ added,
        port.sent = port.sent ++ added ∧ ∀ bytes ∈ added, good bytes :=
    ⟨[], (List.append_nil _).symm, by rintro bytes ⟨⟩⟩
  induction program generalizing port with
  | done value => exact nothing
  | rx offset count rest inductionHypothesis =>
      rw [Serial.exec]
      split
      · exact inductionHypothesis _ (sends _) _ nothing
      · exact nothing
  | tx bytes rest inductionHypothesis =>
      rw [Serial.exec]
      cases world.react bytes port.env with
      | none => exact nothing
      | some reaction =>
          obtain ⟨added, sent, all⟩ :=
            inductionHypothesis sends.2
              (port.transmitted bytes reaction.1 reaction.2)
              ⟨[], (List.append_nil _).symm, by rintro bytes ⟨⟩⟩
          refine ⟨bytes :: added, ?_, ?_⟩
          · rw [sent, Port.transmitted, List.append_assoc,
              List.singleton_append]
          · intro other member
            rcases List.mem_cons.mp member with rfl | later
            · exact sends.1
            · exact all other later
  | poll rest inductionHypothesis =>
      exact inductionHypothesis _ (sends _) _ nothing
  | flush rest inductionHypothesis =>
      rw [Serial.exec]
      split
      · exact inductionHypothesis sends _ nothing
      · exact nothing
  | ask query rest inductionHypothesis =>
      exact inductionHypothesis _ (sends _) _ nothing
  | note event rest inductionHypothesis =>
      exact inductionHypothesis sends _ nothing

end Ammc.Serial.Prog

namespace Ammc.Client

open ByteMemory Serial Packet

variable {good : List UInt8 → Prop}

/-- The bytes of an acknowledgement, positive or negative. -/
def IsAcknowledgement (bytes : List UInt8) : Prop :=
  ∃ id,
    bytes = packetImage id ComType.ack.code 0 [] ∨
      bytes = packetImage id ComType.nak.code 0 []

theorem sendsOnly_ask (query : Query) :
    (ask query).SendsOnly good :=
  fun _ => trivial

theorem sendsOnly_record (event : Note) :
    (record event).SendsOnly good :=
  trivial

theorem sendsOnly_validDev (fd : Int) :
    (validDev fd).SendsOnly good := by
  rw [validDev]
  split
  · exact sendsOnly_ask _
  · trivial

theorem sendsOnly_shError
    (session : Session)
    (code : Int)
    (message : String) :
    (shError session code message).SendsOnly good :=
  trivial

theorem sendsOnly_serialRx
    (fd : Int)
    (dest : Memory)
    (offset size : Nat) :
    (serialRx fd dest offset size).SendsOnly good := by
  refine (sendsOnly_validDev fd).bind fun valid => ?_
  split
  · trivial
  · exact fun _ => trivial

/-- A transmission sends the bytes of its buffer. -/
theorem sendsOnly_serialTx
    (fd : Int)
    {buf : Memory}
    {size : Nat}
    (sends : good (buf.bytes 0 size)) :
    (serialTx fd buf size).SendsOnly good := by
  refine (sendsOnly_validDev fd).bind fun valid => ?_
  split
  · trivial
  · exact ⟨sends, trivial⟩

theorem sendsOnly_serialRxFlush (fd : Int) :
    (serialRxFlush fd).SendsOnly good := by
  refine (sendsOnly_validDev fd).bind fun valid => ?_
  cases valid with
  | true => exact trivial
  | false => exact trivial

theorem sendsOnly_recvAttempt
    (globalId : UInt8)
    (fd : Int)
    (p : Memory) :
    (recvAttempt globalId fd p).SendsOnly good := by
  refine (sendsOnly_serialRx _ _ _ _).bind fun header => ?_
  dsimp only
  split
  · trivial
  · exact (sendsOnly_serialRx _ _ _ _).bind fun _ => trivial

/-- A packet is sent as a whole. -/
theorem sendsOnly_communicationSend
    (globalId : UInt8)
    (fd : Int)
    {p : Memory}
    (sends : good (p.bytes 0 (packetGetSize p).toNat)) :
    (communicationSend globalId fd p).SendsOnly good := by
  have transmits : (transmitPacket fd p).SendsOnly good :=
    (sendsOnly_serialRxFlush fd).bind fun _ =>
      (sendsOnly_record _).bind fun _ =>
        (sendsOnly_serialTx fd sends).bind fun _ => trivial
  rw [communicationSend]
  dsimp only
  split
  · trivial
  · refine transmits.bind fun _ =>
      (sendsOnly_ask _).bind fun response =>
        (sendsOnly_recvAttempt globalId fd response).bind
          fun attempt => ?_
    refine (sendsOnly_record _).bind fun _ => ?_
    split
    · trivial
    · trivial

/-- `psend` sends the packet with the given fields and nothing else. -/
theorem sendsOnly_psend
    (session : Session)
    {type selector dataSize : UInt8}
    {data : Option Memory}
    (craftable : Craftable type data dataSize)
    (sends :
      good
        (packetImage session.globalId type selector
          (bodyBytes data dataSize))) :
    (psend session type selector data dataSize).SendsOnly good := by
  have crafts :
      (communicationCraftAndSend session.globalId session.avrFd type
        selector data dataSize).SendsOnly good := by
    refine (sendsOnly_ask _).bind fun p => ?_
    obtain ⟨crafted, made, _, bytes⟩ :=
      craft_of_craftable crc p session.globalId selector craftable
    rw [packetCraft, made]
    refine sendsOnly_communicationSend _ _ ?_
    rw [bytes]
    exact sends
  exact crafts.bind fun _ => trivial

/-- `precv` sends an acknowledgement at most. -/
theorem sendsOnly_precv
    (acknowledges : ∀ bytes, IsAcknowledgement bytes → good bytes)
    (session : Session)
    (p : Memory) :
    (precv session p).SendsOnly good := by
  have short :
      ∀ {type : UInt8} (q response : Memory),
        type < ComType.limit.code →
          (packetCraft response (packetGetId q) type 0 none 0).2.bytes 0
              packetMinSize =
            packetImage (packetGetId q) type 0 [] := by
    intro type q response known
    obtain ⟨crafted, made, size, bytes⟩ :=
      craft_of_craftable crc response (packetGetId q) 0
        (craftable_of_none known)
    rw [packetCraft, made]
    rw [size] at bytes
    exact bytes
  have receives :
      (communicationRecv session.globalId session.avrFd p).SendsOnly
        good := by
    rw [communicationRecv]
    split
    · trivial
    · refine (sendsOnly_ask _).bind fun response =>
        (sendsOnly_recvAttempt _ _ p).bind fun attempt => ?_
      obtain ⟨error, received⟩ := attempt
      have positive :
          good ((packetAck received response).2.bytes 0 packetMinSize) := by
        rw [packetAck, short received response (by decide)]
        exact acknowledges _ ⟨_, Or.inl rfl⟩
      have negative :
          good ((packetNak received response).2.bytes 0 packetMinSize) := by
        rw [packetNak, short received response (by decide)]
        exact acknowledges _ ⟨_, Or.inr rfl⟩
      refine (sendsOnly_record _).bind fun _ => ?_
      cases error with
      | success =>
          exact (sendsOnly_serialTx _ positive).bind fun _ => trivial
      | idMismatch =>
          exact (sendsOnly_serialTx _ negative).bind fun _ => trivial
      | corruptedChecksum =>
          exact (sendsOnly_serialTx _ negative).bind fun _ => trivial
      | _ => trivial
  exact receives.bind fun _ => trivial

end Ammc.Client
