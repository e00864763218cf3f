import Ammc.DrainedSession
import Ammc.SerialGuard

namespace Ammc.Exchange

open ByteMemory Serial Packet

/-!
# Replies and the transmit buffer

A packet may carry a body of 32 bytes, `dev-echo` accepts a text of up to 30
characters, and the transmit buffer of the master holds 32 bytes in all.  The
return codes of `packet_craft` and `serial_tx` are not looked at, so a packet
that does not fit the buffer is dropped without a trace.
-/

section Replies

variable {ε : Type}
variable (bus : Master.Bus ε)
variable (host : Host ε)

/-- `communication_send` hands all bytes of the crafted packet to the UART. -/
def HandsOver
    (globalId type selector bodySize : UInt8)
    (body : Option Memory)
    (port : Port Master.signature ε) : Prop :=
  (exec bus.world
      (Master.communicationSend globalId type selector bodySize body)
      port).2.sent =
    port.sent ++
      [Master.packetImage globalId type selector (bodyBytes body bodySize)]

/-- A packet of the master is sent when it fits the transmit buffer. -/
theorem handsOver_iff
    (globalId selector : UInt8)
    {type bodySize : UInt8}
    {body : Option Memory}
    (craftable : Craftable type body bodySize)
    (port : Port Master.signature ε) :
    HandsOver bus globalId type selector bodySize body port ↔
      bodySize.toNat ≤ 27 := by
  rw [HandsOver,
    Master.exec_communicationSend bus globalId selector craftable port]
  have length := craftable.length_bodyBytes
  by_cases short : bodySize.toNat ≤ 27
  · have fits :
        (bodyBytes body bodySize).length + 5 ≤ Master.txBufferSize := by
      rw [length]
      simp only [Master.txBufferSize]
      omega
    simp [Master.framed, fits, Master.sentPort, short]
  · have tooLong :
        ¬ (bodyBytes body bodySize).length + 5 ≤
          Master.txBufferSize := by
      rw [length]
      simp only [Master.txBufferSize]
      omega
    simp [Master.framed, tooLong, Master.sentPort, short]

/-- What the client has printed as text. -/
def printed (log : ClientLog) : List (List UInt8) :=
  log.filterMap fun entry =>
    match entry.event with
    | .puts text => some text
    | _ => none

/-- `dev-echo` takes its arguments for short enough. -/
structure EchoAccepts (args : List Client.Word) : Prop where
  given : args ≠ []
  fits :
    ∀ dest,
      (Client.prepareEchoString dest args).1.toNat ≤ bodyMaxLen

/-- Accepted arguments are at most 30 characters long in total. -/
theorem EchoAccepts.length_le
    {args : List Client.Word}
    (accepts : EchoAccepts args) :
    (Client.echoText args).length ≤ 30 := by
  by_contra tooLong
  have refused :=
    (Client.prepareEchoString_spec (fun _ => 0) accepts.given).2
      (Nat.not_le.mp tooLong)
  have fits := accepts.fits fun _ => 0
  rw [refused] at fits
  exact absurd fits (by decide)

/-- The command completes and prints exactly its text. -/
def EchoPrinted
    (session : Client.Session)
    (args : List Client.Word)
    (port : Port Client.signature (Station ε)) : Prop :=
  ∃ last after,
    exec (drainedWorld bus .clear host) (Client.devEcho session args)
        port =
      (some (0, last), after) ∧
    printed after.log = printed port.log ++ [Client.echoText args]

/-- Without a whole header, receiving a packet waits for one. -/
theorem waits_precv
    {line : Line}
    {session : Client.Session}
    (connected : session.avrFd = host.device.number)
    (p : Memory)
    {port : Port Client.signature (Station ε)}
    (short : port.input.length < headerSize) :
    (Client.precv session p).Waits (drainedWorld bus line host) port
      (port.waiting 0 headerSize) := by
  have above := host.device.above
  have world := drainedWorld_connected bus line host
  have nonzero : host.device.number ≠ 0 := by
    omega
  rw [Client.precv, connected]
  refine Prog.Waits.bind ?_ _
  rw [Client.communicationRecv, if_neg nonzero]
  refine .after (Client.exec_uninitialised world port) (.bind ?_ _)
  refine .bind (.after (Client.exec_validDev world port) ?_) _
  exact (Prog.waits_receive short).bind _

/-- A text that does not come back leaves the client waiting. -/
theorem waits_devEcho
    {session : Client.Session}
    {port : Port Client.signature (Station ε)}
    (ready : Ready session.globalId port)
    (connected : session.avrFd = host.device.number)
    {args : List Client.Word}
    (given : args ≠ [])
    (accepted : (Client.echoText args).length ≤ 30)
    (long : 27 < (Client.echoText args).length) :
    ∃ (data : Option Memory) (dataSize : UInt8)
        (craftable : Craftable ComType.echo.code data dataSize),
      (Client.devEcho session args).Waits
        (drainedWorld bus .clear host) port
        ((portSent bus port session.globalId 0 craftable).waiting 0
          headerSize) := by
  have world := drainedWorld_connected bus .clear host
  obtain ⟨str, prepared, craftable, body⟩ :=
    echo_prepared
      (Client.garbage (drainedWorld bus .clear host) port.env) given
      accepted
  have replied :=
    effect_echo bus session.globalId craftable port.env.handler.rx
      port.env.port.env
  rw [body] at replied
  have tooLong :
      ¬ (Client.echoText args).length + 5 ≤ Master.txBufferSize := by
    simp only [Master.txBufferSize]
    omega
  have nothing :
      (portSent bus port session.globalId 0 craftable).input = [] := by
    rw [input_portSent bus craftable (ready.agree (by decide)) replied,
      Master.datFrames, Master.framed, if_neg tooLong]
    rfl
  have short :
      (portSent bus port session.globalId 0 craftable).input.length <
        headerSize := by
    rw [nothing]
    decide
  refine ⟨_, _, craftable, ?_⟩
  rw [Client.devEcho, if_neg given]
  refine .after (Client.exec_uninitialised world port) ?_
  rw [if_neg (host.device.opened connected), prepared]
  simp only [if_neg (echo_admitted accepted)]
  refine .after
    (exec_psend_clear bus host session connected 0 craftable port
      ready.idle (ready.agree (by decide))) ?_
  simp only [ne_eq, not_true_eq_false, ↓reduceIte]
  refine .after (Client.exec_uninitialised world _) (.bind ?_ _)
  exact
    waits_precv bus host
      (show (advanced session).avrFd = host.device.number from connected)
      _ short

/-- `dev-echo` prints an accepted text when its echo fits the buffer. -/
theorem echoPrinted_iff
    {session : Client.Session}
    {port : Port Client.signature (Station ε)}
    (ready : Ready session.globalId port)
    (connected : session.avrFd = host.device.number)
    {args : List Client.Word}
    (accepts : EchoAccepts args) :
    EchoPrinted bus host session args port ↔
      (Client.echoText args).length ≤ 27 := by
  constructor
  · rintro ⟨last, after, completed, _⟩
    by_contra long
    obtain ⟨_, _, _, waits⟩ :=
      waits_devEcho bus host ready connected accepts.given
        accepts.length_le (Nat.not_le.mp long)
    have stuck := waits.stuck
    rw [completed] at stuck
    cases stuck
  · intro short
    obtain ⟨str, prepared, craftable, body⟩ :=
      echo_prepared
        (Client.garbage (drainedWorld bus .clear host) port.env)
        accepts.given accepts.length_le
    have fits : (Client.echoText args).length ≤ bodyMaxLen := by
      simp only [bodyMaxLen]
      omega
    refine ⟨_, _,
      exec_devEcho bus ready connected accepts.given fits short prepared
        craftable body, ?_⟩
    simp [printed, portAcknowledged, portReceived, portSent,
      portAnswered, Port.noted, Client.portChecked,
      Client.transmittedPacket, Port.transmitted, Port.flushed]

/--
A packet that the master may craft reaches the line exactly when its body has at
most 27 bytes, and an accepted `dev-echo` completes and prints its text exactly
when the text has at most 27 characters.
-/
theorem replies_fit_transmit_buffer_iff
    (globalId selector : UInt8)
    {type bodySize : UInt8}
    {body : Option Memory}
    (craftable : Craftable type body bodySize)
    (masterPort : Port Master.signature ε)
    {session : Client.Session}
    {port : Port Client.signature (Station ε)}
    (ready : Ready session.globalId port)
    (connected : session.avrFd = host.device.number)
    {args : List Client.Word}
    (accepts : EchoAccepts args) :
    (HandsOver bus globalId type selector bodySize body masterPort ↔
      bodySize.toNat ≤ 27) ∧
    (EchoPrinted bus host session args port ↔
      (Client.echoText args).length ≤ 27) :=
  ⟨handsOver_iff bus globalId selector craftable masterPort,
    echoPrinted_iff bus host ready connected accepts⟩

end Replies

/-- A word of the given number of letters. -/
def letters
    (count : Nat)
    (positive : 0 < count) : Client.Word where
  text := List.replicate count 0x61
  nonempty := by
    simp only [ne_eq, List.replicate_eq_nil_iff]
    omega
  noNul := by
    simp

theorem echoAccepts_letters
    {count : Nat}
    (positive : 0 < count)
    (short : count ≤ 30) :
    EchoAccepts [letters count positive] where
  given := by
    simp
  fits dest := by
    have length :
        (Client.echoText [letters count positive]).length = count := by
      simp [Client.echoText, letters]
    obtain ⟨_, prepared, _⟩ :=
      (Client.prepareEchoString_spec dest
        (show [letters count positive] ≠ [] by simp)).1
        (by rw [length]; exact short)
    rw [prepared, length]
    simp only [UInt8.toNat_ofNat', bodyMaxLen]
    omega

/-- An empty `DAT` packet is sent, and a text of three letters is printed. -/
theorem replies_fit_three_letters :
    (HandsOver Master.idleBus 5 ComType.dat.code 0 0 none
        (Port.start [] ()) ↔
      (0 : UInt8).toNat ≤ 27) ∧
    (EchoPrinted Master.idleBus plainHost ⟨5, 3⟩
        [letters 3 (by decide)] (freshPort 5 (fun _ => 0) ()) ↔
      (Client.echoText [letters 3 (by decide)]).length ≤ 27) :=
  replies_fit_transmit_buffer_iff Master.idleBus plainHost 5 0
    (craftable_of_none (by decide)) (Port.start [] ())
    (show Ready (5 : UInt8) (freshPort 5 (fun _ => 0) ()) from
      ⟨⟨rfl, rfl⟩, rfl⟩)
    rfl (echoAccepts_letters (by decide) (by decide))

/--
A body of 28 bytes is not handed to the UART, and a `dev-echo` of 28 letters,
which the client accepts, prints nothing.
-/
theorem longReply_dropped :
    ¬ HandsOver Master.idleBus 5 ComType.dat.code 0 28
        (some fun _ => 0x61) (Port.start [] ()) ∧
    EchoAccepts [letters 28 (by decide)] ∧
    ¬ EchoPrinted Master.idleBus plainHost ⟨5, 3⟩
        [letters 28 (by decide)] (freshPort 5 (fun _ => 0) ()) := by
  refine ⟨?_, echoAccepts_letters (by decide) (by decide), ?_⟩
  · rw [handsOver_iff Master.idleBus 5 0
      (craftable_of_body _ (by decide) (by decide))]
    decide
  · rw [echoPrinted_iff Master.idleBus plainHost
      (show Ready (5 : UInt8) (freshPort 5 (fun _ => 0) ()) from
        ⟨⟨rfl, rfl⟩, rfl⟩)
      rfl (echoAccepts_letters (by decide) (by decide))]
    decide

end Ammc.Exchange
