import Ammc.ClearLine
import Ammc.EchoString

namespace Ammc.Exchange

open ByteMemory Serial Packet DcMotor

/-!
# Sessions of drained exchanges

Every command of the client, run against a drained master on a line without
errors, keeps both sides in step.  A session is a list of commands.
-/

section Commands

variable {ε : Type}
variable (bus : Master.Bus ε)
variable (host : Host ε)

/--
Both sides are in step, nothing has gone wrong so far, and the client is
connected to its device or to none.
-/
structure Running
    (host : Host ε)
    (session : Client.Session)
    (port : Port Client.signature (Station ε)) : Prop
    extends InStep session.globalId port where
  faultless : Faultless port.log port.env.port.log
  descriptor :
    session.avrFd = host.device.number ∨ session.avrFd = -1

variable {host}

/-- A note for the terminal changes nothing. -/
theorem Running.noted
    {session : Client.Session}
    {port : Port Client.signature (Station ε)}
    (running : Running host session port)
    {event : Client.Note}
    (passing : Passing event)
    (other : event ≠ .attempted .idMismatch) :
    Running host session (port.noted event) where
  toSettled := ⟨running.idle, running.upstream, running.downstream⟩
  ids := running.ids
  faultless := by
    refine running.faultless.note fun entry member => ?_
    rw [List.mem_singleton.mp member]
    exact ⟨passing, other⟩
  descriptor := running.descriptor

/-- A run that ends, with both sides in step. -/
def Completes
    (host : Host ε)
    (run :
      Option (Int × Client.Session) ×
        Port Client.signature (Station ε)) : Prop :=
  ∃ code session after,
    run = (some (code, session), after) ∧ Running host session after

/-- A command that reports an error stays in step. -/
theorem completes_shError
    {session : Client.Session}
    {port : Port Client.signature (Station ε)}
    (running : Running host session port)
    (code : Int)
    (message : String) :
    Completes host
      (exec (drainedWorld bus .clear host)
        (Client.shError session code message) port) :=
  ⟨code, session, _, rfl, running.noted trivial (by rintro ⟨⟩)⟩

/-- A sent packet leaves a settled line in step. -/
theorem running_portSent
    {session : Client.Session}
    (descriptor : session.avrFd = host.device.number)
    (selector : UInt8)
    {type : UInt8}
    {data : Option Memory}
    {dataSize : UInt8}
    (craftable : Craftable type data dataSize)
    {port : Port Client.signature (Station ε)}
    (settled : Settled port)
    (faultless : Faultless port.log port.env.port.log)
    (agree : Agree session.globalId type port.env) :
    Running host (advanced session)
      (portSent bus port session.globalId selector craftable) where
  toInStep :=
    inStep_portSent bus session.globalId selector craftable settled agree
  faultless :=
    faultless_portSent bus session.globalId selector craftable settled
      faultless
  descriptor := Or.inl descriptor

/-- A received `DAT` packet leaves both sides in step. -/
theorem running_portAcknowledged
    {session : Client.Session}
    (descriptor : session.avrFd = host.device.number)
    (selector : UInt8)
    {body : List UInt8}
    (fits : body.length ≤ bodyMaxLen)
    {port : Port Client.signature (Station ε)}
    (input :
      port.input =
        (datFrame session.globalId selector body fits).bytes)
    (running : Running host session port) :
    Running host (advanced session)
      (portAcknowledged bus port
        (datFrame session.globalId selector body fits)) where
  toInStep :=
    inStep_portAcknowledged bus
      (datFrame session.globalId selector body fits) input
      running.toInStep
  faultless :=
    faultless_portAcknowledged bus port
      (datFrame session.globalId selector body fits)
      (datagramResult_masterFrame _ _ _ _) running.faultless
  descriptor := Or.inl descriptor

/-- A packet and the `DAT` packet that answers it leave both in step. -/
theorem running_exchange
    {session : Client.Session}
    {port : Port Client.signature (Station ε)}
    (running : Running host session port)
    (descriptor : session.avrFd = host.device.number)
    (selector : UInt8)
    {type : UInt8}
    {data : Option Memory}
    {dataSize : UInt8}
    (craftable : Craftable type data dataSize)
    (noHandshake : type ≠ ComType.hnd.code)
    {replySelector : UInt8}
    {body : List UInt8}
    (fits : body.length ≤ bodyMaxLen)
    (sent : body.length + 5 ≤ Master.txBufferSize)
    (replied :
      (Master.effect bus
        ((sentFrame session.globalId selector craftable).landed
          port.env.handler.rx) port.env.port.env).1 =
        some (replySelector, body)) :
    Running host (advanced (advanced session))
      (portAcknowledged bus
        (portSent bus port session.globalId selector craftable)
        (datFrame (advanced session).globalId replySelector body
          fits)) := by
  have agree := running.toInStep.ready.agree noHandshake
  have stillConnected :
      (advanced session).avrFd = host.device.number :=
    descriptor
  have stillRunning :=
    running_portSent bus descriptor selector craftable
      running.toSettled running.faultless agree
  refine running_portAcknowledged bus stillConnected replySelector fits
    ?_ stillRunning
  rw [input_portSent bus craftable agree replied,
    datFrames_of_fits _ _ fits sent, List.flatten_cons,
    List.flatten_nil, List.append_nil]
  rfl

/-- A command that sends one packet and waits for its acknowledgement. -/
theorem completes_psend
    {session : Client.Session}
    {port : Port Client.signature (Station ε)}
    (running : Running host session port)
    (descriptor : session.avrFd = host.device.number)
    (selector : UInt8)
    {type : UInt8}
    {data : Option Memory}
    {dataSize : UInt8}
    (craftable : Craftable type data dataSize)
    (noHandshake : type ≠ ComType.hnd.code)
    (failure : String) :
    Completes host
      (exec (drainedWorld bus .clear host)
        (do
          let (code, session) ←
            Client.psend session type selector data dataSize
          if code ≠ 0 then
            Client.shError session 3 failure
          else
            return (0, session)) port) := by
  have agree := running.toInStep.ready.agree noHandshake
  rw [exec_bind_of_done
    (exec_psend_clear bus host session descriptor selector craftable port
      running.idle agree)]
  exact ⟨0, advanced session, _, rfl,
    running_portSent bus descriptor selector craftable
      running.toSettled running.faultless agree⟩

/-- `apply` completes. -/
theorem completes_apply
    {session : Client.Session}
    {port : Port Client.signature (Station ε)}
    (running : Running host session port) :
    Completes host
      (exec (drainedWorld bus .clear host) (Client.apply session)
        port) := by
  rw [Client.apply]
  rcases running.descriptor with connected | disconnected
  · rw [if_neg (host.device.opened connected)]
    exact completes_psend bus running connected 0
      (craftable_of_none (by decide)) (by decide) _
  · rw [if_pos (Client.negative_of_closed disconnected)]
    exact completes_shError bus running _ _

/-- `set-speed` completes. -/
theorem completes_setSpeed
    {session : Client.Session}
    {port : Port Client.signature (Station ε)}
    (running : Running host session port)
    (motorId : UInt8)
    (speed : DcRpm) :
    Completes host
      (exec (drainedWorld bus .clear host)
        (Client.setSpeed session motorId speed) port) := by
  rw [Client.setSpeed]
  rcases running.descriptor with connected | disconnected
  · rw [if_neg (host.device.opened connected)]
    split
    · exact completes_shError bus running _ _
    · exact completes_psend bus running connected motorId
        (craftable_of_body _ (by decide) (by decide)) (by decide) _
  · rw [if_pos (Client.negative_of_closed disconnected)]
    exact completes_shError bus running _ _

/-- `set-slave-addr` completes. -/
theorem completes_setSlaveAddr
    {session : Client.Session}
    {port : Port Client.signature (Station ε)}
    (running : Running host session port)
    (addrActual addrNew : UInt8) :
    Completes host
      (exec (drainedWorld bus .clear host)
        (Client.setSlaveAddr session addrActual addrNew) port) := by
  rw [Client.setSlaveAddr]
  rcases running.descriptor with connected | disconnected
  · rw [if_neg (host.device.opened connected)]
    split
    · exact completes_shError bus running _ _
    · split
      · exact ⟨0, session, port, rfl, running⟩
      · exact completes_psend bus running connected addrActual
          (craftable_of_body _ (by decide) (by decide)) (by decide) _
  · rw [if_pos (Client.negative_of_closed disconnected)]
    exact completes_shError bus running _ _

/-- The header fields of a packet that the client has sent. -/
theorem sentFrame_type
    (id selector : UInt8)
    {type : UInt8}
    {data : Option Memory}
    {dataSize : UInt8}
    (craftable : Craftable type data dataSize)
    (rx : Memory) :
    packetGetType ((sentFrame id selector craftable).landed rx) = type :=
  Datagram.landed_header _ _ (by decide)

theorem sentFrame_selector
    (id selector : UInt8)
    {type : UInt8}
    {data : Option Memory}
    {dataSize : UInt8}
    (craftable : Craftable type data dataSize)
    (rx : Memory) :
    packetGetSelector ((sentFrame id selector craftable).landed rx) =
      selector :=
  Datagram.landed_header _ _ (by decide)

/-- A ping is answered without a body. -/
theorem effect_ping
    {p : Memory}
    (type : packetGetType p = ComType.ping.code)
    (env : ε) :
    ∃ error : ComError,
      (Master.effect bus p env).1 = some (error.code, []) := by
  have notEcho : packetGetType p ≠ ComType.echo.code := by
    rw [type]
    decide
  rw [Master.effect, if_neg notEcho, if_pos type]
  split
  · exact ⟨_, rfl⟩
  · exact ⟨_, rfl⟩

/-- A speed request is answered with two bytes. -/
theorem effect_getSpeed
    {p : Memory}
    (type : packetGetType p = ComType.getSpeed.code)
    (env : ε) :
    ∃ body,
      (Master.effect bus p env).1 = some (packetGetSelector p, body) ∧
        body.length = 2 := by
  have notEcho : packetGetType p ≠ ComType.echo.code := by
    rw [type]
    decide
  have notPing : packetGetType p ≠ ComType.ping.code := by
    rw [type]
    decide
  rw [Master.effect, if_neg notEcho, if_neg notPing, if_pos type]
  exact ⟨_, rfl, Memory.length_bytes _ _ _⟩

/-- `ping` completes. -/
theorem completes_ping
    {session : Client.Session}
    {port : Port Client.signature (Station ε)}
    (running : Running host session port)
    (slaveId : UInt32) :
    Completes host
      (exec (drainedWorld bus .clear host)
        (Client.ping session slaveId) port) := by
  rw [Client.ping]
  rcases running.descriptor with connected | disconnected
  · rw [if_neg (host.device.opened connected)]
    split
    · exact completes_shError bus running _ _
    · obtain ⟨error, replied⟩ :=
        effect_ping bus
          (sentFrame_type session.globalId slaveId.toUInt8
            (craftable_of_none (by decide)) port.env.handler.rx)
          port.env.port.env
      have craftable : Craftable ComType.ping.code none 0 :=
        craftable_of_none (by decide)
      have ready := running.toInStep.ready
      have fits : ([] : List UInt8).length ≤ bodyMaxLen := by
        decide
      have stillRunning :=
        running_exchange bus running connected slaveId.toUInt8 craftable
          (by decide) fits (by decide) replied
      rw [exec_bind_of_done
        (exec_psend_clear bus host session connected slaveId.toUInt8
          craftable port ready.idle (ready.agree (by decide)))]
      simp only [ne_eq, not_true_eq_false, ↓reduceIte]
      rw [exec_bind_of_done
          (Client.exec_uninitialised
            (drainedWorld_connected bus .clear host) _),
        exec_bind_of_done
          (exec_exchange bus host ready connected slaveId.toUInt8
            craftable (by decide) fits (by decide) replied _)]
      simp only [not_true_eq_false, ↓reduceIte]
      split
      · exact ⟨_, _, _, rfl, stillRunning.noted trivial (by rintro ⟨⟩)⟩
      · split
        · exact ⟨_, _, _, rfl, stillRunning.noted trivial (by rintro ⟨⟩)⟩
        · exact ⟨_, _, _, rfl, stillRunning.noted trivial (by rintro ⟨⟩)⟩
  · rw [if_pos (Client.negative_of_closed disconnected)]
    exact completes_shError bus running _ _

/-- `get-speed` completes. -/
theorem completes_getSpeed
    {session : Client.Session}
    {port : Port Client.signature (Station ε)}
    (running : Running host session port)
    (motorId : UInt8) :
    Completes host
      (exec (drainedWorld bus .clear host)
        (Client.getSpeed session motorId) port) := by
  rw [Client.getSpeed]
  rcases running.descriptor with connected | disconnected
  · rw [if_neg (host.device.opened connected)]
    split
    · exact completes_shError bus running _ _
    · obtain ⟨body, replied, length⟩ :=
        effect_getSpeed bus
          (sentFrame_type session.globalId motorId
            (craftable_of_none (by decide)) port.env.handler.rx)
          port.env.port.env
      have fits : body.length ≤ bodyMaxLen := by
        rw [length]
        decide
      have transmitted : body.length + 5 ≤ Master.txBufferSize := by
        rw [length]
        decide
      have craftable : Craftable ComType.getSpeed.code none 0 :=
        craftable_of_none (by decide)
      have ready := running.toInStep.ready
      have stillRunning :=
        running_exchange bus running connected motorId craftable
          (by decide) fits transmitted replied
      rw [exec_bind_of_done
        (exec_psend_clear bus host session connected motorId craftable
          port ready.idle (ready.agree (by decide)))]
      simp only [ne_eq, not_true_eq_false, ↓reduceIte]
      rw [exec_bind_of_done
          (Client.exec_uninitialised
            (drainedWorld_connected bus .clear host) _),
        exec_bind_of_done
          (exec_exchange bus host ready connected motorId craftable
            (by decide) fits transmitted replied _)]
      exact ⟨_, _, _, rfl, stillRunning.noted trivial (by rintro ⟨⟩)⟩
  · rw [if_pos (Client.negative_of_closed disconnected)]
    exact completes_shError bus running _ _

/-- The body of the echo packet comes back. -/
theorem effect_echo
    (id : UInt8)
    {data : Option Memory}
    {dataSize : UInt8}
    (craftable : Craftable ComType.echo.code data dataSize)
    (rx : Memory)
    (env : ε) :
    (Master.effect bus ((sentFrame id 0 craftable).landed rx) env).1 =
      some (0, bodyBytes data dataSize) := by
  have bodySize := (sentFrame id 0 craftable).bodySize_landed rx
  have rest :
      (sentFrame id 0 craftable).rest =
        bodyBytes data dataSize ++
          [Client.crc
            ([id, ComType.echo.code, 0,
              UInt8.ofNat ((bodyBytes data dataSize).length + 5)] ++
              bodyBytes data dataSize)] :=
    rfl
  have length :
      (sentFrame id 0 craftable).rest.length - 1 =
        (bodyBytes data dataSize).length := by
    simp [rest]
  rw [length] at bodySize
  rw [Master.effect, if_pos (sentFrame_type _ _ craftable rx), bodySize,
    Datagram.bytes_packetBody_landed _ _ (by rw [← length]; omega), rest,
    List.take_left]

/-- The size field and the body of a received `DAT` packet. -/
theorem size_datFrame
    (id selector : UInt8)
    {body : List UInt8}
    (fits : body.length ≤ bodyMaxLen)
    (rx : Memory) :
    packetGetSize ((datFrame id selector body fits).landed rx) =
      UInt8.ofNat (body.length + 5) := by
  have field :
      packetGetSize ((datFrame id selector body fits).landed rx) =
        (datFrame id selector body fits).size :=
    Datagram.landed_header _ _ (by decide)
  rw [field, Datagram.size, datFrame, imageFrame, List.length_append]
  rfl

theorem body_datFrame
    (id selector : UInt8)
    {body : List UInt8}
    (fits : body.length ≤ bodyMaxLen)
    (rx : Memory) :
    (packetBody ((datFrame id selector body fits).landed rx)).bytes 0
        body.length = body :=
  bytes_packetBody_imageFrame Master.crc id ComType.dat.code selector fits
    rx

/-- Joined words contain no NUL. -/
theorem zero_notMem_echoText (args : List Client.Word) :
    0 ∉ Client.echoText args := by
  cases args with
  | nil =>
      simp [Client.echoText]
  | cons word words =>
      have text :
          Client.echoText (word :: words) =
            word.text ++ Client.spaced (words.map Client.Word.text) :=
        Client.intercalate_eq_spaced _ _
      rw [text, List.mem_append, Client.spaced, List.mem_flatMap]
      rintro (inWord | ⟨token, member, inToken⟩)
      · exact word.noNul inWord
      · obtain ⟨other, _, rfl⟩ := List.mem_map.mp member
        rcases List.mem_cons.mp inToken with space | inOther
        · cases space
        · exact other.noNul inOther

/-- A string that is cut off behind its text reads as that text. -/
theorem cString_store
    {body : Memory}
    {text : List UInt8}
    (stored : body.bytes 0 text.length = text)
    (noNul : 0 ∉ text) :
    Client.cString (body.store text.length [0]) (text.length + 1) =
      text := by
  have terminator := body.bytes_store_self text.length [0]
  rw [List.length_singleton] at terminator
  rw [Client.cString, Memory.bytes_add,
    Memory.bytes_store_before _ _ (by omega), stored, Nat.zero_add,
    terminator,
    List.takeWhile_append_of_pos (by
      intro byte member
      simp only [ne_eq, decide_not, Bool.not_eq_eq_eq_not, Bool.not_true,
        decide_eq_false_iff_not]
      rintro rfl
      exact noNul member)]
  simp

/-- The string that `dev-echo` sends, and the packet that carries it. -/
theorem echo_prepared
    (dest : Memory)
    {args : List Client.Word}
    (given : args ≠ [])
    (accepted : (Client.echoText args).length ≤ 30) :
    ∃ str,
      Client.prepareEchoString dest args =
        (UInt8.ofNat (Client.echoText args).length, str) ∧
      Craftable ComType.echo.code (some str)
        (UInt8.ofNat (Client.echoText args).length) ∧
      bodyBytes (some str)
          (UInt8.ofNat (Client.echoText args).length) =
        Client.echoText args := by
  obtain ⟨str, prepared, stored⟩ :=
    (Client.prepareEchoString_spec dest given).1 accepted
  have strLen :
      (UInt8.ofNat (Client.echoText args).length).toNat =
        (Client.echoText args).length := by
    simp only [UInt8.toNat_ofNat']
    omega
  refine ⟨str, prepared, craftable_of_body str ?_ (by decide), ?_⟩
  · rw [strLen]
    simp only [bodyMaxLen]
    omega
  · rw [bodyBytes, strLen, stored]

/-- A prepared string is not taken for one that is too long. -/
theorem echo_admitted
    {args : List Client.Word}
    (accepted : (Client.echoText args).length ≤ 30) :
    ¬ (UInt8.ofNat (Client.echoText args).length).toNat > bodyMaxLen := by
  simp only [UInt8.toNat_ofNat', bodyMaxLen]
  omega

/-- `dev-echo` prints its text when that is short enough to come back. -/
theorem exec_devEcho
    {session : Client.Session}
    {port : Port Client.signature (Station ε)}
    (ready : Ready session.globalId port)
    (connected : session.avrFd = host.device.number)
    {args : List Client.Word}
    (given : args ≠ [])
    (fits : (Client.echoText args).length ≤ bodyMaxLen)
    (short : (Client.echoText args).length ≤ 27)
    {str : Memory}
    (prepared :
      Client.prepareEchoString
          (Client.garbage (drainedWorld bus .clear host) port.env) args =
        (UInt8.ofNat (Client.echoText args).length, str))
    (craftable :
      Craftable ComType.echo.code (some str)
        (UInt8.ofNat (Client.echoText args).length))
    (body :
      bodyBytes (some str)
          (UInt8.ofNat (Client.echoText args).length) =
        Client.echoText args) :
    exec (drainedWorld bus .clear host) (Client.devEcho session args)
        port =
      (some (0, advanced (advanced session)),
        (portAcknowledged bus
          (portSent bus port session.globalId 0 craftable)
          (datFrame (advanced session).globalId 0
            (Client.echoText args) fits)).noted
              (.puts (Client.echoText args))) := by
  have world := drainedWorld_connected bus .clear host
  have replied :=
    effect_echo bus session.globalId craftable port.env.handler.rx
      port.env.port.env
  rw [body] at replied
  have transmitted :
      (Client.echoText args).length + 5 ≤ Master.txBufferSize := by
    simp only [Master.txBufferSize]
    omega
  have strLen :
      (UInt8.ofNat (Client.echoText args).length).toNat =
        (Client.echoText args).length := by
    simp only [UInt8.toNat_ofNat']
    omega
  have expected :
      4 + UInt8.ofNat (Client.echoText args).length + 1 =
        UInt8.ofNat ((Client.echoText args).length + 5) := by
    apply UInt8.toNat_inj.mp
    rw [craftable.size_toNat, strLen]
    simp only [UInt8.toNat_ofNat']
    omega
  rw [Client.devEcho, if_neg given,
    exec_bind_of_done (Client.exec_uninitialised world port),
    if_neg (host.device.opened connected), prepared]
  simp only [if_neg (echo_admitted
    (show (Client.echoText args).length ≤ 30 by omega))]
  rw [exec_bind_of_done
    (exec_psend_clear bus host session connected 0 craftable port
      ready.idle (ready.agree (by decide)))]
  simp only [ne_eq, not_true_eq_false, ↓reduceIte]
  rw [exec_bind_of_done (Client.exec_uninitialised world _),
    exec_bind_of_done
      (exec_exchange bus host ready connected 0 craftable (by decide)
        fits transmitted replied _)]
  simp only [not_true_eq_false, ↓reduceIte, size_datFrame, expected,
    strLen]
  exact congrArg
    (fun text =>
      (some ((0 : Int), advanced (advanced session)),
        (portAcknowledged bus
          (portSent bus port session.globalId 0 craftable)
          (datFrame (advanced session).globalId 0
            (Client.echoText args) fits)).noted
              (Client.Note.puts text)))
    (cString_store (body_datFrame _ _ fits _)
      (zero_notMem_echoText args))

/-- `dev-echo` completes when its text is short enough to come back. -/
theorem completes_devEcho
    {session : Client.Session}
    {port : Port Client.signature (Station ε)}
    (running : Running host session port)
    {args : List Client.Word}
    (short : (Client.echoText args).length ≤ 27) :
    Completes host
      (exec (drainedWorld bus .clear host)
        (Client.devEcho session args) port) := by
  by_cases given : args = []
  · rw [Client.devEcho, if_pos given]
    exact ⟨1, session, port, rfl, running⟩
  · rcases running.descriptor with connected | disconnected
    · obtain ⟨str, prepared, craftable, body⟩ :=
        echo_prepared
          (Client.garbage (drainedWorld bus .clear host) port.env) given
          (by omega)
      have fits : (Client.echoText args).length ≤ bodyMaxLen := by
        simp only [bodyMaxLen]
        omega
      have replied :=
        effect_echo bus session.globalId craftable port.env.handler.rx
          port.env.port.env
      rw [body] at replied
      have stillRunning :=
        running_exchange bus running connected 0 craftable (by decide)
          fits
          (show
            (Client.echoText args).length + 5 ≤ Master.txBufferSize by
              simp only [Master.txBufferSize]
              omega)
          replied
      exact ⟨_, _, _,
        exec_devEcho bus running.toInStep.ready connected given fits
          short prepared craftable body,
        stillRunning.noted trivial (by rintro ⟨⟩)⟩
    · rw [Client.devEcho, if_neg given,
        exec_bind_of_done
          (Client.exec_uninitialised
            (drainedWorld_connected bus .clear host) port),
        if_pos (Client.negative_of_closed disconnected)]
      exact completes_shError bus running _ _

/-- The handshake is a packet sent under id 0. -/
theorem exec_communicationConnect
    {line : Line}
    {session next : Client.Session}
    {port after : Port Client.signature (Station ε)}
    {code : Int}
    (sent :
      exec (drainedWorld bus line host)
          (Client.psend { session with globalId := 0 }
            ComType.hnd.code 0 none 0) port =
        (some (code, next), after)) :
    exec (drainedWorld bus line host)
        (Client.communicationConnect session.avrFd) port =
      (some
        { code := if code ≠ 0 then 1 else 0
          globalId := next.globalId },
        after) := by
  rw [Client.psend, exec_bind] at sent
  rw [Client.communicationConnect, exec_bind]
  dsimp only at sent
  rcases sending :
      exec (drainedWorld bus line host)
        (Client.communicationCraftAndSend 0 session.avrFd
          ComType.hnd.code 0 none 0) port with
    ⟨_ | ⟨sentCode, globalId⟩, stopped⟩
  · rw [sending] at sent
    cases sent
  · rw [sending] at sent
    cases sent
    rfl

/-- The handshake brings both sides in step, whatever ids they held. -/
theorem exec_connectOver
    {session : Client.Session}
    (descriptor : session.avrFd = host.device.number)
    {port : Port Client.signature (Station ε)}
    (settled : Settled port)
    (faultless : Faultless port.log port.env.port.log) :
    ∃ after,
      exec (drainedWorld bus .clear host) (Client.connectOver session)
          port =
        (some (0, { session with globalId := Client.packetNextId 0 }),
          after) ∧
      Running host { session with globalId := Client.packetNextId 0 }
        after := by
  have craftable : Craftable ComType.hnd.code none 0 :=
    craftable_of_none (by decide)
  have agree : Agree 0 ComType.hnd.code port.env :=
    rfl
  have zeroed :
      ({ session with globalId := 0 } : Client.Session).avrFd =
        host.device.number :=
    descriptor
  have sent :=
    exec_psend_clear bus host _ zeroed 0 craftable port settled.idle
      agree
  refine ⟨_, ?_,
    running_portSent bus zeroed 0 craftable settled faultless agree⟩
  rw [Client.connectOver,
    exec_bind_of_done (exec_communicationConnect bus sent)]
  rfl

theorem Settled.flushed
    {port : Port Client.signature (Station ε)}
    (settled : Settled port) :
    Settled port.flushed :=
  ⟨settled.idle, settled.upstream, settled.downstream⟩

theorem Settled.noted
    {port : Port Client.signature (Station ε)}
    (settled : Settled port)
    (event : Client.Note) :
    Settled (port.noted event) :=
  ⟨settled.idle, settled.upstream, settled.downstream⟩

/-- Opening the device throws away what it has sent. -/
theorem exec_serialOpen
    (device : Client.Word)
    (port : Port Client.signature (Station ε)) :
    exec (drainedWorld bus .clear host)
        (Client.serialOpen device.text) port =
      (some host.device.number, port.flushed) := by
  have opened :
      exec (drainedWorld bus .clear host)
          (Client.ask (.openDevice device.text)) port =
        (some host.device.number, port) :=
    rfl
  have nonnegative := host.device.opened rfl
  rw [Client.serialOpen, if_neg device.nonempty,
    exec_bind_of_done opened, if_neg nonnegative,
    exec_bind_of_done
      (Client.exec_serialRxFlush
        (drainedWorld_connected bus .clear host) port)]
  rfl

/-- `connect` reaches the device and brings both sides in step. -/
theorem exec_connect
    {session : Client.Session}
    (descriptor :
      session.avrFd = host.device.number ∨ session.avrFd = -1)
    (device : Client.Word)
    {port : Port Client.signature (Station ε)}
    (settled : Settled port)
    (faultless : Faultless port.log port.env.port.log) :
    ∃ connected after,
      exec (drainedWorld bus .clear host)
          (Client.connect session device) port =
        (some (0, connected), after) ∧
      Running host connected after := by
  rw [Client.connect]
  rcases descriptor with connected | disconnected
  · rw [if_pos (host.device.positive connected)]
    have warned :
        Faultless
          (port.noted (.warned
            "Open serial context found; reconnecting\n")).log
          port.env.port.log := by
      refine faultless.note fun entry member => ?_
      rw [List.mem_singleton.mp member]
      exact ⟨trivial, by rintro ⟨⟩⟩
    obtain ⟨after, done, running⟩ :=
      exec_connectOver bus connected (settled.noted _) warned
    exact ⟨_, after, done, running⟩
  · have closed :=
      Int.not_lt.mpr
        (Int.le_of_lt (Client.negative_of_closed disconnected))
    rw [if_neg closed,
      exec_bind_of_done (exec_serialOpen bus device port)]
    have nonnegative := host.device.opened rfl
    simp only [nonnegative, ↓reduceIte]
    obtain ⟨after, done, running⟩ :=
      exec_connectOver bus
        (show
          ({ session with
            avrFd := host.device.number } : Client.Session).avrFd =
            host.device.number from rfl)
        settled.flushed faultless
    exact ⟨_, after, done, running⟩

/-- `disconnect` leaves the line as it is. -/
theorem completes_disconnect
    {session : Client.Session}
    {port : Port Client.signature (Station ε)}
    (running : Running host session port) :
    Completes host
      (exec (drainedWorld bus .clear host) (Client.disconnect session)
        port) := by
  have world := drainedWorld_connected bus .clear host
  rw [Client.disconnect]
  rcases running.descriptor with connected | disconnected
  · have closed :
        exec (drainedWorld bus .clear host)
            (Client.serialClose session.avrFd) port =
          (some 0, port) := by
      rw [Client.serialClose, connected,
        exec_bind_of_done (Client.exec_validDev world port)]
      rfl
    rw [if_neg (host.device.opened connected), exec_bind_of_done closed]
    exact ⟨0, { session with avrFd := -1 }, port, rfl,
      { toInStep := running.toInStep
        faultless := running.faultless
        descriptor := Or.inr rfl }⟩
  · rw [if_pos (Client.negative_of_closed disconnected)]
    exact completes_shError bus running _ _

/--
The echo commands of a session have a text that the master can send back.
-/
def EchoFits : Client.Command → Prop
  | .devEcho args => (Client.echoText args).length ≤ 27
  | _ => True

/-- Every command keeps both sides in step. -/
theorem completes_command
    {session : Client.Session}
    {port : Port Client.signature (Station ε)}
    (running : Running host session port)
    {command : Client.Command}
    (fits : EchoFits command) :
    Completes host
      (exec (drainedWorld bus .clear host) (command.exec session)
        port) := by
  cases command with
  | connect device =>
      obtain ⟨connected, after, done, stillRunning⟩ :=
        exec_connect bus running.descriptor device running.toSettled
          running.faultless
      exact ⟨0, connected, after, done, stillRunning⟩
  | disconnect => exact completes_disconnect bus running
  | devEcho args => exact completes_devEcho bus running fits
  | ping slaveId => exact completes_ping bus running slaveId
  | getSpeed motorId => exact completes_getSpeed bus running motorId
  | setSpeed motorId speed =>
      exact completes_setSpeed bus running motorId speed
  | apply => exact completes_apply bus running
  | setSlaveAddr addrActual addrNew =>
      exact completes_setSlaveAddr bus running addrActual addrNew

end Commands

/-- A session, command by command; `none` when a command never returns. -/
def runCommands
    (bus : Master.Bus ε)
    (host : Host ε) :
    List Client.Command → Client.Session →
      Port Client.signature (Station ε) →
      Option (Client.Session × Port Client.signature (Station ε))
  | [], session, port => some (session, port)
  | command :: commands, session, port =>
      match
        exec (drainedWorld bus .clear host) (command.exec session)
          port with
      | (some (_, session), port) =>
          runCommands bus host commands session port
      | (none, _) => none

/-- A master that has not heard from the client yet. -/
def freshPort
    (globalId : UInt8)
    (rx : Memory)
    (env : ε) : Port Client.signature (Station ε) :=
  Port.start []
    { handler := ⟨globalId, .receiving, rx⟩
      port := Port.start [] env
      arrived := 0
      answered := 0 }

theorem freshPort_settled
    (globalId : UInt8)
    (rx : Memory)
    (env : ε) :
    Settled (freshPort globalId rx env) :=
  ⟨⟨rfl, rfl⟩, rfl, rfl⟩

theorem freshPort_faultless
    (globalId : UInt8)
    (rx : Memory)
    (env : ε) :
    Faultless (freshPort globalId rx env).log
      (freshPort globalId rx env).env.port.log where
  attempts _ member := by cases member
  receipts _ member := by cases member
  sends _ member := by cases member

/-- A session that is in step stays in step. -/
theorem runCommands_running
    (bus : Master.Bus ε)
    {host : Host ε}
    (commands : List Client.Command)
    (fits : ∀ command ∈ commands, EchoFits command)
    {session : Client.Session}
    {port : Port Client.signature (Station ε)}
    (running : Running host session port) :
    ∃ last after,
      runCommands bus host commands session port = some (last, after) ∧
      Running host last after := by
  induction commands generalizing session port with
  | nil =>
      exact ⟨session, port, rfl, running⟩
  | cons command commands inductionHypothesis =>
      obtain ⟨code, next, after, done, stillRunning⟩ :=
        completes_command bus running (fits command (by simp))
      rw [runCommands, done]
      exact inductionHypothesis
        (fun later member => fits later (by simp [member]))
        stillRunning

/--
Whatever id the master starts with: when a session begins with `connect`, no id
check ever refuses a packet, and the ids of both sides are equal at its end.
Every prefix of a session that begins with `connect` is such a session, so the
ids are equal after each of its commands.
-/
theorem session_ids_agree
    (bus : Master.Bus ε)
    (host : Host ε)
    (clientId masterId : UInt8)
    (rx : Memory)
    (env : ε)
    (device : Client.Word)
    (commands : List Client.Command)
    (fits : ∀ command ∈ commands, EchoFits command) :
    ∃ session port,
      runCommands bus host (.connect device :: commands)
          { globalId := clientId, avrFd := -1 }
          (freshPort masterId rx env) =
        some (session, port) ∧
      session.globalId = port.env.handler.globalId ∧
      (∀ entry ∈ port.log, entry.event ≠ .attempted .idMismatch) ∧
      ∀ entry ∈ port.env.port.log,
        entry.event ≠ .received .idMismatch := by
  obtain ⟨connected, middle, done, running⟩ :=
    exec_connect bus
      (show
        ({ globalId := clientId, avrFd := -1 } : Client.Session).avrFd =
            host.device.number ∨
          ({ globalId := clientId, avrFd := -1 } : Client.Session).avrFd =
            -1 from Or.inr rfl)
      device (freshPort_settled masterId rx env)
      (freshPort_faultless masterId rx env)
  obtain ⟨last, after, run, stillRunning⟩ :=
    runCommands_running bus commands fits running
  have whole :
      runCommands bus host (.connect device :: commands)
          { globalId := clientId, avrFd := -1 }
          (freshPort masterId rx env) =
        some (last, after) := by
    rw [runCommands, Client.Command.exec, done]
    exact run
  exact ⟨last, after, whole, stillRunning.ids,
    stillRunning.faultless.attempts, stillRunning.faultless.receipts⟩

/-- The path of a device. -/
def devicePath : Client.Word where
  text := [0x2F, 0x64]
  nonempty := by decide
  noNul := by decide

/-- A ping and a broadcast after the connection, to a master that is at id 7. -/
theorem session_ids_agree_ping_apply :
    ∃ session port,
      runCommands Master.idleBus plainHost
          [.connect devicePath, .ping 5, .apply]
          { globalId := 0, avrFd := -1 }
          (freshPort 7 (fun _ => 0) ()) =
        some (session, port) ∧
      session.globalId = port.env.handler.globalId ∧
      (∀ entry ∈ port.log, entry.event ≠ .attempted .idMismatch) ∧
      ∀ entry ∈ port.env.port.log,
        entry.event ≠ .received .idMismatch :=
  session_ids_agree Master.idleBus plainHost 0 7 (fun _ => 0) ()
    devicePath [.ping 5, .apply]
    (by
      intro command member
      simp only [List.mem_cons, List.not_mem_nil, or_false] at member
      rcases member with rfl | rfl
      · trivial
      · trivial)

end Ammc.Exchange
