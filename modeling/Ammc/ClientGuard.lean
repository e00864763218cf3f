import Ammc.Interleaving

namespace Ammc.Exchange

open ByteMemory Serial Packet

/-!
# The client's calls in any order of events

The client's shell never asks whether there is anything to read, and throws its
input away only before it sends a packet, or when it opens the device, which is
followed by the handshake.
-/

/-- How the client's system calls are answered. -/
def Computer.guard (computer : Computer) : Guard Client.signature where
  Answers query :=
    match query with
    | .isatty _ => fun reply => reply = true
    | .openDevice _ => fun reply => reply = computer.device.number
    | .close _ => fun _ => True
    | .uninitialised => fun _ => True
  Begins event := event = .transmitting

/-- A client's computer beside a drained master. -/
def Computer.host (computer : Computer) : Host ε where
  device := computer.device
  uninitialised station := computer.uninitialised station.arrived

theorem Computer.heeds (computer : Computer) :
    computer.world.Heeds computer.guard := by
  intro query packets
  cases query with
  | isatty fd => rfl
  | openDevice path => rfl
  | close fd => trivial
  | uninitialised => trivial

theorem Computer.host_heeds
    {ε : Type}
    (computer : Computer)
    (bus : Master.Bus ε) :
    (drainedWorld bus .clear computer.host).Heeds computer.guard := by
  intro query station
  cases query with
  | isatty fd => rfl
  | openDevice path => rfl
  | close fd => trivial
  | uninitialised => trivial

section Guarding

variable (computer : Computer)

/-- A guarded program of the client, with any result. -/
abbrev Guards (program : Client.ClientProg α) : Prop :=
  program.Guarded computer.guard fun _ => True

variable {computer}

theorem guards_ask (query : Client.Query) :
    Guards computer (Client.ask query) :=
  fun _ _ => trivial

theorem guards_validDev (fd : Int) :
    Guards computer (Client.validDev fd) := by
  rw [Client.validDev]
  split
  · exact guards_ask _
  · trivial

theorem guards_serialRx
    (fd : Int)
    (dest : Memory)
    (offset size : Nat) :
    Guards computer (Client.serialRx fd dest offset size) := by
  refine (guards_validDev fd).bind fun valid _ => ?_
  split
  · trivial
  · exact fun _ => trivial

theorem guards_serialTx
    (fd : Int)
    (buf : Memory)
    (size : Nat) :
    Guards computer (Client.serialTx fd buf size) := by
  refine (guards_validDev fd).bind fun valid _ => ?_
  split
  · trivial
  · trivial

theorem guards_recvAttempt
    (globalId : UInt8)
    (fd : Int)
    (p : Memory) :
    Guards computer (Client.recvAttempt globalId fd p) := by
  refine (guards_serialRx _ _ _ _).bind fun header _ => ?_
  dsimp only
  split
  · trivial
  · exact (guards_serialRx _ _ _ _).bind fun _ _ => trivial

/-- The flush of `_transmit_packet` comes right before the transmission. -/
theorem guards_transmitPacket
    (fd : Int)
    (p : Memory) :
    Guards computer (Client.transmitPacket fd p) := by
  have transmits :
      Guards computer (do
        Client.record .transmitting
        let _ ← Client.serialTx fd p (packetGetSize p).toNat) :=
    (guards_serialTx fd p _).bind fun _ _ => trivial
  by_cases above : fd > 2
  · rw [Client.transmitPacket, Client.serialRxFlush, Client.validDev,
      if_pos above]
    intro reply possible
    cases possible
    exact ⟨Or.inl rfl, transmits⟩
  · rw [Client.transmitPacket, Client.serialRxFlush, Client.validDev,
      if_neg above]
    exact transmits

theorem guards_communicationSend
    (globalId : UInt8)
    (fd : Int)
    (p : Memory) :
    Guards computer (Client.communicationSend globalId fd p) := by
  rw [Client.communicationSend]
  dsimp only
  split
  · trivial
  · refine (guards_transmitPacket fd p).bind fun _ _ =>
      (guards_ask _).bind fun response _ =>
        (guards_recvAttempt globalId fd response).bind
          fun attempt _ => ?_
    change Guards computer (do
      if _ then _ else _)
    split
    · trivial
    · trivial

theorem guards_communicationRecv
    (globalId : UInt8)
    (fd : Int)
    (p : Memory) :
    Guards computer (Client.communicationRecv globalId fd p) := by
  rw [Client.communicationRecv]
  split
  · trivial
  · refine (guards_ask _).bind fun response _ =>
      (guards_recvAttempt globalId fd p).bind fun attempt _ => ?_
    obtain ⟨error, received⟩ := attempt
    cases error with
    | success =>
        exact (guards_serialTx _ _ _).bind fun _ _ => trivial
    | idMismatch =>
        exact (guards_serialTx _ _ _).bind fun _ _ => trivial
    | corruptedChecksum =>
        exact (guards_serialTx _ _ _).bind fun _ _ => trivial
    | _ => trivial

theorem guards_communicationCraftAndSend
    (globalId : UInt8)
    (fd : Int)
    (type selector : UInt8)
    (data : Option Memory)
    (dataSize : UInt8) :
    Guards computer
      (Client.communicationCraftAndSend globalId fd type selector data
        dataSize) := by
  refine (guards_ask _).bind fun p _ => ?_
  dsimp only
  split
  · trivial
  · exact guards_communicationSend _ _ _

theorem guards_psend
    (session : Client.Session)
    (type selector : UInt8)
    (data : Option Memory)
    (dataSize : UInt8) :
    Guards computer
      (Client.psend session type selector data dataSize) :=
  (guards_communicationCraftAndSend _ _ _ _ _ _).bind fun _ _ => trivial

theorem guards_precv
    (session : Client.Session)
    (p : Memory) :
    Guards computer (Client.precv session p) :=
  (guards_communicationRecv _ _ _).bind fun _ _ => trivial

theorem guards_shError
    (session : Client.Session)
    (code : Int)
    (message : String) :
    Guards computer (Client.shError session code message) :=
  trivial

theorem guards_connectOver (session : Client.Session) :
    Guards computer (Client.connectOver session) := by
  refine Prog.Guarded.bind
    ((guards_communicationCraftAndSend _ _ _ _ _ _).bind
      fun _ _ => show Guards computer (pure _) from trivial)
    fun sent _ => ?_
  dsimp only
  split
  · exact guards_shError _ _ _
  · trivial

/-- The handshake on an open device begins with a flush. -/
theorem flushAhead_connectOver
    {session : Client.Session}
    (descriptor : session.avrFd = computer.device.number) :
    (Client.connectOver session).FlushAhead computer.guard := by
  have above := computer.device.above
  refine Prog.FlushAhead.bind (Prog.FlushAhead.bind ?_ _) _
  intro fresh _
  obtain ⟨crafted, craftedOk, size, _⟩ :=
    craft_of_craftable Client.crc fresh 0 0
      (show Craftable ComType.hnd.code none 0 from
        craftable_of_none (by decide))
  have sendable : Client.Sendable crafted :=
    sendable_of_craftable
      (show Craftable ComType.hnd.code none 0 from
        craftable_of_none (by decide)) size
  have admitted :
      ¬ (session.avrFd = 0 ∨ packetGetSize crafted = 0 ∨
        (packetGetSize crafted).toNat > packetSize) := by
    rintro (zeroFd | zeroSize | tooBig)
    · omega
    · exact sendable.1 zeroSize
    · exact Nat.not_lt.mpr sendable.2 tooBig
  change
    (if (Client.packetCraft fresh 0 ComType.hnd.code 0 none 0).1 ≠ 0 then
      pure { code := 1, globalId := 0 }
    else
      Client.communicationSend 0 session.avrFd
        (Client.packetCraft fresh 0 ComType.hnd.code 0 none
          0).2 : Client.ClientProg Client.Outcome).FlushAhead
      computer.guard
  rw [Client.packetCraft, craftedOk, if_neg (fun wrong => wrong rfl)]
  simp only [Client.communicationSend, if_neg admitted]
  refine Prog.FlushAhead.bind (Prog.FlushAhead.bind ?_ _) _
  rw [Client.serialRxFlush, Client.validDev, if_pos (by omega)]
  intro reply possible
  cases possible
  trivial

/-- The flush that opens the device may be followed by another one. -/
theorem guards_serialOpen
    (device : Client.Word)
    {next : Int → Client.ClientProg α}
    (guards : Guards computer (next computer.device.number))
    (ahead :
      (next computer.device.number).FlushAhead computer.guard) :
    Guards computer (Client.serialOpen device.text >>= next) := by
  have above := computer.device.above
  rw [Client.serialOpen, if_neg device.nonempty]
  intro fd opened
  cases opened
  change
    Guards computer
      ((if computer.device.number < 0 then
          pure (-1)
        else do
          Client.serialRxFlush computer.device.number
          return computer.device.number) >>= next)
  rw [if_neg (by omega), Client.serialRxFlush, Client.validDev,
    if_pos (by omega)]
  intro reply possible
  cases possible
  exact ⟨Or.inr ahead, guards⟩

theorem guards_connect
    (session : Client.Session)
    (device : Client.Word) :
    Guards computer (Client.connect session device) := by
  have above := computer.device.above
  have nonnegative : ¬ computer.device.number < 0 := by
    omega
  rw [Client.connect]
  split
  · exact guards_connectOver session
  · apply guards_serialOpen
    · dsimp only
      rw [if_neg nonnegative]
      exact guards_connectOver _
    · dsimp only
      rw [if_neg nonnegative]
      exact flushAhead_connectOver rfl

theorem guards_disconnect (session : Client.Session) :
    Guards computer (Client.disconnect session) := by
  rw [Client.disconnect]
  split
  · exact guards_shError _ _ _
  · refine Prog.Guarded.bind
      (show Guards computer (Client.serialClose session.avrFd) from ?_)
      fun ret _ => ?_
    · refine (guards_validDev _).bind fun valid _ => ?_
      split
      · trivial
      · exact guards_ask _
    · dsimp only
      split
      · exact guards_shError _ _ _
      · trivial

/-- A command that sends one packet. -/
theorem guards_psend_only
    (session : Client.Session)
    (type selector : UInt8)
    (data : Option Memory)
    (dataSize : UInt8)
    (failure : String) :
    Guards computer (do
      let sent ← Client.psend session type selector data dataSize
      if sent.1 ≠ 0 then
        Client.shError sent.2 3 failure
      else
        return (0, sent.2)) := by
  refine (guards_psend _ _ _ _ _).bind fun sent _ => ?_
  split
  · exact guards_shError _ _ _
  · trivial

/-- A command that sends a packet and receives the `DAT` packet after it. -/
theorem guards_exchange
    (session : Client.Session)
    (type selector : UInt8)
    (data : Option Memory)
    (dataSize : UInt8)
    (unsent unreceived : String)
    {finish :
      Int × Client.Session × Memory →
        Client.ClientProg (Int × Client.Session)}
    (finishes : ∀ received, Guards computer (finish received)) :
    Guards computer (do
      let sent ← Client.psend session type selector data dataSize
      if sent.1 ≠ 0 then
        Client.shError sent.2 3 unsent
      else
        let p ← Client.ask .uninitialised
        let received ← Client.precv sent.2 p
        if received.1 ≠ 0 then
          Client.shError received.2.1 3 unreceived
        else
          finish received) := by
  refine (guards_psend _ _ _ _ _).bind fun sent _ => ?_
  split
  · exact guards_shError _ _ _
  · refine (guards_ask _).bind fun fresh _ =>
      (guards_precv _ _).bind fun received _ => ?_
    split
    · exact guards_shError _ _ _
    · exact finishes _

/-- Every command is guarded. -/
theorem guards_command
    (session : Client.Session)
    (command : Client.Command) :
    Guards computer (command.exec session) := by
  cases command with
  | connect device => exact guards_connect session device
  | disconnect => exact guards_disconnect session
  | devEcho args =>
      simp only [Client.Command.exec, Client.devEcho]
      split
      · trivial
      · refine (guards_ask _).bind fun str _ => ?_
        split
        · exact guards_shError _ _ _
        · split
          · exact guards_shError _ _ _
          · refine guards_exchange _ _ _ _ _ _ _ fun received => ?_
            split
            · exact guards_shError _ _ _
            · trivial
  | ping slaveId =>
      simp only [Client.Command.exec, Client.ping]
      split
      · exact guards_shError _ _ _
      · split
        · exact guards_shError _ _ _
        · refine guards_exchange _ _ _ _ _ _ _ fun received => ?_
          split
          · trivial
          · split
            · trivial
            · trivial
  | getSpeed motorId =>
      simp only [Client.Command.exec, Client.getSpeed]
      split
      · exact guards_shError _ _ _
      · split
        · exact guards_shError _ _ _
        · exact guards_exchange _ _ _ _ _ _ _ fun received => trivial
  | setSpeed motorId speed =>
      simp only [Client.Command.exec, Client.setSpeed]
      split
      · exact guards_shError _ _ _
      · split
        · exact guards_shError _ _ _
        · exact guards_psend_only _ _ _ _ _ _
  | apply =>
      simp only [Client.Command.exec, Client.apply]
      split
      · exact guards_shError _ _ _
      · exact guards_psend_only _ _ _ _ _ _
  | setSlaveAddr addrActual addrNew =>
      simp only [Client.Command.exec, Client.setSlaveAddr]
      split
      · exact guards_shError _ _ _
      · split
        · exact guards_shError _ _ _
        · split
          · trivial
          · exact guards_psend_only _ _ _ _ _ _

/-- Every session is guarded. -/
theorem guards_execAll
    (commands : List Client.Command)
    (session : Client.Session) :
    Guards computer (Client.execAll commands session) := by
  induction commands generalizing session with
  | nil => trivial
  | cons command commands inductionHypothesis =>
      exact (guards_command session command).bind fun result _ =>
        inductionHypothesis result.2

end Guarding

end Ammc.Exchange
