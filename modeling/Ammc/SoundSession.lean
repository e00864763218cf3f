import Ammc.ClientGuard
import Ammc.EchoReply

namespace Ammc.Exchange

open ByteMemory Serial Packet

/-!
# Sessions of drained exchanges, to their end

A session of a drained exchange either completes or ends up waiting for the
answer to a `dev-echo` that is too long for it.  Nothing has gone wrong by then,
and the master has taken every packet.
-/

section Sessions

variable {ε : Type}
variable (bus : Master.Bus ε)
variable {host : Host ε}

/-- The run is taken by the master, and nothing has gone wrong at its end. -/
structure Sound
    (bus : Master.Bus ε)
    (host : Host ε)
    (program : Client.ClientProg α)
    (port : Port Client.signature (Station ε)) : Prop where
  responsive :
    program.Responsive (drainedWorld bus .clear host) port
  faultless :
    Faultless
      (exec (drainedWorld bus .clear host) program port).2.log
      (exec (drainedWorld bus .clear host) program port).2.env.port.log

/-- A run that goes on soundly is sound. -/
theorem sound_after
    {program : Client.ClientProg α}
    {next : α → Client.ClientProg β}
    {port middle : Port Client.signature (Station ε)}
    {value : α}
    (ended :
      exec (drainedWorld bus .clear host) program port =
        (some value, middle))
    (sound : Sound bus host (next value) middle) :
    Sound bus host (program >>= next) port := by
  refine ⟨(Prog.responsive_of_exec ended).bind ?_, ?_⟩
  · intro other later finished
    rw [ended] at finished
    cases finished
    exact sound.responsive
  · rw [exec_bind_of_done ended]
    exact sound.faultless

/-- A `dev-echo` whose answer is too long is refused or waits for it. -/
theorem echo_ends
    {session : Client.Session}
    {port : Port Client.signature (Station ε)}
    (running : Running host session port)
    {args : List Client.Word}
    (long : 27 < (Client.echoText args).length) :
    Completes host
        (exec (drainedWorld bus .clear host)
          (Client.devEcho session args) port) ∨
      ∃ after,
        (Client.devEcho session args).Waits
            (drainedWorld bus .clear host) port after ∧
          Faultless after.log after.env.port.log := by
  have given : args ≠ [] := by
    rintro rfl
    simp [Client.echoText] at long
  have world := drainedWorld_connected bus .clear host
  rcases running.descriptor with connected | disconnected
  · by_cases accepted : (Client.echoText args).length ≤ 30
    · obtain ⟨data, dataSize, craftable, waits⟩ :=
        waits_devEcho bus host running.toInStep.ready connected given
          accepted long
      refine Or.inr ⟨_, waits, ?_⟩
      rw [Port.log_waiting, Port.env_waiting]
      exact
        faultless_portSent bus session.globalId 0 craftable
          running.toSettled running.faultless
    · have refused :=
        (Client.prepareEchoString_spec
          (Client.garbage (drainedWorld bus .clear host) port.env)
          given).2 (Nat.not_le.mp accepted)
      rcases prepared :
          Client.prepareEchoString
            (Client.garbage (drainedWorld bus .clear host) port.env)
            args with ⟨strLen, str⟩
      rw [prepared] at refused
      have tooLong : strLen.toNat > bodyMaxLen := by
        rw [show strLen = 0xFF from refused]
        decide
      left
      rw [Client.devEcho, if_neg given,
        exec_bind_of_done (Client.exec_uninitialised world port),
        if_neg (host.device.opened connected), prepared]
      dsimp only
      rw [if_pos tooLong]
      exact completes_shError bus running _ _
  · left
    rw [Client.devEcho, if_neg given,
      exec_bind_of_done (Client.exec_uninitialised world port),
      if_pos (Client.negative_of_closed disconnected)]
    exact completes_shError bus running _ _

/-- Every command completes, or it waits with nothing gone wrong. -/
theorem command_ends
    {session : Client.Session}
    {port : Port Client.signature (Station ε)}
    (running : Running host session port)
    (command : Client.Command) :
    Completes host
        (exec (drainedWorld bus .clear host) (command.exec session)
          port) ∨
      ∃ after,
        (command.exec session).Waits (drainedWorld bus .clear host) port
            after ∧
          Faultless after.log after.env.port.log := by
  by_cases fits : EchoFits command
  · exact Or.inl (completes_command bus running fits)
  · cases command with
    | devEcho args =>
        exact echo_ends bus running (Nat.not_le.mp fits)
    | _ => exact absurd trivial fits

/-- A session that is in step is sound to its end. -/
theorem sound_execAll
    (commands : List Client.Command)
    {session : Client.Session}
    {port : Port Client.signature (Station ε)}
    (running : Running host session port) :
    Sound bus host (Client.execAll commands session) port := by
  induction commands generalizing session port with
  | nil => exact ⟨trivial, running.faultless⟩
  | cons command commands inductionHypothesis =>
      rw [Client.execAll_cons]
      rcases command_ends bus running command with
        ⟨code, next, middle, done, stillRunning⟩ | ⟨after, waits, clean⟩
      · exact sound_after bus done (inductionHypothesis stillRunning)
      · have blocked :=
          waits.bind fun result => Client.execAll commands result.2
        refine ⟨blocked.responsive, ?_⟩
        rw [blocked.stuck]
        exact clean

/-- A session that begins with `connect` is sound from the start. -/
theorem sound_session
    (clientId masterId : UInt8)
    (rx : Memory)
    (env : ε)
    (device : Client.Word)
    (commands : List Client.Command) :
    Sound bus host
      (Client.execAll (.connect device :: commands)
        { globalId := clientId, avrFd := -1 })
      (freshPort masterId rx env) := by
  obtain ⟨connected, middle, done, running⟩ :=
    exec_connect bus
      (show
        ({ globalId := clientId, avrFd := -1 } : Client.Session).avrFd =
            host.device.number ∨
          ({ globalId := clientId, avrFd := -1 } : Client.Session).avrFd =
            -1 from Or.inr rfl)
      device (freshPort_settled masterId rx env)
      (freshPort_faultless masterId rx env)
  rw [Client.execAll_cons]
  exact sound_after bus done (sound_execAll bus commands running)

end Sessions

end Ammc.Exchange
