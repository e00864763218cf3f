import Ammc.FleetReplies
import Ammc.SlaveSchedule

namespace Ammc.Exchange

open ByteMemory Serial Packet DcMotor Slave

/-!
# Sessions with a fleet

The user gives commands to a row of motors, asks for their speeds, and pings
them, while the slaves measure their speeds and may lose their power.  Everything
that the client writes to the terminal in such a session is what this row of
motors tells.
-/

/-! ## Slaves that are told or asked something -/

/-- Slaves that serve motors wait under their addresses. -/
theorem seated_of_served
    {seats : List Seat}
    {slaves : List Traced}
    (served : List.Forall₂ Serves seats slaves) :
    ∀ slave ∈ slaves, Seated slave.address slave := by
  induction served with
  | nil => exact fun slave member => absurd member List.not_mem_nil
  | cons serves _ inductionHypothesis =>
      refine List.forall_mem_cons.mpr ⟨?_, inductionHypothesis⟩
      rw [serves.seated.address]
      exact serves.seated

/-- The speed that a slave has measured last. -/
def measured (slave : Traced) : DcRpm :=
  slave.motor.speedActual

/-- A command without a reply does not change the measured speeds. -/
theorem measured_twiSend
    (uninitialised : List Traced → Memory)
    {slaves : List Traced}
    (seated : ∀ slave ∈ slaves, Seated slave.address slave)
    {addr : UInt8}
    (low : addr ≤ 126)
    {command : Slave.Command}
    (admissible : command.Admissible)
    (silent : command.Silent) :
    ((tracedBus uninitialised).twiSend addr command.frame slaves).map
        measured =
      slaves.map measured := by
  have kept :
      ∀ slave : Controller,
        (command.carryOut slave).motor.speedActual =
          slave.motor.speedActual := by
    intro slave
    cases command with
    | _ => rfl
  rw [twiSend_listening uninitialised low
      (fun slave member => (seated slave member).listening) command.frame
      (Nat.lt_trans command.short (by decide)),
    List.map_map]
  refine List.map_congr_left fun slave member => ?_
  by_cases concerned : addr = 0 ∨ addr = slave.address
  · obtain ⟨_, _, settings⟩ :=
      (seated slave member).told concerned admissible silent
    have motor := congrArg (fun all => (Prod.fst all).speedActual) settings
    exact motor.trans (kept slave.node.controller)
  · rw [Function.comp_apply,
      (seated slave member).passed concerned command.frame]

/-- Nor do the commands of the user. -/
theorem measured_sends
    (uninitialised : List Traced → Memory)
    {slaves : List Traced}
    (seated : ∀ slave ∈ slaves, Seated slave.address slave)
    {command : FleetCommand}
    (valid : command.Valid) :
    (command.sends (tracedBus uninitialised) slaves).map measured =
      slaves.map measured := by
  cases command with
  | speed command =>
      have speedValid : command.Valid := valid
      cases command with
      | set motorId next =>
          exact
            @measured_twiSend uninitialised slaves seated motorId
              speedValid.low (.setSpeed next) trivial fun _ => rfl
      | apply =>
          exact
            @measured_twiSend uninitialised slaves seated 0 (by decide)
              .applySpeed trivial fun _ => rfl
  | rename addrActual addrNew =>
      obtain ⟨⟨_, actualLow⟩, newPositive, newLow⟩ := valid
      rw [FleetCommand.sends]
      split
      · rfl
      · exact
          @measured_twiSend uninitialised slaves seated addrActual actualLow
            (.setAddr addrNew) ⟨newPositive, newLow⟩ fun _ => rfl

/-- A slave that has been asked serves its motor as before. -/
theorem Serves.kept
    {seat : Seat}
    {before after : Traced}
    (serves : Serves seat before)
    (keeps : Keeps before after) :
    Serves seat after := by
  have seated := keeps.seated
  rw [serves.seated.address] at seated
  refine ⟨seated, ?_, ?_⟩
  · rw [keeps.motor]
    exact serves.next
  · rw [keeps.motor]
    exact serves.target

theorem served_of_keeps
    {seats : List Seat}
    {before after : List Traced}
    (served : List.Forall₂ Serves seats before)
    (keeps : List.Forall₂ Keeps before after) :
    List.Forall₂ Serves seats after := by
  induction served generalizing after with
  | nil =>
      cases keeps
      exact .nil
  | cons serves _ inductionHypothesis =>
      cases keeps with
      | cons first rest =>
          exact .cons (serves.kept first) (inductionHypothesis rest)

theorem measured_of_keeps
    {before after : List Traced}
    (keeps : List.Forall₂ Keeps before after) :
    after.map measured = before.map measured := by
  induction keeps with
  | nil => rfl
  | cons first _ inductionHypothesis =>
      rw [List.map_cons, List.map_cons, inductionHypothesis, measured,
        first.motor]
      rfl

/-! ## What happens in a session -/

/-- A motor as the user sees it, with the speed that was measured last. -/
structure Dial where
  seat : Seat
  actual : DcRpm

/-- What can be read from it. -/
def Dial.reading (dial : Dial) : Reading :=
  (dial.seat.key, dial.actual)

/-- The power of a slave fails, after which it has not measured any speed. -/
def FleetEvent.resets
    (index : Nat) : FleetEvent → Bool
  | .issued _ => false
  | .powerCycle which _ => which index

/--
What may happen: commands and power cycles, new speeds from the timer interrupts
of the slaves, and questions of the user.
-/
inductive Incident where
  | happened (event : FleetEvent)
  | sampled (speeds : Nat → DcRpm)
  | ping (slaveId : UInt8)
  | getSpeed (motorId : UInt8)
  | echo (args : List Client.Word)

namespace Incident

/-- The arguments are some that the client accepts and the bus can carry. -/
def Valid : Incident → Prop
  | .happened event => event.Valid
  | .sampled _ => True
  | .ping slaveId => 1 ≤ slaveId ∧ slaveId ≤ 127
  | .getSpeed motorId => motorId &&& 0x7F ≠ 0
  | .echo args => args ≠ [] ∧ (Client.echoText args).length ≤ 27

/-- What becomes of the motor at a place of the row. -/
def actSeat
    (index : Nat)
    (seat : Seat) : Incident → Seat
  | .happened event => event.event.act wishes index seat
  | _ => seat

/-- What becomes of its measured speed. -/
def actSpeed
    (index : Nat)
    (actual : DcRpm) : Incident → DcRpm
  | .happened event => if event.resets index then 0 else actual
  | .sampled speeds => speeds index
  | _ => actual

/-- Both together. -/
def act
    (index : Nat)
    (dial : Dial)
    (incident : Incident) : Dial where
  seat := incident.actSeat index dial.seat
  actual := incident.actSpeed index dial.actual

/-- The lines that the user reads. -/
def Answers
    (readings : List Reading)
    (lines : List Client.Note) : Incident → Prop
  | .ping slaveId =>
      lines =
        [if present slaveId readings then .available slaveId
          else .unreachable slaveId]
  | .getSpeed motorId =>
      ∃ speed,
        lines = [.speed motorId (readout speed)] ∧
          (present (motorId &&& 0x7F) readings = true →
            speed = speedAt (motorId &&& 0x7F) readings)
  | .echo args => lines = [.puts (Client.echoText args)]
  | _ => lines = []

end Incident

/-- The row of motors after something has happened. -/
def turned
    (dials : List Dial)
    (incident : Incident) : List Dial :=
  dials.mapIdx fun index dial => incident.act index dial

/-- All that the user reads in a session. -/
inductive Answered : List Dial → List Incident → List Client.Note → Prop where
  | finished
      (dials : List Dial) :
      Answered dials [] []
  | incident
      {dials : List Dial}
      {incident : Incident}
      {later : List Incident}
      {lines rest : List Client.Note}
      (answers : incident.Answers (dials.map Dial.reading) lines)
      (others : Answered (turned dials incident) later rest) :
      Answered dials (incident :: later) (lines ++ rest)

theorem seats_turned
    (dials : List Dial)
    (incident : Incident) :
    (turned dials incident).map Dial.seat =
      (dials.map Dial.seat).mapIdx fun index seat =>
        incident.actSeat index seat := by
  apply List.ext_getElem
  · simp [turned]
  · intro index _ _
    simp [turned, Incident.act]

theorem speeds_turned
    (dials : List Dial)
    (incident : Incident) :
    (turned dials incident).map Dial.actual =
      (dials.map Dial.actual).mapIdx fun index actual =>
        incident.actSpeed index actual := by
  apply List.ext_getElem
  · simp [turned]
  · intro index _ _
    simp [turned, Incident.act]

section Sessions

variable (uninitialised : List Traced → Memory)
variable (host : Host (List Traced))

/-- A question that ends with the return code 0. -/
def enquire
    (state :
      Client.Session × Port Client.signature (Station (List Traced)))
    (program : Client.Session → Client.ClientProg (Int × Client.Session)) :
    Option
      (Client.Session × Port Client.signature (Station (List Traced))) :=
  match
    Serial.exec (drainedWorld (tracedBus uninitialised) .clear host)
      (program state.1) state.2 with
  | (some (code, session), port) =>
      if code = 0 then some (session, port) else none
  | (none, _) => none

/-- What one incident does. -/
def sessionStep
    (state :
      Client.Session × Port Client.signature (Station (List Traced))) :
    Incident →
      Option
        (Client.Session × Port Client.signature (Station (List Traced)))
  | .happened event => fleetStep uninitialised host state event
  | .sampled speeds =>
      some
        (state.1,
          withSlaves
            (state.2.env.port.env.mapIdx fun index slave =>
              slave.after (slave.node.sample (speeds index)))
            state.2)
  | .ping slaveId =>
      enquire uninitialised host state fun session =>
        Client.ping session slaveId.toUInt32
  | .getSpeed motorId =>
      enquire uninitialised host state fun session =>
        Client.getSpeed session motorId
  | .echo args =>
      enquire uninitialised host state fun session =>
        Client.devEcho session args

/-- Both sides wait, and the slaves are as the row of motors shows. -/
structure Watched
    (dials : List Dial)
    (state :
      Client.Session ×
        Port Client.signature (Station (List Traced))) : Prop where
  attended : Attended host (dials.map Dial.seat) state
  actual :
    state.2.env.port.env.map measured = dials.map Dial.actual

variable {uninitialised host}

/-- A question that is answered. -/
theorem enquire_of_concludes
    {session : Client.Session}
    {port : Port Client.signature (Station (List Traced))}
    {program : Client.Session → Client.ClientProg (Int × Client.Session)}
    {lines : List Client.Note}
    {slaves : List Traced}
    (concludes :
      Concludes (tracedBus uninitialised) host (program session) port lines
        slaves) :
    ∃ next,
      enquire uninitialised host (session, port) program = some next ∧
        Ready next.1.globalId next.2 ∧
        next.1.avrFd = host.device.number ∧
        next.2.env.port.env = slaves ∧
        onTerminal next.2.log = onTerminal port.log ++ lines := by
  obtain ⟨last, after, run, ready, connected, env, shown⟩ := concludes
  refine ⟨(last, after), ?_, ready, connected, env, shown⟩
  rw [enquire, run]
  rfl

namespace Watched

variable {dials : List Dial}
variable
  {state :
    Client.Session × Port Client.signature (Station (List Traced))}

/-- The slaves can be read as the row of motors. -/
theorem readings
    (watched : Watched host dials state) :
    state.2.env.port.env.map reading = dials.map Dial.reading := by
  have addresses := watched.attended.addresses_eq
  have actual := watched.actual
  rw [Exchange.addresses, List.map_map] at addresses
  have both := congrArg₂ List.zip addresses actual
  rw [List.zip_map', List.zip_map'] at both
  exact both

theorem seated
    (watched : Watched host dials state) :
    ∀ slave ∈ state.2.env.port.env, Seated slave.address slave :=
  seated_of_served watched.attended.served

/-- A question leaves the slaves as the row of motors shows. -/
theorem enquired
    (watched : Watched host dials state)
    {next :
      Client.Session × Port Client.signature (Station (List Traced))}
    (ready : Ready next.1.globalId next.2)
    (connected : next.1.avrFd = host.device.number)
    (keeps :
      List.Forall₂ Keeps state.2.env.port.env next.2.env.port.env) :
    Watched host dials next where
  attended :=
    ⟨ready, connected, served_of_keeps watched.attended.served keeps⟩
  actual := (measured_of_keeps keeps).trans watched.actual

/-- A question turns nothing. -/
theorem turned_question
    (watched : Watched host dials state)
    {incident : Incident}
    (sameSeat : ∀ index seat, incident.actSeat index seat = seat)
    (sameSpeed : ∀ index actual, incident.actSpeed index actual = actual) :
    Watched host (turned dials incident) state := by
  have same : turned dials incident = dials := by
    apply List.ext_getElem
    · simp [turned]
    · intro index _ _
      simp [turned, Incident.act, sameSeat, sameSpeed]
  rw [same]
  exact watched

/-- New speeds are measured. -/
theorem sampled
    (watched : Watched host dials state)
    (speeds : Nat → DcRpm) :
    Watched host (turned dials (.sampled speeds))
      (state.1,
        withSlaves
          (state.2.env.port.env.mapIdx fun index slave =>
            slave.after (slave.node.sample (speeds index)))
          state.2) where
  attended := by
    obtain ⟨ready, connected, served⟩ := watched.attended
    refine ⟨⟨⟨ready.idle.1, ready.idle.2⟩, ready.ids⟩, connected, ?_⟩
    rw [seats_turned]
    refine forall₂_serves served fun index seat slave serves => ?_
    obtain ⟨⟨armed, agree, own⟩, next, target⟩ := serves
    exact
      ⟨⟨⟨⟨armed.place, armed.phase, armed.mode, armed.twea⟩,
            armed.count⟩,
          ⟨agree.register, agree.eeprom, agree.positive, agree.low⟩, own⟩,
        next, target⟩
  actual := by
    have sameLength := congrArg List.length watched.actual
    rw [List.length_map, List.length_map] at sameLength
    rw [speeds_turned]
    apply List.ext_getElem
    · simp [withSlaves, sameLength]
    · intro index _ _
      simp [withSlaves, Incident.actSpeed, measured, Traced.motor,
        Traced.after, Node.sample]

/-- The power of slaves fails. -/
theorem powerCycled
    (watched : Watched host dials state)
    (which : Nat → Bool)
    (leftover : Nat → Memory) :
    Watched host (turned dials (.happened (.powerCycle which leftover)))
      (state.1,
        withSlaves (cyclePower which leftover state.2.env.port.env)
          state.2) where
  attended := by
    obtain ⟨next, step, attended⟩ :=
      @Attended.step (fun _ _ => 0) host _ _ watched.attended
        (.powerCycle which leftover) trivial
    cases step
    rw [seats_turned]
    exact attended
  actual := by
    have stopped :
        ∀ (slave : Traced) (memory : Memory),
          measured (slave.restart memory) = 0 :=
      fun _ _ => rfl
    have actual := watched.actual
    rw [speeds_turned, ← actual]
    apply List.ext_getElem
    · simp [withSlaves, cyclePower]
    · intro index _ _
      simp only [withSlaves, cyclePower, List.getElem_map,
        List.getElem_mapIdx, Incident.actSpeed, FleetEvent.resets]
      split
      · exact stopped _ _
      · rfl

/-- A command is carried out by the slaves. -/
theorem commanded
    (watched : Watched host dials state)
    {command : FleetCommand}
    (valid : command.Valid) :
    ∃ next,
      fleetStep uninitialised host state (.issued command) = some next ∧
        Watched host (turned dials (.happened (.issued command))) next ∧
        onTerminal next.2.log = onTerminal state.2.log := by
  obtain ⟨last, after, run, ready, connected, sent, silent⟩ :=
    @concludes_command _ (tracedBus uninitialised) host _ _
      watched.attended.ready watched.attended.connected command valid
  refine ⟨(last, after), ?_, ⟨⟨ready, connected, ?_⟩, ?_⟩, ?_⟩
  · rw [fleetStep, issueFleet, run]
    rfl
  · rw [seats_turned, sent]
    exact served_sends watched.attended.served valid
  · rw [speeds_turned, sent,
      measured_sends uninitialised watched.seated valid, watched.actual]
    apply List.ext_getElem
    · simp
    · intro index _ _
      simp [Incident.actSpeed, FleetEvent.resets]
  · rw [silent, List.append_nil]

/-- A question is answered, and leaves everything as it is. -/
theorem questioned
    (watched : Watched host dials state)
    {program : Client.Session → Client.ClientProg (Int × Client.Session)}
    {lines : List Client.Note}
    {slaves : List Traced}
    (concludes :
      Concludes (tracedBus uninitialised) host (program state.1) state.2
        lines slaves)
    (keeps : List.Forall₂ Keeps state.2.env.port.env slaves) :
    ∃ next,
      enquire uninitialised host state program = some next ∧
        Watched host dials next ∧
        onTerminal next.2.log = onTerminal state.2.log ++ lines := by
  obtain ⟨next, answered, ready, connected, env, shown⟩ :=
    enquire_of_concludes concludes
  refine ⟨next, answered, ?_, shown⟩
  rw [← env] at keeps
  exact watched.enquired ready connected keeps

/-- One incident. -/
theorem step
    (watched : Watched host dials state)
    {incident : Incident}
    (valid : incident.Valid) :
    ∃ next lines,
      sessionStep uninitialised host state incident = some next ∧
        Watched host (turned dials incident) next ∧
        onTerminal next.2.log = onTerminal state.2.log ++ lines ∧
        incident.Answers (dials.map Dial.reading) lines := by
  have ready := watched.attended.ready
  have connected := watched.attended.connected
  rw [← watched.readings]
  cases incident with
  | sampled speeds =>
      exact
        ⟨_, [], rfl, watched.sampled speeds, (List.append_nil _).symm, rfl⟩
  | happened event =>
      cases event with
      | powerCycle which leftover =>
          exact
            ⟨_, [], rfl, watched.powerCycled which leftover,
              (List.append_nil _).symm, rfl⟩
      | issued command =>
          obtain ⟨next, issued, stillWatched, silent⟩ :=
            @commanded uninitialised host _ _ watched command valid
          refine ⟨next, [], issued, stillWatched, ?_, rfl⟩
          rw [silent, List.append_nil]
  | ping slaveId =>
      have craftable : Craftable ComType.ping.code none 0 :=
        craftable_of_none (by decide)
      obtain ⟨replied, keeps⟩ :=
        effect_ping_slaves uninitialised watched.seated
          (sentFrame_type state.1.globalId slaveId craftable
            state.2.env.handler.rx)
          (sentFrame_selector state.1.globalId slaveId craftable
            state.2.env.handler.rx)
          valid.1 valid.2
      obtain ⟨next, answered, stillWatched, shown⟩ :=
        @questioned uninitialised host _ _ watched
          (fun session => Client.ping session slaveId.toUInt32) _ _
          (concludes_ping ready connected valid.1 valid.2 craftable replied)
          keeps
      exact
        ⟨next, _, answered,
          stillWatched.turned_question (fun _ _ => rfl) fun _ _ => rfl,
          shown, rfl⟩
  | getSpeed motorId =>
      have craftable : Craftable ComType.getSpeed.code none 0 :=
        craftable_of_none (by decide)
      have nonzero : motorId ≠ 0 := by
        rintro rfl
        exact valid rfl
      obtain ⟨⟨speed, replied, known⟩, keeps⟩ :=
        effect_getSpeed_slaves uninitialised watched.seated
          (sentFrame_type state.1.globalId motorId craftable
            state.2.env.handler.rx)
          (sentFrame_selector state.1.globalId motorId craftable
            state.2.env.handler.rx)
          valid
      obtain ⟨next, answered, stillWatched, shown⟩ :=
        @questioned uninitialised host _ _ watched
          (fun session => Client.getSpeed session motorId) _ _
          (concludes_getSpeed ready connected nonzero craftable replied)
          keeps
      exact
        ⟨next, _, answered,
          stillWatched.turned_question (fun _ _ => rfl) fun _ _ => rfl,
          shown, speed, rfl, known⟩
  | echo args =>
      have unchanged :
          List.Forall₂ Keeps state.2.env.port.env
            state.2.env.port.env :=
        List.forall₂_same.mpr fun slave member =>
          ⟨watched.seated slave member, rfl, rfl⟩
      obtain ⟨next, answered, stillWatched, shown⟩ :=
        @questioned uninitialised host _ _ watched
          (fun session => Client.devEcho session args) _ _
          (concludes_devEcho ready connected valid.1 valid.2) unchanged
      exact
        ⟨next, _, answered,
          stillWatched.turned_question (fun _ _ => rfl) fun _ _ => rfl,
          shown, rfl⟩

end Watched

end Sessions

/-! ## Two slaves that answer together -/

end Ammc.Exchange
