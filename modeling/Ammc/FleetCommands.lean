import Ammc.KeyedCells
import Ammc.SlaveRenames
import Ammc.SpeedCommands

namespace Ammc.Exchange

open ByteMemory Serial Packet DcMotor Slave

/-!
# A fleet of motors

The user of the client sees a row of motors, each with the speed that was set
for it and the speed that was applied, under addresses that `set-slave-addr`
changes.  Any of the slaves may lose its power between two commands.  What a
command does to the slaves on the bus is what the user expects it to do to this
row, for every sequence of commands and power cycles.
-/

/-- The commands that change something at the slaves. -/
inductive FleetCommand where
  | speed (command : SpeedCommand)
  | rename (addrActual addrNew : UInt8)
  deriving Repr, DecidableEq

namespace FleetCommand

/-- The command of the shell. -/
def exec
    (session : Client.Session) :
    FleetCommand → Client.ClientProg (Int × Client.Session)
  | .speed command => command.exec session
  | .rename addrActual addrNew =>
      Client.setSlaveAddr session addrActual addrNew

/-- The addresses are those of slaves. -/
def Valid : FleetCommand → Prop
  | .speed command => command.Valid
  | .rename addrActual addrNew =>
      (1 ≤ addrActual ∧ addrActual ≤ 126) ∧
        1 ≤ addrNew ∧ addrNew ≤ 126

/-- What the user expects to happen to the row of motors. -/
def event : FleetCommand → KeyedCells.Event UInt8 MotorCall
  | .speed (.set motorId next) => .one motorId (.set next)
  | .speed .apply => .all .apply
  | .rename addrActual addrNew => .rekey addrActual addrNew

end FleetCommand

/-- The speeds of a motor as the user sees them. -/
structure Wish where
  pending : DcRpm
  applied : DcRpm
  deriving Repr, DecidableEq

/-- Before any command. -/
def Wish.none : Wish where
  pending := 0
  applied := 0

/-- A set speed is pending until it is applied. -/
def Wish.perform : MotorCall → Wish → Wish
  | .set next, wish => { wish with pending := next }
  | .apply, wish => { wish with applied := wish.pending }

/-- The motors of the user. -/
def wishes : KeyedCells.Rules Wish MotorCall where
  perform := Wish.perform
  initial := Wish.none

/-- A motor as the user sees it. -/
abbrev Seat := KeyedCells.Cell UInt8 Wish

/-- A slave has the address and the limited speeds of the user's motor. -/
structure Serves
    (seat : Seat)
    (slave : Traced) : Prop where
  seated : Seated seat.key slave
  next : slave.motor.speedNext = computeLimitedSpeed seat.value.pending
  target : slave.motor.speedTarget = computeLimitedSpeed seat.value.applied

/-! ## One slave -/

namespace Serves

variable {seat : Seat} {slave : Traced}

/-- A call does to the motor what it does to the wish. -/
theorem called
    (serves : Serves seat slave)
    {target : UInt8}
    (concerned : target = 0 ∨ target = seat.key)
    (call : MotorCall) :
    Serves { seat with value := Wish.perform call seat.value }
      (slave.after (slave.node.write target call.frame)).settle := by
  obtain ⟨seated, motor⟩ := serves.seated.called concerned call
  cases call with
  | set next =>
      refine ⟨seated, ?_, ?_⟩
      · rw [motor]
        rfl
      · rw [motor]
        exact serves.target
  | apply =>
      refine ⟨seated, ?_, ?_⟩
      · rw [motor]
        exact serves.next
      · rw [motor]
        exact serves.next

/-- A speed reaches the slaves under its address. -/
theorem told_set
    (serves : Serves seat slave)
    {motorId : UInt8}
    (notGeneral : motorId ≠ 0)
    (next : DcRpm)
    (index : Nat) :
    Serves
      ((KeyedCells.Event.one motorId (MotorCall.set next)).act wishes index
        seat)
      (slave.after
        (slave.node.write motorId (MotorCall.set next).frame)).settle := by
  rw [KeyedCells.Event.act]
  split
  · rename_i same
    exact serves.called (Or.inr same.symm) (.set next)
  · rename_i different
    rw [serves.seated.passed (by
      rintro (general | same)
      · exact notGeneral general
      · exact different same.symm)]
    exact serves

/-- A slave is given another address. -/
theorem told_rename
    (serves : Serves seat slave)
    {addrActual addrNew : UInt8}
    (notGeneral : addrActual ≠ 0)
    (positive : 1 ≤ addrNew)
    (low : addrNew ≤ 126)
    (index : Nat) :
    Serves
      ((KeyedCells.Event.rekey addrActual addrNew :
        KeyedCells.Event UInt8 MotorCall).act wishes index seat)
      (slave.after
        (slave.node.write addrActual
          (Slave.Command.setAddr addrNew).frame)).settle := by
  rw [KeyedCells.Event.act]
  split
  · rename_i same
    rw [← same]
    obtain ⟨seated, motor⟩ := serves.seated.renamed positive low
    refine ⟨seated, ?_, ?_⟩
    · rw [motor]
      exact serves.next
    · rw [motor]
      exact serves.target
  · rename_i different
    rw [serves.seated.passed (by
      rintro (general | same)
      · exact notGeneral general
      · exact different same.symm)]
    exact serves

/-- A slave whose power has failed has its address, and no speeds. -/
theorem restart
    (serves : Serves seat slave)
    (leftover : Memory) :
    Serves { seat with value := Wish.none } (slave.restart leftover) := by
  obtain ⟨seated, motor⟩ := serves.seated.restart leftover
  have stopped : computeLimitedSpeed 0 = 0 := by
    decide
  refine ⟨seated, ?_, ?_⟩
  · rw [motor]
    exact stopped.symm
  · rw [motor]
    exact stopped.symm

end Serves

/-! ## The commands -/

section Issuing

variable {ε : Type}
variable (bus : Master.Bus ε)
variable (host : Host ε)

/-- A command that ends with the return code 0. -/
def issueFleet
    (state :
      Client.Session × Port Client.signature (Station ε))
    (command : FleetCommand) :
    Option (Client.Session × Port Client.signature (Station ε)) :=
  match
    Serial.exec (drainedWorld bus .clear host) (command.exec state.1)
      state.2 with
  | (some (code, session), port) =>
      if code = 0 then some (session, port) else none
  | (none, _) => none

/-- The frames that a command sends to the slaves. -/
def FleetCommand.sends
    (command : FleetCommand)
    (env : ε) : ε :=
  match command with
  | .speed command => bus.twiSend command.target command.call.frame env
  | .rename addrActual addrNew =>
      if addrActual = addrNew then
        env
      else
        bus.twiSend addrActual (Slave.Command.setAddr addrNew).frame env

/-- The master passes on the new address of a packet. -/
theorem effect_of_setSlaveAddr
    {p : Memory}
    (typeField : packetGetType p = ComType.setSlaveAddr.code)
    {addrNew : UInt8}
    (body : (packetBody p).bytes 0 1 = [addrNew])
    (env : ε) :
    (Master.effect bus p env).2 =
      bus.twiSend (packetGetSelector p)
        (Slave.Command.setAddr addrNew).frame env := by
  have carried : packetBody p 0 = addrNew :=
    (List.cons.inj body).1
  rw [← carried]
  simp [Master.effect, typeField, ComType.code, Slave.Command.frame]

/-- A command is acknowledged, and its frame reaches the bus. -/
theorem issueFleet_of_ready
    {session : Client.Session}
    {port : Port Client.signature (Station ε)}
    (ready : Ready session.globalId port)
    (connected : session.avrFd = host.device.number)
    {command : FleetCommand}
    (valid : command.Valid) :
    ∃ next after,
      issueFleet bus host (session, port) command = some (next, after) ∧
        Ready next.globalId after ∧
        next.avrFd = session.avrFd ∧
        after.env.port.env = command.sends bus port.env.port.env := by
  cases command with
  | speed command =>
      obtain ⟨after, issued⟩ :=
        issued_of_ready bus host ready connected valid
      exact
        ⟨advanced session, after, issued.issued, issued.ready, rfl,
          issued.sent⟩
  | rename addrActual addrNew =>
      have deviceOpen := host.device.opened connected
      obtain ⟨⟨actualPositive, actualLow⟩, newPositive, newLow⟩ := valid
      have inRange :
          ¬ (addrActual = 0 ∨ addrNew = 0 ∨
              addrActual.toNat ≥ Client.slaveIdLimit ∨
              addrNew.toNat ≥ Client.slaveIdLimit) := by
        simp only [← UInt8.toNat_inj, UInt8.le_iff_toNat_le] at *
        simp only [UInt8.reduceToNat, Client.slaveIdLimit] at *
        omega
      by_cases same : addrActual = addrNew
      · refine ⟨session, port, ?_, ready, rfl, ?_⟩
        · rw [issueFleet]
          simp only [FleetCommand.exec, Client.setSlaveAddr,
            if_neg deviceOpen, if_neg inRange, if_pos same]
          rfl
        · rw [FleetCommand.sends, if_pos same]
      · have craftable :
            Craftable ComType.setSlaveAddr.code
              (some fun _ => addrNew) 1 :=
          craftable_of_body _ (by decide) (by decide)
        have sent :=
          exec_psend_clear bus host session connected addrActual craftable
            port ready.idle (ready.agree (by decide))
        refine
          ⟨advanced session,
            portSent bus port session.globalId addrActual craftable, ?_,
            ready_portSent bus ready addrActual craftable (by decide), rfl,
            ?_⟩
        · rw [issueFleet]
          simp only [FleetCommand.exec, Client.setSlaveAddr,
            if_neg deviceOpen, if_neg inRange, if_neg same]
          rw [exec_bind_of_done sent]
          rfl
        · have inRest :
              1 ≤
                (sentFrame session.globalId addrActual
                  craftable).rest.length := by
            simp [sentFrame, imageFrame, bodyBytes]
          have body :=
            Datagram.bytes_packetBody_landed _ port.env.handler.rx inRest
          rw [env_portSent, FleetCommand.sends, if_neg same,
            effect_of_setSlaveAddr bus
              (sentFrame_type session.globalId addrActual craftable
                port.env.handler.rx) body,
            sentFrame_selector]

end Issuing

/-! ## Runs of the fleet -/

/-- What may happen: commands of the user, and failures of the power. -/
inductive FleetEvent where
  | issued (command : FleetCommand)
  | powerCycle (which : Nat → Bool) (leftover : Nat → Memory)

namespace FleetEvent

/-- The commands have addresses of slaves. -/
def Valid : FleetEvent → Prop
  | .issued command => command.Valid
  | .powerCycle _ _ => True

/-- What the user expects of the row of motors. -/
def event : FleetEvent → KeyedCells.Event UInt8 MotorCall
  | .issued command => command.event
  | .powerCycle which _ => .restart which

end FleetEvent

/-- The slaves lose their power, or some of them. -/
def cyclePower
    (which : Nat → Bool)
    (leftover : Nat → Memory)
    (slaves : List Traced) : List Traced :=
  slaves.mapIdx fun index slave =>
    if which index then slave.restart (leftover index) else slave

/-- The port of a client whose master is connected to other slaves. -/
def withSlaves
    (slaves : List Traced)
    (port : Port Client.signature (Station (List Traced))) :
    Port Client.signature (Station (List Traced)) :=
  { port with
    env :=
      { port.env with
        port := { port.env.port with env := slaves } } }

section Running

variable (uninitialised : List Traced → Memory)
variable (host : Host (List Traced))

/-- One event, with commands that end with the return code 0. -/
def fleetStep
    (state :
      Client.Session × Port Client.signature (Station (List Traced))) :
    FleetEvent →
      Option
        (Client.Session × Port Client.signature (Station (List Traced)))
  | .issued command =>
      issueFleet (tracedBus uninitialised) host state command
  | .powerCycle which leftover =>
      some
        (state.1,
          withSlaves (cyclePower which leftover state.2.env.port.env)
            state.2)

/-- The events happen one after the other. -/
def fleetRun
    (state :
      Client.Session × Port Client.signature (Station (List Traced)))
    (events : List FleetEvent) :
    Option
      (Client.Session × Port Client.signature (Station (List Traced))) :=
  events.foldlM (fleetStep uninitialised host) state

/-- Both sides wait, and the slaves serve the motors of the user. -/
structure Attended
    (seats : List Seat)
    (state :
      Client.Session ×
        Port Client.signature (Station (List Traced))) : Prop where
  ready : Ready state.1.globalId state.2
  connected : state.1.avrFd = host.device.number
  served : List.Forall₂ Serves seats state.2.env.port.env

variable {uninitialised host}

/-- What happens to each slave by itself happens to the row. -/
theorem forall₂_serves
    {seats : List Seat}
    {slaves : List Traced}
    (served : List.Forall₂ Serves seats slaves)
    {act : Nat → Seat → Seat}
    {become : Nat → Traced → Traced}
    (each :
      ∀ index seat slave,
        Serves seat slave →
        Serves (act index seat) (become index slave)) :
    List.Forall₂ Serves (seats.mapIdx act) (slaves.mapIdx become) := by
  rw [List.forall₂_iff_get] at served ⊢
  obtain ⟨sameLength, one⟩ := served
  refine ⟨?_, fun index inSeats inSlaves => ?_⟩
  · rw [List.length_mapIdx, List.length_mapIdx, sameLength]
  · rw [List.length_mapIdx] at inSeats inSlaves
    simp only [List.get_eq_getElem, List.getElem_mapIdx]
    exact each index _ _ (one index inSeats inSlaves)

/-- Slaves that serve motors listen to commands. -/
theorem listening_of_served
    {seats : List Seat}
    {slaves : List Traced}
    (served : List.Forall₂ Serves seats slaves) :
    ∀ slave ∈ slaves, Listening slave := by
  induction served with
  | nil => exact fun slave member => absurd member List.not_mem_nil
  | cons serves _ inductionHypothesis =>
      exact List.forall_mem_cons.mpr
        ⟨serves.seated.listening, inductionHypothesis⟩

/-- A frame does to the slaves what an event is expected to do. -/
theorem served_twiSend
    {seats : List Seat}
    {slaves : List Traced}
    (served : List.Forall₂ Serves seats slaves)
    {addr : UInt8}
    (low : addr ≤ 126)
    {frame : List UInt8}
    (short : frame.length < 2 ^ 16)
    {event : KeyedCells.Event UInt8 MotorCall}
    (each :
      ∀ index seat slave,
        Serves seat slave →
        Serves (event.act wishes index seat)
          (slave.after (slave.node.write addr frame)).settle) :
    List.Forall₂ Serves
      (seats.mapIdx fun index seat => event.act wishes index seat)
      ((tracedBus uninitialised).twiSend addr frame slaves) := by
  have indexed :
      (tracedBus uninitialised).twiSend addr frame slaves =
        slaves.mapIdx fun _ slave =>
          (slave.after (slave.node.write addr frame)).settle := by
    rw [twiSend_listening uninitialised low (listening_of_served served)
      frame short]
    apply List.ext_getElem
    · simp
    · simp
  rw [indexed]
  exact forall₂_serves served each

/-- So do the frames of a command. -/
theorem served_sends
    {seats : List Seat}
    {slaves : List Traced}
    (served : List.Forall₂ Serves seats slaves)
    {command : FleetCommand}
    (valid : command.Valid) :
    List.Forall₂ Serves
      (seats.mapIdx fun index seat => command.event.act wishes index seat)
      (command.sends (tracedBus uninitialised) slaves) := by
  cases command with
  | speed command =>
      have short := command.call.short
      have speedValid : command.Valid := valid
      cases command with
      | set motorId next =>
          exact served_twiSend served speedValid.low short
            fun index _ _ serves =>
              serves.told_set speedValid.notGeneral next index
      | apply =>
          exact served_twiSend served speedValid.low short
            fun _ _ _ serves => serves.called (Or.inl rfl) .apply
  | rename addrActual addrNew =>
      obtain ⟨⟨actualPositive, actualLow⟩, newPositive, newLow⟩ := valid
      have notGeneral : addrActual ≠ 0 := by
        rintro rfl
        exact absurd actualPositive (by decide)
      rw [FleetCommand.sends]
      split
      · rename_i same
        have nothing :
            (seats.mapIdx fun index seat =>
                (FleetCommand.rename addrActual addrNew).event.act wishes
                  index seat) =
              seats := by
          apply List.ext_getElem
          · simp
          · intro index inMapped inSeats
            rw [List.getElem_mapIdx]
            change
              (if seats[index].key = addrActual then
                  { seats[index] with key := addrNew }
                else
                  seats[index]) =
                seats[index]
            split
            · rename_i present
              rw [← same, ← present]
            · rfl
        rw [nothing]
        exact served
      · exact served_twiSend served actualLow
          (Nat.lt_trans (Slave.Command.setAddr addrNew).short (by decide))
          fun index _ _ serves =>
            serves.told_rename notGeneral newPositive newLow index

/-- An event happens to the row of motors and to the slaves. -/
theorem Attended.step
    {seats : List Seat}
    {state :
      Client.Session × Port Client.signature (Station (List Traced))}
    (attended : Attended host seats state)
    {event : FleetEvent}
    (valid : event.Valid) :
    ∃ next,
      fleetStep uninitialised host state event = some next ∧
        Attended host
          (seats.mapIdx fun index seat =>
            event.event.act wishes index seat)
          next := by
  obtain ⟨session, port⟩ := state
  obtain ⟨ready, connected, served⟩ := attended
  cases event with
  | issued command =>
      obtain ⟨next, after, issued, stillReady, sameDevice, sent⟩ :=
        issueFleet_of_ready (tracedBus uninitialised) host ready connected
          valid
      refine
        ⟨(next, after), issued, stillReady, sameDevice.trans connected, ?_⟩
      dsimp only
      rw [sent]
      exact served_sends served valid
  | powerCycle which leftover =>
      refine
        ⟨_, rfl, ⟨⟨ready.idle.1, ready.idle.2⟩, ready.ids⟩, connected, ?_⟩
      refine forall₂_serves served fun index seat slave serves => ?_
      rw [FleetEvent.event, KeyedCells.Event.act]
      split
      · exact serves.restart (leftover index)
      · exact serves

/--
Every command of every run is acknowledged, and at the end each slave has the
address and the limited speeds of the user's motor at its place.
-/
theorem fleet_followed
    {seats : List Seat}
    {state :
      Client.Session × Port Client.signature (Station (List Traced))}
    (attended : Attended host seats state)
    {events : List FleetEvent}
    (valid : ∀ event ∈ events, event.Valid) :
    ∃ last,
      fleetRun uninitialised host state events = some last ∧
        Attended host
          (KeyedCells.after wishes seats (events.map FleetEvent.event))
          last := by
  induction events generalizing seats state with
  | nil => exact ⟨state, rfl, attended⟩
  | cons event later inductionHypothesis =>
      obtain ⟨first, rest⟩ := List.forall_mem_cons.mp valid
      obtain ⟨next, step, stillAttended⟩ :=
        @Attended.step uninitialised host seats state attended event first
      obtain ⟨last, run, reached⟩ :=
        inductionHypothesis stillAttended rest
      refine ⟨last, ?_, reached⟩
      rw [fleetRun, List.foldlM_cons, step]
      exact run

/-- The addresses of the slaves on the bus. -/
def addresses
    (state :
      Client.Session ×
        Port Client.signature (Station (List Traced))) : List UInt8 :=
  state.2.env.port.env.map Traced.address

/-- They are those of the user's motors. -/
theorem Attended.addresses_eq
    {seats : List Seat}
    {state :
      Client.Session × Port Client.signature (Station (List Traced))}
    (attended : Attended host seats state) :
    addresses state = seats.map KeyedCells.Cell.key := by
  have served := attended.served
  rw [addresses]
  clear attended
  generalize state.2.env.port.env = slaves at served
  induction served with
  | nil => rfl
  | cons serves _ inductionHypothesis =>
      rw [List.map_cons, List.map_cons, inductionHypothesis,
        serves.seated.address]

/--
At the end of a run the slaves have different addresses exactly when they had
some at its beginning, and no slave that was there has been given the address of
another one.
-/
theorem addresses_distinct_iff
    {seats : List Seat}
    {state :
      Client.Session × Port Client.signature (Station (List Traced))}
    (attended : Attended host seats state)
    {events : List FleetEvent}
    (valid : ∀ event ∈ events, event.Valid) :
    ∃ last,
      fleetRun uninitialised host state events = some last ∧
        ((addresses last).Nodup ↔
          (addresses state).Nodup ∧
            KeyedCells.Free (addresses state)
              (events.map FleetEvent.event)) := by
  obtain ⟨last, run, reached⟩ :=
    @fleet_followed uninitialised host seats state attended events valid
  refine ⟨last, run, ?_⟩
  rw [reached.addresses_eq, attended.addresses_eq]
  exact KeyedCells.nodup_keys_after_iff seats _

/--
Slaves that have the same address keep having the same address, whatever is
issued and whenever the power fails.
-/
theorem addresses_merged
    {seats : List Seat}
    {state :
      Client.Session × Port Client.signature (Station (List Traced))}
    (attended : Attended host seats state)
    {events : List FleetEvent}
    (valid : ∀ event ∈ events, event.Valid)
    {first second : Nat}
    (merged :
      (addresses state)[first]? = (addresses state)[second]?) :
    ∃ last,
      fleetRun uninitialised host state events = some last ∧
        (addresses last)[first]? = (addresses last)[second]? := by
  obtain ⟨last, run, reached⟩ :=
    @fleet_followed uninitialised host seats state attended events valid
  refine ⟨last, run, ?_⟩
  rw [attended.addresses_eq] at merged
  rw [reached.addresses_eq]
  exact KeyedCells.same_key_after merged _

end Running

/-! ## Two slaves -/

/-- The motors of two slaves that have just been set up. -/
def twoSeats : List Seat :=
  [⟨5, Wish.none⟩, ⟨9, Wish.none⟩]

/-- A client that is connected to the master of two slaves. -/
def twoSlavesState :
    Client.Session × Port Client.signature (Station (List Traced)) :=
  (⟨7, 3⟩, freshPort 7 (fun _ => 0) twoSlaves)

theorem twoSlaves_attended :
    Attended slavesHost twoSeats twoSlavesState where
  ready := ⟨⟨rfl, rfl⟩, rfl⟩
  connected := rfl
  served := by
    have stopped : computeLimitedSpeed 0 = 0 := by
      decide
    have five : Seated 5 (bootedSlave 5) :=
      seated_bootedSlave (by decide) (by decide)
    have nine : Seated 9 (bootedSlave 9) :=
      seated_bootedSlave (by decide) (by decide)
    exact
      .cons ⟨five, stopped.symm, stopped.symm⟩
        (.cons ⟨nine, stopped.symm, stopped.symm⟩ .nil)

/-- The slave at 5 becomes that at 9, after which both are the same. -/
def mergingEvents : List FleetEvent :=
  [.issued (.speed (.set 5 100)), .issued (.rename 5 9),
    .powerCycle (fun index => index = 1) (fun _ _ => 0),
    .issued (.speed .apply), .issued (.rename 9 5)]

theorem mergingEvents_valid :
    ∀ event ∈ mergingEvents, event.Valid := by
  simp [mergingEvents, FleetEvent.Valid, FleetCommand.Valid,
    SpeedCommand.Valid]

theorem mergingEvents_followed :
    ∃ last,
      fleetRun (fun _ _ => 0) slavesHost twoSlavesState mergingEvents =
          some last ∧
        Attended slavesHost
          (KeyedCells.after wishes twoSeats
            (mergingEvents.map FleetEvent.event))
          last :=
  fleet_followed twoSlaves_attended mergingEvents_valid

theorem mergingEvents_distinct_iff :
    ∃ last,
      fleetRun (fun _ _ => 0) slavesHost twoSlavesState mergingEvents =
          some last ∧
        ((addresses last).Nodup ↔
          (addresses twoSlavesState).Nodup ∧
            KeyedCells.Free (addresses twoSlavesState)
              (mergingEvents.map FleetEvent.event)) :=
  addresses_distinct_iff twoSlaves_attended mergingEvents_valid

/-- Two slaves with the address that a slave has by default. -/
def twinsState :
    Client.Session × Port Client.signature (Station (List Traced)) :=
  (⟨7, 3⟩, freshPort 7 (fun _ => 0) [bootedSlave 1, bootedSlave 1])

theorem twins_attended :
    Attended slavesHost [⟨1, Wish.none⟩, ⟨1, Wish.none⟩] twinsState where
  ready := ⟨⟨rfl, rfl⟩, rfl⟩
  connected := rfl
  served := by
    have stopped : computeLimitedSpeed 0 = 0 := by
      decide
    have one : Seated 1 (bootedSlave 1) :=
      seated_bootedSlave (by decide) (by decide)
    exact
      .cons ⟨one, stopped.symm, stopped.symm⟩
        (.cons ⟨one, stopped.symm, stopped.symm⟩ .nil)

theorem twins_merged :
    ∃ last,
      fleetRun (fun _ _ => 0) slavesHost twinsState
          [.issued (.rename 1 5), .powerCycle (fun index => index = 0)
            (fun _ _ => 0)] =
          some last ∧
        (addresses last)[0]? = (addresses last)[1]? :=
  addresses_merged twins_attended
    (by simp [FleetEvent.Valid, FleetCommand.Valid]) rfl

end Ammc.Exchange
