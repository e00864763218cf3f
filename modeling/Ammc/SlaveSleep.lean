import Ammc.SlaveSchedule
import Ammc.SleepUtil

namespace Ammc.Slave

open SleepingCore SleepUtil EventRuns Twi DcMotor

/-!
# The slave asleep

The slave's main loop with `sleep_while` in the places where `SlaveLoop` lets it
stand still.  The interrupts of the two-wire interface and of the motor's timer
come between any two instructions of the macro, and before and after it.
-/

/-- The interrupts of a slave. -/
inductive SlaveInterrupt where
  | twi (status : Status) (twdr : UInt8)
  | timer (speed : DcRpm)
  deriving Repr, DecidableEq

/-- The interrupt handlers; the two-wire interface interrupts if `TWIE` is set. -/
def handleInterrupt (kind : SlaveInterrupt) (slave : Controller) : Controller :=
  match kind with
  | .twi status twdr =>
      if slave.driver.twcr.twie then
        { slave with
          driver := ({ slave.driver with twdr := twdr }).isr status }
      else
        slave
  | .timer speed =>
      { slave with
        motor := { slave.motor with speedActual := speed } }

/-- `!twi_isready()` -/
def busy (slave : Controller) : Bool :=
  !slave.driver.isReady

/-- The macro is behind, or there is none at this place. -/
def unhindered (sleeper : Sleeper Controller) : Bool :=
  match sleeper.core.memory.place with
  | .afterRecv _ => true
  | _ => sleeper.point = .left

/-- The next instruction; the code between two macros is one step. -/
def instruction (sleeper : Sleeper Controller) : Sleeper Controller :=
  if sleeper.core.asleep then
    sleeper
  else if unhindered sleeper then
    { sleeper with
      core := sleeper.core.execute mainStep
      point := .save }
  else
    Sleeper.sleepWhile busy sleeper

/-- The slave with its interrupts. -/
def sleepStep
    (sleeper : Sleeper Controller)
    (event : SleepEvent SlaveInterrupt) : Sleeper Controller :=
  Sleeper.step instruction handleInterrupt sleeper event

/-- The slave after `setup`, which has turned interrupts on. -/
def sleeperAfterSetup
    (ownAddressEeprom : UInt8)
    (command : ByteMemory.Memory) : Sleeper Controller :=
  Sleeper.start
    { memory := setup ownAddressEeprom command
      interrupts := true
      shadow := false
      sleepEnable := false
      asleep := false }

/-- A run of the slave from its start. -/
def sleepRun
    (ownAddressEeprom : UInt8)
    (command : ByteMemory.Memory)
    (events : List (SleepEvent SlaveInterrupt)) : Sleeper Controller :=
  events.foldl sleepStep (sleeperAfterSetup ownAddressEeprom command)

/-- A step of the slave whose main loop stands still instead of sleeping. -/
inductive SlaveStep where
  | main
  | interrupt (kind : SlaveInterrupt)
  deriving Repr, DecidableEq

def slaveStep (slave : Controller) : SlaveStep → Controller
  | .main => mainStep slave
  | .interrupt kind => handleInterrupt kind slave

/-- The main loop has something to do. -/
def Proceeds (slave : Controller) : Prop :=
  (∃ commandSize, slave.place = .afterRecv commandSize) ∨
    slave.driver.isReady = true

/-- The main loop makes a step although it has to wait. -/
def Stalls (slave : Controller) (step : SlaveStep) : Prop :=
  step = .main ∧ ¬ Proceeds slave

/-! ## A ready driver is left alone -/

/-- A driver that is ready has no interrupt. -/
def Driver.Silent (driver : Driver) : Prop :=
  driver.isReady = true → driver.twcr.twie = false

namespace Driver.Silent

variable {driver : Driver}

theorem of_notReady (notReady : ¬ driver.isReady = true) : driver.Silent :=
  fun ready => absurd ready notReady

theorem enable (driver : Driver) : driver.enable.Silent :=
  fun _ => rfl

theorem releaseBus (driver : Driver) : driver.releaseBus.Silent :=
  fun _ => rfl

theorem isr
    (notReady : ¬ driver.isReady = true)
    (status : Status) :
    (driver.isr status).Silent := by
  have armed : ∀ other : Driver, other.mode = driver.mode → other.Silent :=
    fun other same => of_notReady fun ready => notReady (by
      rw [isReady, decide_eq_true_eq] at ready ⊢
      rw [← same]
      exact ready)
  cases status with
  | stSlaAck => exact of_notReady fun ready => by cases ready
  | srSlaAck => exact of_notReady fun ready => by cases ready
  | srGcallAck => exact of_notReady fun ready => by cases ready
  | stDataNack => exact enable _
  | srStop => exact enable _
  | srArbLostSlaAck => exact enable _
  | srArbLostGcallAck => exact enable _
  | stArbLostSlaAck => exact enable _
  | stLastData => exact releaseBus _
  | srDataNack => exact releaseBus _
  | srGcallDataNack => exact releaseBus _
  | busError => exact releaseBus _
  | _ => exact armed _ rfl

end Driver.Silent

/-- The main loop leaves a ready driver without interrupts. -/
theorem silent_mainStep
    {slave : Controller}
    (silent : slave.driver.Silent) :
    (mainStep slave).driver.Silent := by
  obtain ⟨driver, motor, ownAddress, ownAddressEeprom, place⟩ := slave
  cases place with
  | beforeRecv =>
      simp only [mainStep]
      split
      · exact .of_notReady fun ready => by cases ready
      · exact silent
  | inRecv =>
      simp only [mainStep]
      split
      · exact silent
      · exact silent
  | beforeSend response =>
      simp only [mainStep]
      split
      · exact .of_notReady fun ready => by cases ready
      · exact silent
  | afterRecv commandSize =>
      change (executeCommand _ _ _).driver.Silent
      simp only [executeCommand, commandRespond]
      repeat' split
      all_goals first | exact silent | exact .enable _

/-- An interrupt leaves a ready driver ready. -/
theorem driver_handleInterrupt
    {slave : Controller}
    (silent : slave.driver.Silent)
    (ready : slave.driver.isReady = true)
    (kind : SlaveInterrupt) :
    (handleInterrupt kind slave).driver = slave.driver := by
  cases kind with
  | twi status twdr =>
      rw [handleInterrupt, if_neg]
      rw [silent ready]
      exact Bool.false_ne_true
  | timer speed => rfl

@[simp] theorem place_handleInterrupt
    (kind : SlaveInterrupt)
    (slave : Controller) :
    (handleInterrupt kind slave).place = slave.place := by
  cases kind with
  | twi status twdr =>
      rw [handleInterrupt]
      split
      · rfl
      · rfl
  | timer speed => rfl

theorem silent_handleInterrupt
    {slave : Controller}
    (silent : slave.driver.Silent)
    (kind : SlaveInterrupt) :
    (handleInterrupt kind slave).driver.Silent := by
  cases kind with
  | twi status twdr =>
      rw [handleInterrupt]
      split
      · rename_i enabled
        refine .isr (fun ready => ?_) status
        have off : slave.driver.twcr.twie = false := silent ready
        rw [off] at enabled
        cases enabled
      · exact silent
  | timer speed => exact silent

/-! ## The invariant -/

/-- The core agrees with its place, and behind the macro the driver is ready. -/
structure Rested (sleeper : Sleeper Controller) : Prop where
  consistent : sleeper.Consistent true busy
  silent : sleeper.core.memory.driver.Silent
  ready :
    sleeper.point = .left →
      sleeper.core.memory.driver.isReady = true
  waiting :
    sleeper.point ≠ .save →
      ∀ commandSize, sleeper.core.memory.place ≠ .afterRecv commandSize

namespace Rested

variable {sleeper : Sleeper Controller}

theorem interrupt
    (rested : Rested sleeper)
    (kind : SlaveInterrupt) :
    Rested (sleeper.interrupt (handleInterrupt kind)) := by
  refine ⟨rested.consistent.interrupt _, ?_, ?_, ?_⟩
  · exact
      @Core.memory_interrupt Controller (fun slave => slave.driver.Silent)
        (handleInterrupt kind)
        (fun _ silent => silent_handleInterrupt silent kind)
        sleeper.core rested.silent
  · intro place
    have ready := rested.ready place
    change (sleeper.core.interrupt _).memory.driver.isReady = true
    rw [Core.interrupt]
    split
    · change (handleInterrupt kind _).driver.isReady = true
      rw [driver_handleInterrupt rested.silent ready kind]
      exact ready
    · exact ready
  · intro begun commandSize
    exact
      @Core.memory_interrupt Controller
        (fun slave => slave.place ≠ .afterRecv commandSize)
        (handleInterrupt kind)
        (fun slave elsewhere => by
          rw [place_handleInterrupt]
          exact elsewhere)
        sleeper.core (rested.waiting begun commandSize)

/-- The code behind a macro, or the execution of a command. -/
theorem proceeds
    (rested : Rested sleeper)
    (free : unhindered sleeper = true) :
    Proceeds sleeper.core.memory := by
  rw [unhindered] at free
  split at free
  · rename_i commandSize place
    exact Or.inl ⟨commandSize, place⟩
  · exact Or.inr (rested.ready (of_decide_eq_true free))

/-- An instruction of the macro does not touch the slave. -/
theorem memory_sleepWhile (sleeper : Sleeper Controller) :
    (Sleeper.sleepWhile busy sleeper).core.memory =
      sleeper.core.memory := by
  obtain ⟨core, point, sregBak⟩ := sleeper
  rw [Sleeper.sleepWhile, Sleeper.advance]
  split
  · rfl
  · cases point with
    | _ => rfl

theorem sleepWhile
    (rested : Rested sleeper)
    (hindered : ¬ unhindered sleeper = true) :
    Rested (Sleeper.sleepWhile busy sleeper) := by
  have same := memory_sleepWhile sleeper
  refine ⟨?_, ?_, ?_, ?_⟩
  · exact
      @Sleeper.consistent_step Controller Unit true busy sleeper
        (fun _ => id) rested.consistent .advance
  · rw [same]
    exact rested.silent
  · rw [same]
    obtain ⟨core, point, sregBak⟩ := sleeper
    rw [Sleeper.sleepWhile, Sleeper.advance]
    split
    · exact rested.ready
    · cases point with
      | restore =>
          intro _
          have condition : busy core.memory = false :=
            (rested.consistent.2 rfl).2
          rw [busy, Bool.not_eq_false'] at condition
          exact condition
      | left => exact rested.ready
      | test =>
          intro impossible
          simp only [Sleeper.instruction] at impossible
          split at impossible
          · cases impossible
          · cases impossible
      | _ =>
          intro impossible
          cases impossible
  · intro _ commandSize place
    rw [same] at place
    exact hindered (by rw [unhindered, place])

/-- The slave goes on from where it is awake. -/
theorem execute
    (rested : Rested sleeper)
    (awake : sleeper.core.asleep = false) :
    Rested
      { sleeper with
        core := sleeper.core.execute mainStep
        point := .save } := by
  refine
    ⟨awake, silent_mainStep rested.silent, fun impossible => ?_,
      fun begun => absurd rfl begun⟩
  cases impossible

theorem instruction (rested : Rested sleeper) :
    Rested (instruction sleeper) := by
  rw [Slave.instruction]
  split
  · exact rested
  · rename_i awake
    split
    · exact rested.execute (Bool.not_eq_true _ ▸ awake)
    · rename_i hindered
      exact rested.sleepWhile hindered

theorem step
    (rested : Rested sleeper)
    (event : SleepEvent SlaveInterrupt) :
    Rested (sleepStep sleeper event) := by
  cases event with
  | advance => exact rested.instruction
  | interrupt kind => exact rested.interrupt kind

end Rested

theorem rested_afterSetup
    (ownAddressEeprom : UInt8)
    (command : ByteMemory.Memory) :
    Rested (sleeperAfterSetup ownAddressEeprom command) := by
  refine
    ⟨rfl, .enable _, fun impossible => ?_, fun begun => absurd rfl begun⟩
  cases impossible

/-! ## The slave that stands still -/

/-- What a step of the sleeping slave does, seen from the one that stands still. -/
theorem sleepStep_cases
    {sleeper : Sleeper Controller}
    (rested : Rested sleeper)
    (event : SleepEvent SlaveInterrupt) :
    (sleepStep sleeper event).core.memory = sleeper.core.memory ∨
      ∃ step,
        ¬ Stalls sleeper.core.memory step ∧
          (sleepStep sleeper event).core.memory =
            slaveStep sleeper.core.memory step := by
  cases event with
  | advance =>
      have same : sleepStep sleeper .advance = Slave.instruction sleeper :=
        rfl
      rw [same, Slave.instruction]
      split
      · exact Or.inl rfl
      · split
        · rename_i free
          exact
            Or.inr
              ⟨.main, fun stalls => stalls.2 (rested.proceeds free), rfl⟩
        · exact Or.inl (Rested.memory_sleepWhile sleeper)
  | interrupt kind =>
      have same :
          (sleepStep sleeper (.interrupt kind)).core =
            sleeper.core.interrupt (handleInterrupt kind) :=
        rfl
      rw [same, Core.interrupt]
      split
      · refine Or.inr ⟨.interrupt kind, fun stalls => ?_, rfl⟩
        cases stalls.1
      · exact Or.inl rfl

/-- Every run of the sleeping slave is one of the slave that stands still. -/
theorem stands_of_sleeps
    {sleeper : Sleeper Controller}
    (rested : Rested sleeper)
    (events : List (SleepEvent SlaveInterrupt)) :
    ∃ steps,
      Never slaveStep Stalls sleeper.core.memory steps ∧
        (events.foldl sleepStep sleeper).core.memory =
          steps.foldl slaveStep sleeper.core.memory := by
  induction events generalizing sleeper with
  | nil => exact ⟨[], trivial, rfl⟩
  | cons event later inductionHypothesis =>
      obtain ⟨steps, never, same⟩ :=
        inductionHypothesis (rested.step event)
      rcases sleepStep_cases rested event with
        unchanged | ⟨step, works, moved⟩
      · rw [unchanged] at never same
        exact ⟨steps, never, same⟩
      · rw [moved] at never same
        exact ⟨step :: steps, ⟨works, never⟩, same⟩

theorem rested_run
    {sleeper : Sleeper Controller}
    (rested : Rested sleeper)
    (events : List (SleepEvent SlaveInterrupt)) :
    Rested (events.foldl sleepStep sleeper) := by
  induction events generalizing sleeper with
  | nil => exact rested
  | cons event later inductionHypothesis =>
      exact inductionHypothesis (rested.step event)

/-- The slave sleeps only while it has to wait, and any interrupt wakes it. -/
def Attentive (sleeper : Sleeper Controller) : Prop :=
  sleeper.core.asleep = true →
    ¬ Proceeds sleeper.core.memory ∧ sleeper.core.Interruptible

theorem Rested.attentive
    {sleeper : Sleeper Controller}
    (rested : Rested sleeper) :
    Attentive sleeper := by
  intro asleep
  obtain ⟨condition, interruptible⟩ := rested.consistent.wakeful asleep
  rw [busy, Bool.not_eq_true'] at condition
  refine ⟨?_, interruptible⟩
  have begun : sleeper.point ≠ .save := by
    intro place
    have consistent := rested.consistent
    rw [Sleeper.Consistent, place] at consistent
    cases asleep.symm.trans consistent
  rintro (⟨commandSize, place⟩ | ready)
  · exact rested.waiting begun commandSize place
  · rw [condition] at ready
    cases ready

/--
Wherever its interrupts come, the slave that sleeps behaves as the one that stands
still while its driver is busy: what it does is a run of that one, in which no
step of the main loop comes too early, and it never sleeps when it has something
to do or when an interrupt would not wake it.
-/
theorem sleeping_refines
    (ownAddressEeprom : UInt8)
    (command : ByteMemory.Memory)
    (events : List (SleepEvent SlaveInterrupt)) :
    Attentive (sleepRun ownAddressEeprom command events) ∧
      ∃ steps,
        Never slaveStep Stalls (setup ownAddressEeprom command) steps ∧
          (sleepRun ownAddressEeprom command events).core.memory =
            steps.foldl slaveStep (setup ownAddressEeprom command) :=
  have rested := rested_afterSetup ownAddressEeprom command
  ⟨(rested_run rested events).attentive, stands_of_sleeps rested events⟩

/-! ## The main loop goes on -/

theorem Proceeds.handleInterrupt
    {slave : Controller}
    (silent : slave.driver.Silent)
    (proceeds : Proceeds slave)
    (kind : SlaveInterrupt) :
    Proceeds (handleInterrupt kind slave) := by
  rcases proceeds with ⟨commandSize, place⟩ | ready
  · exact Or.inl ⟨commandSize, (place_handleInterrupt kind slave).trans place⟩
  · right
    rw [driver_handleInterrupt silent ready kind]
    exact ready

namespace Rested

variable {sleeper : Sleeper Controller}

theorem ahead_le
    (rested : Rested sleeper)
    (proceeds : Proceeds sleeper.core.memory) :
    Sleeper.ahead sleeper.point ≤ 4 := by
  rcases proceeds with ⟨commandSize, place⟩ | ready
  · have unbegun : sleeper.point = .save := by
      by_contra begun
      exact rested.waiting begun commandSize place
    rw [unbegun]
    exact Nat.le_refl 4
  · refine Sleeper.ahead_le rested.consistent ?_
    rw [busy, ready]
    rfl

/-- An instruction takes the main loop on, or comes closer to that. -/
theorem advance_cases
    (rested : Rested sleeper)
    (proceeds : Proceeds sleeper.core.memory) :
    (Slave.instruction sleeper).core.memory =
        mainStep sleeper.core.memory ∨
      (Slave.instruction sleeper).core.memory = sleeper.core.memory ∧
        Sleeper.ahead (Slave.instruction sleeper).point + 1 =
          Sleeper.ahead sleeper.point := by
  have awake : ¬ sleeper.core.asleep = true := fun asleep =>
    (rested.attentive asleep).1 proceeds
  rw [Slave.instruction, if_neg awake]
  split
  · exact Or.inl rfl
  · rename_i hindered
    right
    have ready : sleeper.core.memory.driver.isReady = true := by
      rcases proceeds with ⟨commandSize, place⟩ | ready
      · exact absurd (by rw [unhindered, place]) hindered
      · exact ready
    have inside : sleeper.point ≠ .left := by
      intro place
      refine hindered ?_
      rw [unhindered]
      split
      · rfl
      · exact decide_eq_true place
    have condition : busy sleeper.core.memory = false := by
      rw [busy, ready]
      rfl
    obtain ⟨closer, same⟩ :=
      Sleeper.ahead_sleepWhile rested.consistent condition
    have positive : Sleeper.ahead sleeper.point ≠ 0 := fun none =>
      inside (Sleeper.left_of_ahead none)
    refine ⟨same, ?_⟩
    rw [closer]
    omega

/-- The main loop makes its step before the instructions run out. -/
theorem proceeds_within
    (rested : Rested sleeper)
    (proceeds : Proceeds sleeper.core.memory)
    {later : List (SleepEvent SlaveInterrupt)}
    (enough :
      Sleeper.ahead sleeper.point + 1 ≤ Sleeper.advances later) :
    ∃ first rest,
      later = first ++ .advance :: rest ∧
        (first.foldl sleepStep sleeper).core.memory.place =
          sleeper.core.memory.place ∧
        Proceeds (first.foldl sleepStep sleeper).core.memory ∧
        (sleepStep (first.foldl sleepStep sleeper)
            .advance).core.memory =
          mainStep (first.foldl sleepStep sleeper).core.memory := by
  induction later generalizing sleeper with
  | nil => exact absurd enough (Nat.not_succ_le_zero _)
  | cons event later inductionHypothesis =>
      have next := rested.step event
      cases event with
      | advance =>
          rcases rested.advance_cases proceeds with moved | ⟨same, closer⟩
          · exact ⟨[], later, rfl, rfl, proceeds, moved⟩
          · have proceedsNext :
                Proceeds (sleepStep sleeper .advance).core.memory :=
              same.symm ▸ proceeds
            have enoughLater :
                Sleeper.ahead (sleepStep sleeper .advance).point + 1 ≤
                  Sleeper.advances later := by
              change Sleeper.ahead (Slave.instruction sleeper).point + 1 ≤ _
              rw [closer]
              exact Nat.le_of_succ_le_succ enough
            obtain ⟨first, rest, split, place, goesOn, moved⟩ :=
              inductionHypothesis next proceedsNext enoughLater
            refine
              ⟨.advance :: first, rest, by rw [split]; rfl, ?_, goesOn,
                moved⟩
            refine place.trans ?_
            exact congrArg Controller.place same
      | interrupt kind =>
          have proceedsNext :
              Proceeds (sleepStep sleeper (.interrupt kind)).core.memory := by
            change Proceeds (sleeper.core.interrupt _).memory
            rw [Core.interrupt]
            split
            · exact proceeds.handleInterrupt rested.silent kind
            · exact proceeds
          have same :
              (sleepStep sleeper (.interrupt kind)).core.memory.place =
                sleeper.core.memory.place :=
            @Core.memory_interrupt Controller
              (fun slave => slave.place = sleeper.core.memory.place)
              (Slave.handleInterrupt kind)
              (fun slave before =>
                (place_handleInterrupt kind slave).trans before)
              sleeper.core rfl
          obtain ⟨first, rest, split, place, goesOn, moved⟩ :=
            inductionHypothesis next proceedsNext enough
          exact
            ⟨.interrupt kind :: first, rest, by rw [split]; rfl,
              place.trans same, goesOn, moved⟩

end Rested

/--
Whenever the main loop has something to do, it does it within five instructions of
the slave, from the same place and whatever interrupts come between.
-/
theorem sleeping_proceeds
    (ownAddressEeprom : UInt8)
    (command : ByteMemory.Memory)
    {events later : List (SleepEvent SlaveInterrupt)}
    (proceeds :
      Proceeds (sleepRun ownAddressEeprom command events).core.memory)
    (enough : 5 ≤ Sleeper.advances later) :
    ∃ first rest,
      later = first ++ SleepEvent.advance :: rest ∧
        (sleepRun ownAddressEeprom command
            (events ++ first)).core.memory.place =
          (sleepRun ownAddressEeprom command events).core.memory.place ∧
        (sleepRun ownAddressEeprom command
            (events ++ first ++ [SleepEvent.advance])).core.memory =
          mainStep
            (sleepRun ownAddressEeprom command
              (events ++ first)).core.memory := by
  have rested :=
    rested_run (rested_afterSetup ownAddressEeprom command) events
  have most := rested.ahead_le proceeds
  obtain ⟨first, rest, split, place, _, moved⟩ :=
    rested.proceeds_within proceeds
      (Nat.le_trans (Nat.succ_le_succ most) enough)
  refine ⟨first, rest, split, ?_, ?_⟩
  · rw [sleepRun, List.foldl_append]
    exact place
  · rw [sleepRun, sleepRun, List.foldl_append, List.foldl_append]
    exact moved

/-- A slave that has started and is not disturbed. -/
theorem freshSlave_proceeds :
    ∃ first rest,
      List.replicate 5 SleepEvent.advance =
          first ++ SleepEvent.advance :: rest ∧
        (sleepRun 1 (fun _ => 0) ([] ++ first)).core.memory.place =
          (sleepRun 1 (fun _ => 0) []).core.memory.place ∧
        (sleepRun 1 (fun _ => 0)
            ([] ++ first ++ [SleepEvent.advance])).core.memory =
          mainStep
            (sleepRun 1 (fun _ => 0) ([] ++ first)).core.memory :=
  sleeping_proceeds 1 (fun _ => 0) (Or.inr rfl) (Nat.le_refl 5)

end Ammc.Slave
