import Ammc.SlaveBounds
import Ammc.SlaveCalls

namespace Ammc.Slave

open ByteMemory Twi DcMotor

/-!
# Command frames at a slave

The main loop receives every command into the same object, which keeps bytes of
earlier commands, and judges a command by its first byte and its length.  Since
every length that is accepted covers all bytes that are looked at, a command
does what its own bytes say and nothing else.

The three copies of the slave's address change together.
-/

/-- What a master may ask a slave to do. -/
inductive Command where
  | getSpeed
  | setSpeed (speed : DcRpm)
  | applySpeed
  | ping (argument : UInt8)
  | setAddr (newAddr : UInt8)
  deriving Repr, DecidableEq

namespace Command

/-- The frame of exactly the right shape. -/
def frame : Command → List UInt8
  | .getSpeed => [Master.CommandId.getSpeed.code]
  | .setSpeed speed => Master.CommandId.setSpeed.code :: rpmBytes speed
  | .applySpeed => [Master.CommandId.applySpeed.code]
  | .ping argument => [Master.CommandId.ping.code, argument]
  | .setAddr newAddr => [Master.CommandId.setAddr.code, newAddr]

/-- Only the addresses from 1 to 126 may be given to a slave. -/
def Admissible : Command → Prop
  | .setAddr newAddr => 1 ≤ newAddr ∧ newAddr ≤ 126
  | _ => True

/-- The motor call that a command leads to. -/
def call : Command → Option MotorCall
  | .setSpeed speed => some (.set speed)
  | .applySpeed => some .apply
  | _ => none

/-- The slave does what it is asked for, up to the sleep before a reply. -/
def carryOut
    (command : Command)
    (slave : Controller) : Controller :=
  match command with
  | .getSpeed =>
      { slave with place := .beforeSend (rpmBytes slave.motor.speedActual) }
  | .setSpeed speed =>
      { slave with
        place := .beforeRecv
        motor := dcmotorSet speed slave.motor }
  | .applySpeed =>
      { slave with
        place := .beforeRecv
        motor := dcmotorApply slave.motor }
  | .ping argument => { slave with place := .beforeSend [argument] }
  | .setAddr newAddr =>
      changeTwiAddressTo newAddr { slave with place := .beforeRecv }

/-- The object begins with a command, and the size is that of its frame. -/
inductive Holds (cmd : Memory) : UInt8 → Command → Prop where
  | getSpeed
      (identified : cmd 0 = Master.CommandId.getSpeed.code) :
      Holds cmd 1 .getSpeed
  | setSpeed
      {speed : DcRpm}
      (identified : cmd 0 = Master.CommandId.setSpeed.code)
      (carried : rpmOfBytes (cmd 1) (cmd 2) = speed) :
      Holds cmd 3 (.setSpeed speed)
  | applySpeed
      (identified : cmd 0 = Master.CommandId.applySpeed.code) :
      Holds cmd 1 .applySpeed
  | ping
      {argument : UInt8}
      (identified : cmd 0 = Master.CommandId.ping.code)
      (carried : cmd 1 = argument) :
      Holds cmd 2 (.ping argument)
  | setAddr
      {newAddr : UInt8}
      (identified : cmd 0 = Master.CommandId.setAddr.code)
      (carried : cmd 1 = newAddr) :
      Holds cmd 2 (.setAddr newAddr)

theorem holds_of_stored
    {command : Command}
    {cmd : Memory}
    {cmdSize : UInt8}
    (size : cmdSize.toNat = command.frame.length)
    (stored : cmd.bytes 0 cmdSize.toNat = command.frame) :
    Holds cmd cmdSize command := by
  have sizeByte : cmdSize = UInt8.ofNat command.frame.length := by
    rw [← size, UInt8.ofNat_toNat]
  rw [size] at stored
  rw [sizeByte]
  cases command with
  | getSpeed => exact .getSpeed (List.cons.inj stored).1
  | setSpeed speed =>
      obtain ⟨identified, body⟩ := List.cons.inj stored
      have low : cmd 1 = (rpmBytes speed)[0] :=
        (List.cons.inj body).1
      have high : cmd 2 = (rpmBytes speed)[1] :=
        (List.cons.inj (List.cons.inj body).2).1
      refine .setSpeed identified ?_
      rw [low, high]
      exact rpmOfBytes_rpmBytes speed
  | applySpeed => exact .applySpeed (List.cons.inj stored).1
  | ping argument =>
      obtain ⟨identified, body⟩ := List.cons.inj stored
      exact .ping identified (List.cons.inj body).1
  | setAddr newAddr =>
      obtain ⟨identified, body⟩ := List.cons.inj stored
      exact .setAddr identified (List.cons.inj body).1

namespace Holds

variable {command : Command} {cmd : Memory} {cmdSize : UInt8}

theorem valid
    (holds : Holds cmd cmdSize command)
    (admissible : command.Admissible) :
    commandIsvalid cmd cmdSize = true := by
  rw [commandIsvalid]
  dsimp only
  cases holds with
  | getSpeed identified =>
      rw [identified, if_pos (Or.inl rfl)]
      rfl
  | setSpeed identified _ =>
      rw [identified, if_neg (by decide), if_pos rfl]
      rfl
  | applySpeed identified =>
      rw [identified, if_pos (Or.inr rfl)]
      rfl
  | ping identified _ =>
      rw [identified, if_neg (by decide), if_neg (by decide), if_pos rfl]
      rfl
  | setAddr identified carried =>
      obtain ⟨positive, low⟩ := admissible
      rw [← carried] at positive low
      have nonzero : cmd 1 ≠ 0 := by
        intro zero
        rw [zero] at positive
        exact absurd positive (by decide)
      have small : cmd 1 < 127 :=
        UInt8.lt_iff_toNat_lt.mpr
          (Nat.lt_succ_of_le (UInt8.le_iff_toNat_le.mp low))
      rw [identified, if_neg (by decide), if_neg (by decide),
        if_neg (by decide), if_pos rfl, decide_eq_true nonzero,
        decide_eq_true small]
      rfl

theorem executeCommand_eq
    (holds : Holds cmd cmdSize command)
    (valid : commandIsvalid cmd cmdSize = true)
    (slave : Controller) :
    executeCommand cmd cmdSize slave = command.carryOut slave := by
  rw [executeCommand]
  dsimp only
  rw [if_neg (not_not.mpr valid)]
  cases holds with
  | getSpeed identified =>
      rw [identified, if_pos rfl]
      rfl
  | setSpeed identified carried =>
      rw [identified, if_neg (by decide), if_pos rfl,
        Memory.shift_apply, Memory.shift_apply, carried]
      rfl
  | applySpeed identified =>
      rw [identified, if_neg (by decide), if_neg (by decide), if_pos rfl]
      rfl
  | ping identified carried =>
      have single : ((2 : UInt8) - 1).toNat = 1 := by
        decide
      have argument : (cmd.shift 1).bytes 0 1 = [cmd 1] :=
        rfl
      rw [identified, if_neg (by decide), if_neg (by decide),
        if_neg (by decide), if_pos rfl, single, argument, carried]
      rfl
  | setAddr identified carried =>
      rw [identified, if_neg (by decide), if_neg (by decide),
        if_neg (by decide), if_neg (by decide), if_pos rfl,
        Memory.shift_apply, carried]
      rfl

theorem callOfCommand_eq
    (holds : Holds cmd cmdSize command)
    (valid : commandIsvalid cmd cmdSize = true) :
    callOfCommand cmd cmdSize = command.call := by
  rw [callOfCommand, if_neg (not_not.mpr valid)]
  cases holds with
  | setSpeed identified carried =>
      rw [identified, if_pos rfl, carried]
      rfl
  | applySpeed identified =>
      rw [identified, if_neg (by decide), if_pos rfl]
      rfl
  | getSpeed identified | ping identified _ | setAddr identified _ =>
      rw [identified, if_neg (by decide), if_neg (by decide)]
      rfl

end Holds

/-- A frame of the right shape is carried out. -/
theorem executeCommand_eq
    {command : Command}
    (admissible : command.Admissible)
    {cmd : Memory}
    {cmdSize : UInt8}
    (size : cmdSize.toNat = command.frame.length)
    (stored : cmd.bytes 0 cmdSize.toNat = command.frame)
    (slave : Controller) :
    executeCommand cmd cmdSize slave = command.carryOut slave ∧
      callOfCommand cmd cmdSize = command.call := by
  have holds := holds_of_stored size stored
  have valid := holds.valid admissible
  exact ⟨holds.executeCommand_eq valid slave, holds.callOfCommand_eq valid⟩

/-- Only frames of the right shape are valid, whatever the object keeps. -/
theorem of_valid
    {cmd : Memory}
    {cmdSize : UInt8}
    (valid : commandIsvalid cmd cmdSize = true) :
    ∃ command : Command,
      command.Admissible ∧ cmd.bytes 0 cmdSize.toNat = command.frame := by
  have one : ∀ size : UInt8, size = 1 → cmd.bytes 0 size.toNat = [cmd 0] := by
    rintro size rfl
    rfl
  have two :
      ∀ size : UInt8, size = 2 →
        cmd.bytes 0 size.toNat = [cmd 0, cmd 1] := by
    rintro size rfl
    rfl
  have three :
      ∀ size : UInt8, size = 3 →
        cmd.bytes 0 size.toNat = [cmd 0, cmd 1, cmd 2] := by
    rintro size rfl
    rfl
  simp only [commandIsvalid] at valid
  split at valid
  · rename_i identified
    rw [one cmdSize (of_decide_eq_true valid)]
    rcases identified with getSpeed | applySpeed
    · exact ⟨.getSpeed, trivial, by rw [getSpeed]; rfl⟩
    · exact ⟨.applySpeed, trivial, by rw [applySpeed]; rfl⟩
  split at valid
  · rename_i setSpeed
    rw [three cmdSize (of_decide_eq_true valid)]
    refine ⟨.setSpeed (rpmOfBytes (cmd 1) (cmd 2)), trivial, ?_⟩
    rw [frame, rpmBytes_rpmOfBytes, setSpeed]
  split at valid
  · rename_i ping
    rw [two cmdSize (of_decide_eq_true valid)]
    exact ⟨.ping (cmd 1), trivial, by rw [ping]; rfl⟩
  split at valid
  · rename_i setAddr
    simp only [Bool.and_eq_true, decide_eq_true_eq] at valid
    obtain ⟨⟨size, nonzero⟩, small⟩ := valid
    rw [two cmdSize size]
    refine ⟨.setAddr (cmd 1), ⟨?_, ?_⟩, by rw [setAddr]; rfl⟩
    · have positive : (cmd 1).toNat ≠ 0 := fun zero =>
        nonzero (UInt8.toNat_inj.mp zero)
      exact UInt8.le_iff_toNat_le.mpr (Nat.pos_of_ne_zero positive)
    · exact
        UInt8.le_iff_toNat_le.mpr
          (Nat.le_of_lt_succ (UInt8.lt_iff_toNat_lt.mp small))
  · cases valid

/-- A frame of another shape changes nothing. -/
theorem executeCommand_other
    {cmd : Memory}
    {cmdSize : UInt8}
    (other :
      ∀ command : Command, command.Admissible →
        cmd.bytes 0 cmdSize.toNat ≠ command.frame)
    (slave : Controller) :
    executeCommand cmd cmdSize slave = { slave with place := .beforeRecv } ∧
      callOfCommand cmd cmdSize = none := by
  have invalid : ¬ commandIsvalid cmd cmdSize = true := by
    intro valid
    obtain ⟨command, admissible, same⟩ := of_valid valid
    exact other command admissible same
  exact ⟨if_pos invalid, if_pos invalid⟩

end Command

/-! ## What a frame may do -/

/-- The three copies of a slave's address. -/
def Controller.copies (slave : Controller) : UInt8 × UInt8 × UInt8 :=
  (slave.driver.twar, slave.ownAddress, slave.ownAddressEeprom)

/-- What the main loop may make of a frame, and which calls it may make. -/
structure FrameLaw
    (frame : List UInt8)
    (calls : List MotorCall)
    (before after : Controller) : Prop where
  sets :
    ∀ speed, .set speed ∈ calls → frame = (Command.setSpeed speed).frame
  applies : .apply ∈ calls → frame = Command.applySpeed.frame
  renames :
    after.copies ≠ before.copies →
      1 ≤ after.ownAddress ∧ after.ownAddress ≤ 126 ∧
        frame = (Command.setAddr after.ownAddress).frame
  replies :
    ∀ response, after.place = .beforeSend response →
      (frame = Command.getSpeed.frame ∧
          response = rpmBytes before.motor.speedActual) ∨
        ∃ argument,
          frame = (Command.ping argument).frame ∧ response = [argument]
  carriedOut :
    ∀ command : Command, command.Admissible → frame = command.frame →
      after = command.carryOut before ∧ calls = command.call.toList
  others :
    (∀ command : Command, command.Admissible → frame ≠ command.frame) →
      after = { before with place := .beforeRecv } ∧ calls = []

namespace Command

/-- Frames of different requests differ. -/
theorem frame_injective
    {first second : Command}
    (same : first.frame = second.frame) :
    first = second := by
  cases first with
  | setSpeed speed =>
      cases second with
      | setSpeed other =>
          simp only [frame, rpmBytes, List.cons.injEq, and_true] at same
          obtain ⟨_, low, high⟩ := same
          rw [← rpmOfBytes_rpmBytes speed, low, high,
            rpmOfBytes_rpmBytes]
      | _ => simp [frame, rpmBytes, Master.CommandId.code] at same
  | _ =>
      cases second <;>
        simp_all [frame, rpmBytes, Master.CommandId.code]

/-- Carrying out a command is all that its frame does. -/
theorem lawful
    {command : Command}
    (admissible : command.Admissible)
    (before : Controller) :
    FrameLaw command.frame command.call.toList before
      (command.carryOut before) where
  sets speed called := by
    cases command with
    | setSpeed other =>
        cases List.mem_singleton.mp called
        rfl
    | applySpeed => cases List.mem_singleton.mp called
    | _ => cases called
  applies called := by
    cases command with
    | setSpeed other => cases List.mem_singleton.mp called
    | applySpeed => rfl
    | _ => cases called
  renames changed := by
    cases command with
    | setAddr newAddr => exact ⟨admissible.1, admissible.2, rfl⟩
    | _ => exact absurd rfl changed
  replies response place := by
    cases command with
    | getSpeed =>
        cases place
        exact Or.inl ⟨rfl, rfl⟩
    | ping argument =>
        cases place
        exact Or.inr ⟨argument, rfl, rfl⟩
    | _ => cases place
  carriedOut other _ same := by
    cases frame_injective same
    exact ⟨rfl, rfl⟩
  others different := absurd rfl (different command admissible)

/-- A frame of another shape does nothing. -/
theorem others_lawful
    {frame : List UInt8}
    (other :
      ∀ command : Command, command.Admissible → frame ≠ command.frame)
    (before : Controller) :
    FrameLaw frame [] before { before with place := .beforeRecv } where
  sets := by
    rintro speed ⟨⟩
  applies := by
    rintro ⟨⟩
  renames changed := absurd rfl changed
  replies := by
    rintro response ⟨⟩
  carriedOut command admissible same :=
    absurd same (other command admissible)
  others _ := ⟨rfl, rfl⟩

end Command

/-! ## Runs of a slave -/

/-- The three copies of the address agree, and slaves may have it. -/
structure AddressesAgree (slave : Controller) : Prop where
  register : slave.driver.twar = (slave.ownAddress <<< (1 : UInt8)) ||| 1
  eeprom : slave.ownAddressEeprom = slave.ownAddress
  positive : 1 ≤ slave.ownAddress
  low : slave.ownAddress ≤ 126

/-- A slave with the bytes that were written to it since it was armed. -/
structure Logged where
  node : Node
  heard : List UInt8

/-- The byte that the handler stores because of an event. -/
def Node.stored
    (node : Node) : BusEvent → List UInt8
  | .writeByte byte =>
      if node.controller.driver.twcr.twea then [byte] else []
  | _ => []

namespace Logged

/-- The slave that is set up, and was not addressed yet. -/
def booted
    (ownAddressEeprom : UInt8)
    (command : Memory) : Logged where
  node :=
    { controller := setup ownAddressEeprom command
      phase := .released }
  heard := []

/-- An event on the bus. -/
def hear
    (logged : Logged)
    (event : BusEvent) : Logged where
  node := logged.node.next event
  heard := logged.heard ++ logged.node.stored event

/-- The motor module measures a speed. -/
def measure
    (logged : Logged)
    (speed : DcRpm) : Logged where
  node :=
    { logged.node with
      controller :=
        { logged.node.controller with
          motor :=
            { logged.node.controller.motor with speedActual := speed } } }
  heard := logged.heard

/-- A step of the main loop; a new reception begins without any bytes. -/
def loop (logged : Logged) : Logged where
  node := logged.node.mainStep
  heard :=
    if logged.node.controller.place = .beforeRecv then
      []
    else
      logged.heard

/-- What may happen to a slave besides its main loop. -/
inductive Disturbs : Logged → Logged → Prop where
  | event
      {logged : Logged}
      (event : BusEvent)
      (possible : logged.node.Possible event)
      (fits :
        logged.node.controller.place = .inRecv →
          (logged.heard ++ logged.node.stored event).length ≤
            commandMaxSize) :
      Disturbs logged (logged.hear event)
  | measured
      {logged : Logged}
      (speed : DcRpm) :
      Disturbs logged (logged.measure speed)

/--
Every run: the main loop and the bus take their steps in any order, and no frame
is longer than a command.
-/
inductive Reachable (ownAddressEeprom : UInt8) : Logged → Prop where
  | start (command : Memory) :
      Reachable ownAddressEeprom (booted ownAddressEeprom command)
  | disturbed
      {before after : Logged}
      (reached : Reachable ownAddressEeprom before)
      (disturbs : Disturbs before after) :
      Reachable ownAddressEeprom after
  | looped
      {before : Logged}
      (reached : Reachable ownAddressEeprom before) :
      Reachable ownAddressEeprom before.loop

end Logged

/-! ## What an event does to a slave -/

/-- The handler stores a byte in the object of the main loop, or does not. -/
inductive Stores (before after : Driver) : List UInt8 → Prop where
  | nothing
      (buffer : after.rxBuffer = before.rxBuffer)
      (index : after.rxIdx = before.rxIdx) :
      Stores before after []
  | byte
      {byte : UInt8}
      (buffer :
        after.rxBuffer = before.rxBuffer.store before.rxIdx [byte])
      (index : after.rxIdx = sizeSucc before.rxIdx) :
      Stores before after [byte]

/-- A ready driver is not addressed, and one in a transfer stays enabled. -/
structure Guarded (node : Node) : Prop where
  idle :
    node.controller.driver.mode = .ready →
      node.phase = .released ∧ node.controller.driver.twcr.twea = false
  busy :
    node.phase ≠ .released → node.controller.driver.twcr.twea = true

/-- An event changes the driver only, and stores at most one byte. -/
structure Handled
    (before after : Node)
    (stored : List UInt8) : Prop where
  rest :
    after.controller =
      { before.controller with driver := after.controller.driver }
  register : after.controller.driver.twar = before.controller.driver.twar
  stores : Stores before.controller.driver after.controller.driver stored
  guarded : Guarded after
  calm :
    before.controller.driver.mode = .ready →
      after.controller.driver.mode = .ready ∧ stored = []

namespace Guarded

variable {node : Node}

/-- Nothing happens to the slave. -/
theorem unchanged (guarded : Guarded node) : Handled node node [] :=
  ⟨rfl, rfl, .nothing rfl rfl, guarded, fun ready => ⟨ready, rfl⟩⟩

/-- A slave that takes part in a transfer is not ready. -/
theorem not_ready
    (guarded : Guarded node)
    (enabled : node.controller.driver.twcr.twea = true) :
    node.controller.driver.mode ≠ .ready := by
  intro ready
  have disabled := (guarded.idle ready).2
  rw [enabled] at disabled
  cases disabled

theorem addressWrite
    (guarded : Guarded node)
    (addr : UInt8) :
    Handled node (node.addressWrite addr).2 [] := by
  rw [Node.addressWrite]
  split
  · rename_i acks
    have enabled : node.controller.driver.twcr.twea = true := by
      rw [Node.acksWrite, Bool.and_eq_true] at acks
      exact acks.1
    have notReady := guarded.not_ready enabled
    split
    · exact
        ⟨rfl, rfl, .nothing rfl rfl, ⟨by rintro ⟨⟩, fun _ => rfl⟩,
          fun ready => absurd ready notReady⟩
    · exact
        ⟨rfl, rfl, .nothing rfl rfl, ⟨by rintro ⟨⟩, fun _ => rfl⟩,
          fun ready => absurd ready notReady⟩
  · exact guarded.unchanged

theorem addressRead
    (guarded : Guarded node)
    (addr : UInt8) :
    Handled node (node.addressRead addr).2 [] := by
  rw [Node.addressRead]
  split
  · rename_i acks
    have enabled : node.controller.driver.twcr.twea = true := by
      rw [Node.acksRead, Bool.and_eq_true, Bool.and_eq_true] at acks
      exact acks.1.1
    have notReady := guarded.not_ready enabled
    exact
      ⟨rfl, rfl, .nothing rfl rfl, ⟨by rintro ⟨⟩, fun _ => rfl⟩,
        fun ready => absurd ready notReady⟩
  · exact guarded.unchanged

theorem writeByte
    (guarded : Guarded node)
    {general : Bool}
    (receiver : node.phase = .receiver general)
    (byte : UInt8) :
    Handled node (node.writeByte byte).2
      (node.stored (.writeByte byte)) := by
  have enabled : node.controller.driver.twcr.twea = true := by
    apply guarded.busy
    rw [receiver]
    rintro ⟨⟩
  have notReady := guarded.not_ready enabled
  have stored :
      (node.writeByte byte).2 =
        (node.latch byte).interrupt
          (if general then .srGcallDataAck else .srDataAck) := by
    rw [Node.writeByte, receiver]
    simp only [enabled, if_true]
  rw [stored, Node.stored, if_pos enabled]
  cases general with
  | true =>
      exact
        ⟨rfl, rfl, .byte rfl rfl,
          ⟨fun ready => absurd ready notReady, fun _ => rfl⟩,
          fun ready => absurd ready notReady⟩
  | false =>
      exact
        ⟨rfl, rfl, .byte rfl rfl,
          ⟨fun ready => absurd ready notReady, fun _ => rfl⟩,
          fun ready => absurd ready notReady⟩

theorem readByte
    (guarded : Guarded node)
    (transmitter : node.phase = .transmitter)
    (acked : Bool) :
    Handled node (node.readByte acked).2 [] := by
  have enabled : node.controller.driver.twcr.twea = true := by
    apply guarded.busy
    rw [transmitter]
    rintro ⟨⟩
  have notReady := guarded.not_ready enabled
  rw [Node.readByte, transmitter]
  cases acked with
  | true =>
      simp only [enabled, if_true]
      exact
        ⟨rfl, rfl, .nothing rfl rfl,
          ⟨fun ready => absurd ready notReady, fun _ => rfl⟩,
          fun ready => absurd ready notReady⟩
  | false =>
      exact
        ⟨rfl, rfl, .nothing rfl rfl,
          ⟨fun _ => ⟨rfl, rfl⟩, fun busy => absurd rfl busy⟩,
          fun ready => absurd ready notReady⟩

theorem stop
    (guarded : Guarded node)
    (silent : node.phase ≠ .transmitter) :
    Handled node node.stop [] := by
  rw [Node.stop]
  cases phase : node.phase with
  | released =>
      exact
        ⟨rfl, rfl, .nothing rfl rfl,
          ⟨fun ready => ⟨rfl, (guarded.idle ready).2⟩,
            fun busy => absurd rfl busy⟩,
          fun ready => ⟨ready, rfl⟩⟩
  | receiver general =>
      exact
        ⟨rfl, rfl, .nothing rfl rfl,
          ⟨fun _ => ⟨rfl, rfl⟩, fun busy => absurd rfl busy⟩,
          fun _ => ⟨rfl, rfl⟩⟩
  | transmitter => exact absurd phase silent

theorem busError (guarded : Guarded node) :
    Handled node node.busError [] := by
  rw [Node.busError]
  split
  · exact
      ⟨rfl, rfl, .nothing rfl rfl,
        ⟨fun _ => ⟨rfl, rfl⟩, fun busy => absurd rfl busy⟩,
        fun _ => ⟨rfl, rfl⟩⟩
  · exact
      ⟨rfl, rfl, .nothing rfl rfl,
        ⟨fun ready => ⟨rfl, (guarded.idle ready).2⟩,
          fun busy => absurd rfl busy⟩,
        fun ready => ⟨ready, rfl⟩⟩

/-- What any event does. -/
theorem next
    (guarded : Guarded node)
    {event : BusEvent}
    (possible : node.Possible event) :
    Handled node (node.next event) (node.stored event) := by
  cases event with
  | addressWrite addr => exact guarded.addressWrite addr
  | addressRead addr => exact guarded.addressRead addr
  | writeByte byte =>
      rcases possible with receiver | receiver
      · exact guarded.writeByte receiver byte
      · exact guarded.writeByte receiver byte
  | readByte acked => exact guarded.readByte possible acked
  | stop => exact guarded.stop possible
  | busError => exact guarded.busError

end Guarded

/-! ## What holds in every run -/

namespace Logged

/-- The object starts with the bytes that were heard. -/
structure Holds (logged : Logged) : Prop where
  index : logged.node.controller.driver.rxIdx = logged.heard.length
  fits : logged.heard.length ≤ commandMaxSize
  bytes :
    logged.node.controller.driver.rxBuffer.bytes 0 logged.heard.length =
      logged.heard

/-- The invariant of the runs. -/
structure Sound (logged : Logged) : Prop where
  agree : AddressesAgree logged.node.controller
  guarded : Guarded logged.node
  receiving :
    logged.node.controller.place = .inRecv → logged.Holds
  received :
    ∀ size, logged.node.controller.place = .afterRecv size →
      logged.node.controller.driver.mode = .ready ∧
        size = UInt8.ofNat logged.heard.length ∧ logged.Holds

theorem sound_booted
    {ownAddress : UInt8}
    (positive : 1 ≤ ownAddress)
    (low : ownAddress ≤ 126)
    (command : Memory) :
    Sound (booted ownAddress command) where
  agree := ⟨rfl, rfl, positive, low⟩
  guarded := ⟨fun _ => ⟨rfl, rfl⟩, fun busy => absurd rfl busy⟩
  receiving := by
    rintro ⟨⟩
  received := by
    rintro size ⟨⟩

/-- A byte that fits is stored behind the others. -/
theorem Holds.stores
    {logged : Logged}
    (holds : logged.Holds)
    {after : Node}
    {stored : List UInt8}
    (stores :
      Stores logged.node.controller.driver after.controller.driver stored)
    (fits : (logged.heard ++ stored).length ≤ commandMaxSize) :
    Holds ⟨after, logged.heard ++ stored⟩ := by
  cases stores with
  | nothing buffer index =>
      refine ⟨?_, fits, ?_⟩
      · rw [index, holds.index, List.append_nil]
      · rw [buffer, List.append_nil, holds.bytes]
  | @byte byte buffer index =>
      have room : logged.heard.length < commandMaxSize := by
        rw [List.length_append, List.length_singleton] at fits
        exact fits
      have small : logged.heard.length < 2 ^ 16 - 1 :=
        Nat.lt_trans room (by decide)
      refine ⟨?_, fits, ?_⟩
      · rw [index, holds.index, sizeSucc_of_lt small,
          List.length_append, List.length_singleton]
      · have front :
            (logged.node.controller.driver.rxBuffer.store
                logged.heard.length [byte]).bytes 0 logged.heard.length =
              logged.heard := by
          rw [Memory.bytes_store_before _ _
            (Nat.le_of_eq (Nat.zero_add _)), holds.bytes]
        rw [buffer, holds.index, List.length_append, Memory.bytes_add,
          front, Nat.zero_add, Memory.bytes_store_self]

/-- The bus cannot break the invariant. -/
theorem Sound.hear
    {logged : Logged}
    (sound : Sound logged)
    {event : BusEvent}
    (possible : logged.node.Possible event)
    (fits :
      logged.node.controller.place = .inRecv →
        (logged.heard ++ logged.node.stored event).length ≤
          commandMaxSize) :
    Sound (logged.hear event) := by
  have handled := sound.guarded.next possible
  have samePlace :
      (logged.node.next event).controller.place =
        logged.node.controller.place := by
    rw [handled.rest]
  refine ⟨?_, handled.guarded, ?_, ?_⟩
  · have agree := sound.agree
    change AddressesAgree (logged.node.next event).controller
    rw [handled.rest]
    exact
      ⟨handled.register.trans agree.register, agree.eeprom,
        agree.positive, agree.low⟩
  · intro place
    have waiting : logged.node.controller.place = .inRecv :=
      samePlace.symm.trans place
    exact (sound.receiving waiting).stores handled.stores (fits waiting)
  · intro size place
    obtain ⟨ready, sizeByte, holds⟩ :=
      sound.received size (samePlace.symm.trans place)
    obtain ⟨stillReady, nothing⟩ := handled.calm ready
    have sameHeard : (logged.hear event).heard = logged.heard := by
      rw [Logged.hear, nothing, List.append_nil]
    refine ⟨stillReady, ?_, ?_⟩
    · rw [sameHeard]
      exact sizeByte
    · refine holds.stores handled.stores ?_
      rw [nothing, List.append_nil]
      exact holds.fits

/-- Neither can the motor. -/
theorem Sound.measure
    {logged : Logged}
    (sound : Sound logged)
    (speed : DcRpm) :
    Sound (logged.measure speed) where
  agree :=
    ⟨sound.agree.register, sound.agree.eeprom, sound.agree.positive,
      sound.agree.low⟩
  guarded := ⟨sound.guarded.idle, sound.guarded.busy⟩
  receiving place :=
    ⟨(sound.receiving place).index, (sound.receiving place).fits,
      (sound.receiving place).bytes⟩
  received size place := by
    obtain ⟨ready, sizeByte, holds⟩ := sound.received size place
    exact ⟨ready, sizeByte, holds.index, holds.fits, holds.bytes⟩

/-- The frame that the main loop has received is the one that was heard. -/
theorem Sound.frame
    {logged : Logged}
    (sound : Sound logged)
    {size : UInt8}
    (place : logged.node.controller.place = .afterRecv size) :
    size.toNat = logged.heard.length ∧
      logged.node.controller.driver.rxBuffer.bytes 0 size.toNat =
        logged.heard := by
  obtain ⟨_, sizeByte, holds⟩ := sound.received size place
  have short : logged.heard.length < 256 :=
    Nat.lt_of_le_of_lt holds.fits (by decide)
  have exact : size.toNat = logged.heard.length := by
    rw [sizeByte]
    exact UInt8.toNat_ofNat_of_lt' short
  rw [exact]
  exact ⟨rfl, holds.bytes⟩

/-- What the main loop does to the frame that it has received. -/
theorem Sound.executed
    {logged : Logged}
    (sound : Sound logged)
    {size : UInt8}
    (place : logged.node.controller.place = .afterRecv size) :
    (∃ command : Command,
        command.Admissible ∧ logged.heard = command.frame ∧
          logged.node.mainStep.controller =
            command.carryOut logged.node.controller ∧
          logged.node.stepCalls = command.call.toList) ∨
      ((∀ command : Command, command.Admissible →
          logged.heard ≠ command.frame) ∧
        logged.node.mainStep.controller =
          { logged.node.controller with place := .beforeRecv } ∧
        logged.node.stepCalls = []) := by
  obtain ⟨sameSize, sameBytes⟩ := sound.frame place
  have step :
      logged.node.mainStep.controller =
        executeCommand logged.node.controller.driver.rxBuffer size
          logged.node.controller := by
    rw [Node.mainStep, mainStep, place]
  have calls :
      logged.node.stepCalls =
        (callOfCommand logged.node.controller.driver.rxBuffer
          size).toList := by
    rw [Node.stepCalls, place]
  rw [step, calls]
  by_cases asked :
      ∃ command : Command,
        command.Admissible ∧ logged.heard = command.frame
  · obtain ⟨command, admissible, same⟩ := asked
    have executed :=
      Command.executeCommand_eq admissible
        (sameSize.trans (congrArg List.length same))
        (sameBytes.trans same) logged.node.controller
    refine Or.inl ⟨command, admissible, same, executed.1, ?_⟩
    rw [executed.2]
  · have other :
        ∀ command : Command, command.Admissible →
          logged.heard ≠ command.frame := fun command admissible same =>
      asked ⟨command, admissible, same⟩
    have executed :=
      @Command.executeCommand_other
        logged.node.controller.driver.rxBuffer size
        (fun command admissible => by
          rw [sameBytes]
          exact other command admissible)
        logged.node.controller
    refine Or.inr ⟨other, executed.1, ?_⟩
    rw [executed.2]
    rfl

/-- A frame is lawful. -/
theorem Sound.frameLaw
    {logged : Logged}
    (sound : Sound logged)
    {size : UInt8}
    (place : logged.node.controller.place = .afterRecv size) :
    FrameLaw logged.heard logged.node.stepCalls logged.node.controller
      logged.node.mainStep.controller := by
  rcases sound.executed place with
    ⟨command, admissible, same, step, calls⟩ | ⟨other, step, calls⟩
  · rw [same, step, calls]
    exact command.lawful admissible logged.node.controller
  · rw [step, calls]
    exact Command.others_lawful other logged.node.controller

/-- The main loop executes a frame. -/
theorem Sound.execute
    {logged : Logged}
    (sound : Sound logged)
    {size : UInt8}
    (place : logged.node.controller.place = .afterRecv size) :
    Sound logged.loop := by
  obtain ⟨ready, _, _⟩ := sound.received size place
  obtain ⟨released, disabled⟩ := sound.guarded.idle ready
  have rested :
      ∀ slave : Controller,
        AddressesAgree slave → slave.driver.twcr.twea = false →
          slave.place ≠ .inRecv → (∀ size, slave.place ≠ .afterRecv size) →
            logged.node.mainStep.controller = slave →
              Sound logged.loop := by
    intro slave agree off outside done step
    refine ⟨?_, ⟨fun _ => ⟨released, ?_⟩, fun busy => ?_⟩, ?_, ?_⟩
    · rw [← step] at agree
      exact agree
    · rw [← step] at off
      exact off
    · exact absurd released busy
    · intro here
      rw [← step] at outside
      exact absurd here outside
    · intro other here
      rw [← step] at done
      exact absurd here (done other)
  have agree := sound.agree
  rcases sound.executed place with
    ⟨command, admissible, _, step, _⟩ | ⟨_, step, _⟩
  · refine rested _ ?_ ?_ ?_ ?_ step
    · cases command with
      | setAddr newAddr => exact ⟨rfl, rfl, admissible.1, admissible.2⟩
      | _ =>
          exact
            ⟨agree.register, agree.eeprom, agree.positive, agree.low⟩
    · cases command with
      | setAddr newAddr => rfl
      | _ => exact disabled
    · cases command with
      | _ => rintro ⟨⟩
    · cases command with
      | _ => rintro size ⟨⟩
  · refine
      rested { logged.node.controller with place := .beforeRecv } ?_
        disabled (by rintro ⟨⟩) (by rintro size ⟨⟩) step
    exact ⟨agree.register, agree.eeprom, agree.positive, agree.low⟩

section Loop

variable {logged : Logged}

/-- The driver is armed for a command, and what was heard is forgotten. -/
theorem loop_arming
    (place : logged.node.controller.place = .beforeRecv)
    (ready : logged.node.controller.driver.isReady = true) :
    logged.loop =
      ⟨{ logged.node with
          controller :=
            { logged.node.controller with
              driver := logged.node.controller.driver.armRecv rxMaxLen
              place := .inRecv } }, []⟩ := by
  rw [Logged.loop, Node.mainStep, mainStep, place]
  simp only [ready, if_true]

/-- The command has been received. -/
theorem loop_received
    (place : logged.node.controller.place = .inRecv)
    (ready : logged.node.controller.driver.isReady = true) :
    logged.loop =
      ⟨{ logged.node with
          controller :=
            { logged.node.controller with
              place :=
                .afterRecv
                  (UInt8.ofNat logged.node.controller.driver.rxIdx) } },
        logged.heard⟩ := by
  rw [Logged.loop, Node.mainStep, mainStep, place]
  simp only [ready, if_true, reduceCtorEq, if_false]

/-- The driver is armed for the response. -/
theorem loop_responding
    {response : List UInt8}
    (place : logged.node.controller.place = .beforeSend response)
    (ready : logged.node.controller.driver.isReady = true) :
    logged.loop =
      ⟨{ logged.node with
          controller :=
            { logged.node.controller with
              driver := logged.node.controller.driver.armSend response
              place := .beforeRecv } }, logged.heard⟩ := by
  rw [Logged.loop, Node.mainStep, mainStep, place]
  simp only [ready, if_true, reduceCtorEq, if_false]

/-- A driver that is not ready is waited for. -/
theorem loop_waiting
    (place :
      logged.node.controller.place = .inRecv ∨
        ∃ response,
          logged.node.controller.place = .beforeSend response)
    (busy : ¬ logged.node.controller.driver.isReady = true) :
    logged.loop = logged := by
  rcases place with place | ⟨response, place⟩
  · rw [Logged.loop, Node.mainStep, mainStep, place]
    simp only [busy, Bool.false_eq_true, reduceCtorEq, if_false]
  · rw [Logged.loop, Node.mainStep, mainStep, place]
    simp only [busy, Bool.false_eq_true, reduceCtorEq, if_false]

end Loop

/-- The main loop keeps the invariant. -/
theorem Sound.loop
    {logged : Logged}
    (sound : Sound logged) :
    Sound logged.loop := by
  have agree := sound.agree
  cases place : logged.node.controller.place with
  | beforeRecv =>
      by_cases ready : logged.node.controller.driver.isReady = true
      · rw [loop_arming place ready]
        exact
          ⟨⟨agree.register, agree.eeprom, agree.positive, agree.low⟩,
            ⟨by rintro ⟨⟩, fun _ => rfl⟩,
            fun _ => ⟨rfl, Nat.zero_le _, rfl⟩, by rintro size ⟨⟩⟩
      · have step : logged.loop = ⟨logged.node, []⟩ := by
          rw [Logged.loop, Node.mainStep, mainStep, place]
          simp only [ready, Bool.false_eq_true, if_true, if_false]
        rw [step]
        exact
          ⟨agree, sound.guarded, by rw [place]; rintro ⟨⟩,
            by rw [place]; rintro size ⟨⟩⟩
  | inRecv =>
      have holds := sound.receiving place
      by_cases ready : logged.node.controller.driver.isReady = true
      · rw [loop_received place ready]
        refine
          ⟨⟨agree.register, agree.eeprom, agree.positive, agree.low⟩,
            ⟨sound.guarded.idle, sound.guarded.busy⟩, by rintro ⟨⟩, ?_⟩
        rintro size ⟨⟩
        refine
          ⟨of_decide_eq_true ready, ?_, holds.index, holds.fits,
            holds.bytes⟩
        rw [holds.index]
      · rw [loop_waiting (Or.inl place) ready]
        exact sound
  | afterRecv size => exact sound.execute place
  | beforeSend response =>
      by_cases ready : logged.node.controller.driver.isReady = true
      · rw [loop_responding place ready]
        exact
          ⟨⟨agree.register, agree.eeprom, agree.positive, agree.low⟩,
            ⟨by rintro ⟨⟩, fun _ => rfl⟩, by rintro ⟨⟩,
            by rintro size ⟨⟩⟩
      · rw [loop_waiting (Or.inr ⟨response, place⟩) ready]
        exact sound

/-- The invariant holds in every run. -/
theorem Reachable.sound
    {ownAddress : UInt8}
    (positive : 1 ≤ ownAddress)
    (low : ownAddress ≤ 126)
    {logged : Logged}
    (reached : Reachable ownAddress logged) :
    Sound logged := by
  induction reached with
  | start command => exact sound_booted positive low command
  | disturbed _ disturbs inductionHypothesis =>
      cases disturbs with
      | event event possible fits =>
          exact inductionHypothesis.hear possible fits
      | measured speed => exact inductionHypothesis.measure speed
  | looped _ inductionHypothesis => exact inductionHypothesis.loop

/-- The address, the requested speeds and the replies are left alone. -/
structure Quiet (before after : Controller) : Prop where
  copies : after.copies = before.copies
  next : after.motor.speedNext = before.motor.speedNext
  target : after.motor.speedTarget = before.motor.speedTarget
  replies :
    ∀ response, after.place = .beforeSend response →
      before.place = .beforeSend response

/-- Frames do what they say, and nothing else does anything. -/
structure Lawful (logged : Logged) : Prop where
  agree : AddressesAgree logged.node.controller
  frames :
    ∀ size, logged.node.controller.place = .afterRecv size →
      FrameLaw logged.heard logged.node.stepCalls logged.node.controller
        logged.node.mainStep.controller
  between :
    (∀ size, logged.node.controller.place ≠ .afterRecv size) →
      logged.node.stepCalls = [] ∧
        Quiet logged.node.controller logged.node.mainStep.controller
  disturbances :
    ∀ after, Disturbs logged after →
      Quiet logged.node.controller after.node.controller

/-- Outside the execution of a frame the main loop is quiet. -/
theorem quiet_mainStep
    {node : Node}
    (outside : ∀ size, node.controller.place ≠ .afterRecv size) :
    node.stepCalls = [] ∧
      Quiet node.controller node.mainStep.controller := by
  rw [Node.stepCalls, Node.mainStep, mainStep]
  cases place : node.controller.place with
  | afterRecv size => exact absurd place (outside size)
  | beforeRecv =>
      refine ⟨rfl, ?_⟩
      simp only
      split
      · exact ⟨rfl, rfl, rfl, by rintro response ⟨⟩⟩
      · exact ⟨rfl, rfl, rfl, fun response same => same⟩
  | inRecv =>
      refine ⟨rfl, ?_⟩
      simp only
      split
      · exact ⟨rfl, rfl, rfl, by rintro response ⟨⟩⟩
      · exact ⟨rfl, rfl, rfl, fun response same => same⟩
  | beforeSend reply =>
      refine ⟨rfl, ?_⟩
      simp only
      split
      · exact ⟨rfl, rfl, rfl, by rintro response ⟨⟩⟩
      · exact ⟨rfl, rfl, rfl, fun response same => same⟩

/-- The bus and the measurements are quiet. -/
theorem Sound.quiet
    {logged after : Logged}
    (sound : Sound logged)
    (disturbs : Disturbs logged after) :
    Quiet logged.node.controller after.node.controller := by
  cases disturbs with
  | event event possible _ =>
      have handled := sound.guarded.next possible
      change Quiet _ (logged.node.next event).controller
      rw [handled.rest]
      refine ⟨?_, rfl, rfl, fun response same => same⟩
      rw [Controller.copies, Controller.copies]
      exact congrArg (fun register => (register, _, _)) handled.register
  | measured speed =>
      exact ⟨rfl, rfl, rfl, fun response same => same⟩

/--
In every run, whatever earlier frames have left in the object of the main loop,
the copies of the address agree, every frame does exactly what its own bytes ask
for, and nothing is done without a frame.
-/
theorem lawful_of_reachable
    (ownAddress : UInt8)
    (positive : 1 ≤ ownAddress)
    (low : ownAddress ≤ 126)
    (logged : Logged)
    (reached : Reachable ownAddress logged) :
    Lawful logged := by
  have sound := reached.sound positive low
  exact
    ⟨sound.agree, fun _ place => sound.frameLaw place,
      fun outside => quiet_mainStep outside,
      fun _ disturbs => sound.quiet disturbs⟩

/-- The slave with address 5 waits for a command. -/
def armedFive : Logged :=
  (booted 5 fun _ => 0xFF).loop

/-- It has received a ping with the argument 9. -/
def pingedFive : Logged :=
  ((((armedFive.hear (.addressWrite 5)).hear (.writeByte 3)).hear
    (.writeByte 9)).hear .stop).loop

theorem reachable_pingedFive : Reachable 5 pingedFive := by
  refine .looped ?_
  refine .disturbed ?_ (.event .stop ?_ ?_)
  refine .disturbed ?_ (.event (.writeByte 9) ?_ ?_)
  refine .disturbed ?_ (.event (.writeByte 3) ?_ ?_)
  refine .disturbed ?_ (.event (.addressWrite 5) ?_ ?_)
  · exact .looped (.start _)
  all_goals decide

theorem pingedFive_lawful :
    pingedFive.heard = [3, 9] ∧
      pingedFive.node.controller.place = .afterRecv 2 ∧
        Lawful pingedFive :=
  ⟨by decide, by decide,
    lawful_of_reachable 5 (by decide) (by decide) pingedFive
      reachable_pingedFive⟩

end Logged

end Ammc.Slave
