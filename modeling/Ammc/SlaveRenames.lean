import Ammc.SlaveFrames

namespace Ammc.Slave

open ByteMemory Twi DcMotor

/-!
# Slaves that are given another address

`change_twi_address_to` stores the new address in the EEPROM before the two-wire
driver is told about it, and `setup` reads it from there.  A slave that waits
for commands can be given another address at any time, and keeps it when its
power fails.
-/

/-! ## What a write leaves alone -/

/-- Nothing has changed but the driver. -/
def OnlyDriver (before after : Node) : Prop :=
  after.controller =
    { before.controller with driver := after.controller.driver }

namespace OnlyDriver

variable {before middle after : Node}

theorem trans
    (first : OnlyDriver before middle)
    (second : OnlyDriver middle after) :
    OnlyDriver before after := by
  rw [OnlyDriver, second, first]

theorem addressWrite
    (addr : UInt8)
    (node : Node) :
    OnlyDriver node (node.addressWrite addr).2 := by
  rw [Node.addressWrite]
  split
  · rfl
  · rfl

theorem writeByte
    (byte : UInt8)
    (node : Node) :
    OnlyDriver node (node.writeByte byte).2 := by
  rw [Node.writeByte]
  split
  · split
    · rfl
    · rfl
  · rfl

theorem stop (node : Node) : OnlyDriver node node.stop := by
  rw [Node.stop]
  split
  · rfl
  · rfl

theorem writeBytes
    (data : List UInt8)
    (node : Node) :
    OnlyDriver node (node.writeBytes data) := by
  induction data generalizing node with
  | nil => exact stop node
  | cons byte bytes inductionHypothesis =>
      have first := writeByte byte node
      rw [Node.writeBytes]
      rcases step : node.writeByte byte with ⟨_ | _, next⟩
      · rw [step] at first
        exact first.trans (stop next)
      · rw [step] at first
        exact first.trans (inductionHypothesis next)

/-- A write to a slave. -/
theorem write
    (addr : UInt8)
    (data : List UInt8)
    (node : Node) :
    OnlyDriver node (node.write addr data) := by
  have first := addressWrite addr node
  rw [Node.write]
  rcases step : node.addressWrite addr with ⟨_ | _, next⟩
  · rw [step] at first
    exact first.trans (stop next)
  · rw [step] at first
    exact first.trans (writeBytes data next)

end OnlyDriver

/-! ## What a command leaves behind -/

/-- What commands may change for good. -/
def Controller.settings (slave : Controller) :
    Motor × UInt8 × UInt8 × UInt8 :=
  (slave.motor, slave.copies)

/-- A slave that is about to arm changes none of it. -/
theorem Resting.settings_mainStep
    {node : Node}
    (resting : Resting node) :
    node.mainStep.controller.settings = node.controller.settings := by
  rw [Node.mainStep, Slave.mainStep, resting.place]
  dsimp only
  split
  · rfl
  · rfl

/-- Neither does a slave that has received a command. -/
theorem Received.controller_mainStep
    {frame : List UInt8}
    {node : Node}
    (received : Received frame node) :
    node.mainStep.controller =
      { node.controller with
        place := .afterRecv (UInt8.ofNat frame.length) } := by
  rw [Node.mainStep, Slave.mainStep, received.place]
  simp [Driver.isReady, received.mode, received.count]

namespace Command

/-- A command without a reply. -/
def Silent (command : Command) : Prop :=
  ∀ slave : Controller, (command.carryOut slave).place = .beforeRecv

theorem short (command : Command) : command.frame.length < 256 := by
  cases command with
  | setSpeed speed =>
      rw [frame, List.length_cons, length_rpmBytes]
      decide
  | getSpeed => decide
  | applySpeed => decide
  | ping argument => exact Nat.lt_of_sub_ne_zero Nat.noConfusion
  | setAddr newAddr => exact Nat.lt_of_sub_ne_zero Nat.noConfusion

/-- What a command does does not depend on where the main loop is. -/
theorem settings_carryOut
    (command : Command)
    (slave : Controller)
    (place : Place) :
    (command.carryOut { slave with place := place }).settings =
      (command.carryOut slave).settings := by
  cases command with
  | _ => rfl

end Command

/-- A command without a reply is carried out, and the slave waits again. -/
theorem Received.settle_of_silent
    {command : Command}
    (admissible : command.Admissible)
    (silent : command.Silent)
    {node : Node}
    (received : Received command.frame node) :
    Armed node.settle ∧
      node.settleCalls = command.call.toList ∧
      node.settle.controller.settings =
        (command.carryOut node.controller).settings := by
  have executing := received.mainStep
  have first := received.controller_mainStep
  have size :
      (UInt8.ofNat command.frame.length).toNat = command.frame.length :=
    Nat.mod_eq_of_lt command.short
  have stored :
      node.mainStep.controller.driver.rxBuffer.bytes 0
          (UInt8.ofNat command.frame.length).toNat =
        command.frame := by
    rw [size]
    exact executing.stored
  obtain ⟨carriedOut, called⟩ :=
    Command.executeCommand_eq admissible size stored
      node.mainStep.controller
  have second :
      node.mainStep.mainStep.controller =
        command.carryOut node.mainStep.controller := by
    rw [← carriedOut]
    conv_lhs => rw [Node.mainStep, Slave.mainStep, executing.place]
  have resting : Resting node.mainStep.mainStep := by
    rcases executing.mainStep with ⟨reply, response, _⟩ | ⟨_, resting⟩
    · rw [Node.response, second, silent] at response
      cases response
    · exact resting
  refine ⟨resting.mainStep, ?_, ?_⟩
  · have noFirst : node.stepCalls = [] := by
      rw [Node.stepCalls, received.place]
    have noThird : node.mainStep.mainStep.stepCalls = [] := by
      rw [Node.stepCalls, resting.place]
    rw [Node.settleCalls, noFirst, noThird, List.append_nil,
      List.nil_append, Node.stepCalls, executing.place, ← called]
  · have third := resting.settings_mainStep
    refine third.trans ?_
    rw [second, first, Command.settings_carryOut]

/-! ## Slaves under addresses -/

/-- A slave under an address that waits for commands. -/
structure Seated
    (addr : UInt8)
    (slave : Traced) : Prop where
  armed : Armed slave.node
  agree : AddressesAgree slave.node.controller
  own : slave.node.controller.ownAddress = addr

namespace Seated

variable {addr : UInt8} {slave : Traced}

theorem address (seated : Seated addr slave) : slave.address = addr := by
  rw [Traced.address, Node.address, seated.agree.register,
    (twar_bits seated.agree.low).1, seated.own]

theorem addressed (seated : Seated addr slave) : addr ≠ 0 := by
  have positive := seated.agree.positive
  rw [seated.own] at positive
  rintro rfl
  exact absurd positive (by decide)

theorem listening (seated : Seated addr slave) : Listening slave where
  armed := seated.armed
  general := by
    rw [seated.agree.register]
    exact (twar_bits seated.agree.low).2
  low := by
    rw [seated.address, ← seated.own]
    exact seated.agree.low

/-- A slave that is concerned carries the command out. -/
theorem told
    (seated : Seated addr slave)
    {target : UInt8}
    (concerned : target = 0 ∨ target = addr)
    {command : Command}
    (admissible : command.Admissible)
    (silent : command.Silent) :
    Armed
        (slave.after
          (slave.node.write target command.frame)).settle.node ∧
      (slave.after
          (slave.node.write target command.frame)).settle.calls =
        slave.calls ++ command.call.toList ∧
      (slave.after
            (slave.node.write target
              command.frame)).settle.node.controller.settings =
        (command.carryOut slave.node.controller).settings := by
  have acked : slave.node.acksWrite target = true := by
    rw [seated.listening.acksWrite_iff, seated.address]
    exact concerned
  have short : command.frame.length < 2 ^ 16 :=
    Nat.lt_trans command.short (by decide)
  obtain ⟨received, kept⟩ :=
    seated.armed.write acked command.frame short
  obtain ⟨armed, calls, settings⟩ :=
    received.settle_of_silent admissible silent
  have untouched := OnlyDriver.write target command.frame slave.node
  refine ⟨armed, congrArg (slave.calls ++ ·) calls, settings.trans ?_⟩
  have register :
      (slave.node.write target command.frame).controller.driver.twar =
        slave.node.controller.driver.twar :=
    congrArg Prod.snd kept
  generalize slave.node.write target command.frame = written
    at untouched register
  rw [untouched]
  cases command with
  | setAddr newAddr => rfl
  | _ =>
      exact
        congrArg
          (fun register => ((_ : Motor), register, (_ : UInt8 × UInt8)))
          register

/-- What the slave has kept of its address. -/
theorem of_copies
    {before after : Traced}
    {place : UInt8}
    (armed : Armed after.node)
    (agree : AddressesAgree before.node.controller)
    (own : before.node.controller.ownAddress = place)
    (copies :
      after.node.controller.copies = before.node.controller.copies) :
    Seated place after := by
  have register := congrArg Prod.fst copies
  have ownAddress := congrArg (fun all => all.2.1) copies
  have eeprom := congrArg (fun all => all.2.2) copies
  dsimp only [Controller.copies] at register ownAddress eeprom
  refine ⟨armed, ⟨?_, ?_, ?_, ?_⟩, ownAddress.trans own⟩
  · rw [register, ownAddress]
    exact agree.register
  · rw [eeprom, ownAddress]
    exact agree.eeprom
  · rw [ownAddress]
    exact agree.positive
  · rw [ownAddress]
    exact agree.low

/-- The slave keeps its address when it is given a speed or applies one. -/
theorem called
    (seated : Seated addr slave)
    {target : UInt8}
    (concerned : target = 0 ∨ target = addr)
    (call : MotorCall) :
    Seated addr
        (slave.after (slave.node.write target call.frame)).settle ∧
      (slave.after (slave.node.write target call.frame)).settle.motor =
        call.perform slave.motor := by
  cases call with
  | set next =>
      obtain ⟨armed, _, settings⟩ :=
        @told addr slave seated target concerned (.setSpeed next) trivial
          fun _ => rfl
      exact
        ⟨of_copies armed seated.agree seated.own
          (congrArg Prod.snd settings), congrArg Prod.fst settings⟩
  | apply =>
      obtain ⟨armed, _, settings⟩ :=
        @told addr slave seated target concerned .applySpeed trivial
          fun _ => rfl
      exact
        ⟨of_copies armed seated.agree seated.own
          (congrArg Prod.snd settings), congrArg Prod.fst settings⟩

/-- The slave waits under the address that it is given. -/
theorem renamed
    (seated : Seated addr slave)
    {newAddr : UInt8}
    (positive : 1 ≤ newAddr)
    (low : newAddr ≤ 126) :
    Seated newAddr
        (slave.after
          (slave.node.write addr
            (Command.setAddr newAddr).frame)).settle ∧
      (slave.after
          (slave.node.write addr
            (Command.setAddr newAddr).frame)).settle.motor =
        slave.motor := by
  obtain ⟨armed, _, settings⟩ :=
    @told addr slave seated addr (Or.inr rfl) (.setAddr newAddr)
      ⟨positive, low⟩ fun _ => rfl
  have given :
      AddressesAgree
        (changeTwiAddressTo newAddr slave.node.controller) :=
    ⟨rfl, rfl, positive, low⟩
  exact
    ⟨@of_copies
        (slave.after
          { slave.node with
            controller :=
              changeTwiAddressTo newAddr slave.node.controller })
        _ newAddr armed given rfl (congrArg Prod.snd settings),
      congrArg Prod.fst settings⟩

/-- A slave that is not addressed stays as it is. -/
theorem passed
    (seated : Seated addr slave)
    {target : UInt8}
    (other : ¬ (target = 0 ∨ target = addr))
    (data : List UInt8) :
    (slave.after (slave.node.write target data)).settle = slave := by
  rw [← seated.address] at other
  exact seated.listening.passed other data

end Seated

/-! ## Power cycles -/

/--
The power of a slave fails and comes back: the program starts from the address
in the EEPROM, and finds anything in the memory of its stack.
-/
def Traced.restart
    (leftover : Memory)
    (slave : Traced) : Traced :=
  slave.after
    { controller :=
        mainStep (setup slave.node.controller.ownAddressEeprom leftover)
      phase := .released }

/-- A slave comes back under the address that it had. -/
theorem Seated.restart
    {addr : UInt8}
    {slave : Traced}
    (seated : Seated addr slave)
    (leftover : Memory) :
    Seated addr (slave.restart leftover) ∧
      (slave.restart leftover).motor = motorAtStart := by
  have kept : slave.node.controller.ownAddressEeprom = addr :=
    seated.agree.eeprom.trans seated.own
  have positive := seated.agree.positive
  have low := seated.agree.low
  rw [seated.own] at positive low
  rw [Traced.restart, kept]
  exact
    ⟨⟨⟨⟨rfl, rfl, rfl, rfl⟩, rfl⟩, ⟨rfl, rfl, positive, low⟩, rfl⟩, rfl⟩

/-- A slave that has been set up waits under the address in its EEPROM. -/
theorem seated_bootedSlave
    {ownAddress : UInt8}
    (positive : 1 ≤ ownAddress)
    (low : ownAddress ≤ 126) :
    Seated ownAddress (bootedSlave ownAddress) :=
  ⟨⟨⟨rfl, rfl, rfl, rfl⟩, rfl⟩, ⟨rfl, rfl, positive, low⟩, rfl⟩

end Ammc.Slave
