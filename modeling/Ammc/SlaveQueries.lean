import Mathlib.Data.List.Forall2
import Ammc.NetworkReads
import Ammc.SlaveRenames

namespace Ammc.Slave

open ByteMemory Twi DcMotor WiredLine

/-!
# Commands with a reply

A slave that is asked for its speed, or pinged, arms a reply and waits until it
is read; then it waits for the next command, under the same address and with the
same motor.  Slaves with the same address are asked and read together.
-/

/-! ## What a read leaves alone -/

@[simp] theorem settings_interrupt
    (status : Status)
    (node : Node) :
    (node.interrupt status).controller.settings =
      node.controller.settings := by
  cases status with
  | _ => rfl

theorem settings_stop (node : Node) :
    node.stop.controller.settings = node.controller.settings := by
  rw [Node.stop]
  split
  · exact settings_interrupt _ _
  · rfl

theorem settings_readByte
    (acked : Bool)
    (node : Node) :
    (node.readByte acked).2.controller.settings =
      node.controller.settings := by
  rw [Node.readByte]
  split
  · dsimp only
    split
    · split
      · exact settings_interrupt _ _
      · exact settings_interrupt _ _
    · exact settings_interrupt _ _
  · rfl

theorem settings_readBytes
    (count : Nat)
    (node : Node) :
    (node.readBytes count).2.controller.settings =
      node.controller.settings := by
  induction count generalizing node with
  | zero => exact settings_stop node
  | succ left inductionHypothesis =>
      exact (inductionHypothesis _).trans (settings_readByte _ node)

/-- A read changes neither the motor nor the address. -/
theorem settings_read
    (addr : UInt8)
    (count : Nat)
    (node : Node) :
    (node.read addr count).2.controller.settings =
      node.controller.settings := by
  rw [Node.read, Node.addressRead]
  split
  · rename_i answered
    split at answered
    · cases answered
      exact (settings_readBytes count _).trans (settings_interrupt _ _)
    · cases answered
  · rename_i answered
    split at answered
    · cases answered
    · cases answered
      exact settings_stop node

/-! ## Replies -/

/-- The reply to a command. -/
def Command.reply
    (motor : Motor) : Command → Option (List UInt8)
  | .getSpeed => some (rpmBytes motor.speedActual)
  | .ping argument => some [argument]
  | _ => none

/-- A command with a reply only arms it. -/
theorem Command.carryOut_of_reply
    {command : Command}
    {slave : Controller}
    {reply : List UInt8}
    (replies : command.reply slave.motor = some reply) :
    command.carryOut slave = { slave with place := .beforeSend reply } ∧
      command.call = none ∧
      command.Admissible := by
  cases command with
  | getSpeed =>
      cases replies
      exact ⟨rfl, rfl, trivial⟩
  | ping argument =>
      cases replies
      exact ⟨rfl, rfl, trivial⟩
  | setSpeed speed => cases replies
  | applySpeed => cases replies
  | setAddr newAddr => cases replies

/-- A command with a reply is received, and the reply waits to be read. -/
theorem Received.settle_of_reply
    {command : Command}
    {node : Node}
    (received : Received command.frame node)
    {reply : List UInt8}
    (replies : command.reply node.controller.motor = some reply) :
    Replying reply node.settle ∧
      node.settleCalls = [] ∧
      node.settle.controller.settings = node.controller.settings := by
  have executing := received.mainStep
  have first := received.controller_mainStep
  have size :
      (UInt8.ofNat command.frame.length).toNat = command.frame.length :=
    Nat.mod_eq_of_lt command.short
  have stored :
      node.mainStep.controller.driver.rxBuffer.bytes 0
          (UInt8.ofNat command.frame.length).toNat =
        command.frame := by
    rw [size]
    exact executing.stored
  have sameMotor :
      node.mainStep.controller.motor = node.controller.motor := by
    rw [first]
  rw [← sameMotor] at replies
  obtain ⟨arms, silent, admissible⟩ := Command.carryOut_of_reply replies
  obtain ⟨carriedOut, called⟩ :=
    Command.executeCommand_eq admissible size stored
      node.mainStep.controller
  have second :
      node.mainStep.mainStep =
        { node.mainStep with
          controller :=
            { node.mainStep.controller with
              place := .beforeSend reply } } := by
    rw [← arms, ← carriedOut]
    conv_lhs => rw [Node.mainStep, Slave.mainStep, executing.place]
  have responding : Responding reply node.mainStep.mainStep := by
    rw [second]
    exact ⟨rfl, executing.phase, executing.mode, executing.twea⟩
  have third :
      node.mainStep.mainStep.mainStep.controller.settings =
        node.mainStep.mainStep.controller.settings := by
    rw [Node.mainStep, Slave.mainStep, responding.place]
    dsimp only
    split
    · rfl
    · rfl
  refine ⟨responding.mainStep, ?_, ?_⟩
  · have noFirst : node.stepCalls = [] := by
      rw [Node.stepCalls, received.place]
    have noSecond : node.mainStep.stepCalls = [] := by
      rw [Node.stepCalls, executing.place]
      dsimp only
      rw [called, silent]
      rfl
    have noThird : node.mainStep.mainStep.stepCalls = [] := by
      rw [Node.stepCalls, responding.place]
    rw [Node.settleCalls, noFirst, noSecond, noThird]
    rfl
  · refine third.trans ?_
    rw [second, first]
    rfl

/-- A slave whose reply has been read waits for the next command. -/
theorem Resting.settle
    {node : Node}
    (resting : Resting node) :
    Armed node.settle ∧
      node.settleCalls = [] ∧
      node.settle.controller.settings = node.controller.settings := by
  have armed := resting.mainStep
  have settled : node.settle = node.mainStep := by
    change node.mainStep.mainStep.mainStep = node.mainStep
    rw [armed.mainStep, armed.mainStep]
  refine ⟨?_, ?_, ?_⟩
  · rw [settled]
    exact armed
  · rw [Node.settleCalls, armed.mainStep, Node.stepCalls, resting.place,
      Node.stepCalls, armed.place]
    rfl
  · rw [settled]
    exact resting.settings_mainStep

/-! ## One slave -/

/-- A slave waits under its address as before, with the same motor. -/
structure Keeps (before after : Traced) : Prop where
  seated : Seated before.address after
  motor : after.motor = before.motor
  calls : after.calls = before.calls

section Asked

variable {command : Command}
variable {reply : Motor → List UInt8}
variable {slave : Traced}
variable {addr : UInt8}

/-- The slave after it has been asked, if it is concerned. -/
def Traced.asked
    (addr : UInt8)
    (command : Command)
    (slave : Traced) : Traced :=
  (slave.after (slave.node.write addr command.frame)).settle

/-- The slave after it has been read, if it is concerned. -/
def Traced.readOut
    (addr : UInt8)
    (count : Nat)
    (slave : Traced) : Traced :=
  (slave.after (slave.node.read addr count).2).settle

/-- A slave that is asked waits with its reply. -/
theorem Seated.asked
    (seated : Seated addr slave)
    (replies : ∀ motor, command.reply motor = some (reply motor)) :
    Replying (reply slave.motor) (slave.asked addr command).node ∧
      (slave.asked addr command).calls = slave.calls ∧
      (slave.asked addr command).node.controller.settings =
        slave.node.controller.settings := by
  have acked : slave.node.acksWrite addr = true :=
    seated.listening.acksWrite_iff.mpr (Or.inr seated.address.symm)
  obtain ⟨received, kept⟩ :=
    seated.armed.write acked command.frame
      (Nat.lt_trans command.short (by decide))
  have sameMotor :
      (slave.node.write addr command.frame).controller.motor =
        slave.motor :=
    congrArg Prod.fst kept
  obtain ⟨replying, noCalls, settings⟩ :=
    received.settle_of_reply (replies _)
  rw [sameMotor] at replying
  have untouched :
      (slave.node.write addr command.frame).controller.settings =
        slave.node.controller.settings := by
    have onlyDriver := OnlyDriver.write addr command.frame slave.node
    have register := congrArg Prod.snd kept
    dsimp only [Node.kept] at register
    rw [Controller.settings, Controller.copies, register, onlyDriver]
    rfl
  refine ⟨replying, ?_, settings.trans untouched⟩
  change slave.calls ++ _ = slave.calls
  rw [Traced.after, noCalls, List.append_nil]

/-- The reply is read, and the slave waits for the next command. -/
theorem Seated.readOut
    (seated : Seated addr slave)
    (replies : ∀ motor, command.reply motor = some (reply motor))
    (nonempty : reply slave.motor ≠ [])
    (short : (reply slave.motor).length < 2 ^ 16) :
    (slave.asked addr command).node.acksRead addr = true ∧
      ((slave.asked addr command).node.read addr
          (reply slave.motor).length).1 =
        reply slave.motor ∧
      Keeps slave
        ((slave.asked addr command).readOut addr
          (reply slave.motor).length) := by
  obtain ⟨replying, noCalls, settings⟩ := seated.asked replies
  have copies := congrArg Prod.snd settings
  have sameMotor := congrArg Prod.fst settings
  have register :
      (slave.asked addr command).node.controller.driver.twar =
        slave.node.controller.driver.twar :=
    congrArg Prod.fst copies
  have sameAddress : (slave.asked addr command).node.address = addr := by
    rw [Node.address, register]
    exact seated.address
  have acked : (slave.asked addr command).node.acksRead addr = true := by
    simp [Node.acksRead, replying.twea, seated.addressed, sameAddress]
  obtain ⟨bytes, resting⟩ := replying.read acked nonempty short
  obtain ⟨armed, silent, resettled⟩ := resting.settle
  have whole :
      ((slave.asked addr command).readOut addr
            (reply slave.motor).length).node.controller.settings =
        slave.node.controller.settings :=
    (resettled.trans (settings_read _ _ _)).trans settings
  refine ⟨acked, bytes, ?_, congrArg Prod.fst whole, ?_⟩
  · rw [seated.address]
    exact
      Seated.of_copies armed seated.agree seated.own
        (congrArg Prod.snd whole)
  · change (slave.asked addr command).calls ++ _ = _
    rw [Traced.after, silent, List.append_nil, noCalls]

/-- A slave under another address takes no part. -/
theorem Seated.passed_query
    {own : UInt8}
    (seated : Seated own slave)
    (notGeneral : addr ≠ 0)
    (other : own ≠ addr)
    (count : Nat) :
    slave.asked addr command = slave ∧
      ¬ slave.node.acksRead addr = true ∧
      slave.node.read addr count = ([], slave.node) ∧
      slave.readOut addr count = slave := by
  have notConcerned : ¬ (addr = 0 ∨ addr = own) := by
    rintro (general | same)
    · exact notGeneral general
    · exact other same.symm
  have refused : ¬ slave.node.acksRead addr = true := by
    have different : ¬ addr = slave.node.address := by
      intro same
      exact other (seated.address.symm.trans same.symm)
    simp [Node.acksRead, different]
  obtain ⟨_, nothing⟩ :=
    read_refused seated.armed.phase refused count
  refine
    ⟨seated.passed notConcerned command.frame, refused, nothing, ?_⟩
  have noCalls : slave.node.settleCalls = [] := by
    rw [Node.settleCalls, seated.armed.mainStep, seated.armed.mainStep,
      Node.stepCalls, seated.armed.place]
    rfl
  rw [Traced.readOut, nothing]
  change
    Traced.mk slave.node.settle (slave.calls ++ slave.node.settleCalls) =
      slave
  rw [seated.armed.settle, noCalls, List.append_nil]

/-- What a question and a read of its reply do at a slave. -/
structure Queried
    (addr : UInt8)
    (command : Command)
    (reply : Motor → List UInt8)
    (count : Nat)
    (slave : Traced) : Prop where
  released : (slave.asked addr command).node.phase = .released
  acked :
    (slave.asked addr command).node.acksRead addr = true ↔
      slave.address = addr
  bytes :
    ((slave.asked addr command).node.read addr count).1 =
      if slave.address = addr then reply slave.motor else []
  keeps : Keeps slave ((slave.asked addr command).readOut addr count)

/-- Every slave that waits under its address can be queried. -/
theorem Seated.queried
    (seated : Seated slave.address slave)
    (notGeneral : addr ≠ 0)
    (replies : ∀ motor, command.reply motor = some (reply motor))
    {count : Nat}
    (sized : ∀ motor, (reply motor).length = count)
    (positive : 0 < count)
    (short : count < 2 ^ 16) :
    Queried addr command reply count slave := by
  by_cases concerned : slave.address = addr
  · rw [concerned] at seated
    have length := sized slave.motor
    have nonempty : reply slave.motor ≠ [] := by
      rw [← List.length_pos_iff, length]
      exact positive
    obtain ⟨replying, _⟩ := seated.asked replies
    obtain ⟨acked, bytes, keeps⟩ :=
      seated.readOut replies nonempty (by rw [length]; exact short)
    rw [length] at bytes keeps
    refine ⟨replying.phase, iff_of_true acked concerned, ?_, keeps⟩
    rw [if_pos concerned]
    exact bytes
  · obtain ⟨unasked, refused, nothing, unread⟩ :=
      @Seated.passed_query command slave addr slave.address seated
        notGeneral concerned count
    refine ⟨?_, ?_, ?_, ?_⟩
    · rw [unasked]
      exact seated.armed.phase
    · rw [unasked]
      exact iff_of_false refused concerned
    · rw [unasked, nothing, if_neg concerned]
    · rw [unasked, unread]
      exact ⟨seated, rfl, rfl⟩

end Asked

/-! ## All slaves on the bus -/

/-- A transaction in which each slave has its own part. -/
theorem tracedAfter_map
    (slaves : List Traced)
    (part : Node → Node) :
    tracedAfter slaves ((slaves.map Traced.node).map part) =
      slaves.map fun slave => (slave.after (part slave.node)).settle := by
  rw [tracedAfter, List.map_map, List.zipWith_map_right,
    List.zipWith_self, List.map_map]
  rfl

/--
A question to the slaves under an address is answered by what their replies have
in common, and all slaves wait for the next command.
-/
theorem query_slaves
    (uninitialised : List Traced → Memory)
    {slaves : List Traced}
    (seated : ∀ slave ∈ slaves, Seated slave.address slave)
    {addr target : UInt8}
    (narrowed : addr &&& 0x7F = target)
    (notGeneral : target ≠ 0)
    {command : Command}
    {reply : Motor → List UInt8}
    (replies : ∀ motor, command.reply motor = some (reply motor))
    {count : Nat}
    (sized : ∀ motor, (reply motor).length = count)
    (positive : 0 < count)
    (short : count < 2 ^ 16) :
    let bus := tracedBus uninitialised
    let answer :=
      bus.twiRecv addr count (bus.twiSend addr command.frame slaves)
    answer.1.val =
        (if slaves.any fun slave => slave.address = target then
          onBus count
            (slaves.map fun slave =>
              if slave.address = target then reply slave.motor else [])
        else
          []) ∧
      List.Forall₂ Keeps slaves answer.2 := by
  intro bus answer
  have queried :
      ∀ slave ∈ slaves, Queried target command reply count slave :=
    fun slave member =>
      (seated slave member).queried notGeneral replies sized positive short
  have receptive :
      ∀ node ∈ slaves.map Traced.node, Receptive target node := by
    intro node member
    obtain ⟨slave, inSlaves, rfl⟩ := List.mem_map.mp member
    exact (seated slave inSlaves).listening.receptive target
  have asked :
      bus.twiSend addr command.frame slaves =
        slaves.map (Traced.asked target command) := by
    change tracedAfter slaves (Network.write (addr &&& 0x7F) _ _) = _
    rw [narrowed,
      write_map receptive (Nat.lt_trans command.short (by decide)),
      tracedAfter_map]
    rfl
  have nodes :
      (bus.twiSend addr command.frame slaves).map Traced.node =
        slaves.map fun slave => (slave.asked target command).node := by
    change
      (tracedAfter slaves (Network.write (addr &&& 0x7F) _ _)).map _ = _
    rw [narrowed,
      write_map receptive (Nat.lt_trans command.short (by decide)),
      node_tracedAfter slaves (by simp), List.map_map, List.map_map]
    rfl
  have released :
      ∀ node ∈ slaves.map fun slave => (slave.asked target command).node,
        node.phase = .released := by
    intro node member
    obtain ⟨slave, inSlaves, rfl⟩ := List.mem_map.mp member
    exact (queried slave inSlaves).released
  have read := @read_map _ target released count
  have acked :
      ((slaves.map fun slave => (slave.asked target command).node).any
          fun node => node.acksRead target) =
        slaves.any fun slave => slave.address = target := by
    rw [List.any_map, Bool.eq_iff_iff, List.any_eq_true,
      List.any_eq_true]
    refine exists_congr fun slave => and_congr_right fun member => ?_
    rw [decide_eq_true_iff]
    exact (queried slave member).acked
  have bytes :
      ((slaves.map fun slave => (slave.asked target command).node).map
          fun node => (node.read target count).1) =
        slaves.map fun slave =>
          if slave.address = target then reply slave.motor else [] := by
    rw [List.map_map]
    exact List.map_congr_left fun slave member => (queried slave member).bytes
  refine ⟨?_, ?_⟩
  · change
      (Network.read (addr &&& 0x7F) count
        ((bus.twiSend addr command.frame slaves).map Traced.node)).1 = _
    rw [narrowed, nodes, read, acked, bytes]
  · change
      List.Forall₂ Keeps slaves
        (tracedAfter (bus.twiSend addr command.frame slaves)
          (Network.read (addr &&& 0x7F) count
            ((bus.twiSend addr command.frame slaves).map
              Traced.node)).2)
    have asNodes :
        (slaves.map fun slave => (slave.asked target command).node) =
          (slaves.map (Traced.asked target command)).map Traced.node := by
      rw [List.map_map]
      rfl
    rw [narrowed, nodes, read, asked]
    dsimp only
    rw [asNodes, tracedAfter_map, List.map_map,
      List.forall₂_map_right_iff, List.forall₂_same]
    exact fun slave member => (queried slave member).keeps

end Ammc.Slave
