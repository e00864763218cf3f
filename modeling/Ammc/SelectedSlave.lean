import Ammc.MasterTraffic
import Ammc.MasterTwi
import Ammc.SlaveTransfers

namespace Ammc.Master

open ByteMemory Serial Packet Slave

/-!
# The slave that a packet selects

The selector of a packet goes out as seven bits of an address.  Not every
selector names the slave that these bits reach.
-/

/-- The first argument of the call. -/
def Transaction.target : Transaction → UInt8
  | .sent addr _ => addr
  | .received addr _ _ => addr

/-- The seven bits of the address that the slaves see. -/
def Transaction.addressed : Transaction → UInt8
  | .sent addr _ => twiAddrWrite addr >>> 1
  | .received addr _ _ => twiAddrRead addr >>> 1

/-- What the transaction does to the slaves. -/
def Transaction.onBus
    (transaction : Transaction)
    (network : Network) : Network :=
  match transaction with
  | .sent _ data => network.write transaction.addressed data
  | .received _ toRecv _ =>
      (network.read transaction.addressed toRecv).2

/-- Seven bits of the argument remain. -/
theorem addressed_eq (transaction : Transaction) :
    transaction.addressed = transaction.target &&& 0x7F := by
  have sevenBits :
      ∀ addr : UInt8,
        twiAddrWrite addr >>> 1 = addr &&& 0x7F ∧
          twiAddrRead addr >>> 1 = addr &&& 0x7F :=
    forall_byte (by decide +kernel)
  cases transaction with
  | sent addr data => exact (sevenBits addr).1
  | received addr toRecv bytes => exact (sevenBits addr).2

/-! ## Slaves that are not addressed -/

section Unaddressed

variable {addr : UInt8} {network : Network} {index : Nat} {node : Node}

theorem getElem?_hear
    {event : Node → Bool × Node}
    (place : network[index]? = some node)
    (silent : event node = (false, node)) :
    (network.hear event).2[index]? = some node := by
  rw [Network.hear, List.getElem?_map, place, Option.map_some, silent]

theorem getElem?_stop
    (place : network[index]? = some node)
    (deaf : node.Deaf addr) :
    (network.map Node.stop)[index]? = some node := by
  rw [List.getElem?_map, place, Option.map_some, deaf.stop]

/-- The bytes of a write pass by. -/
theorem getElem?_writeBytes
    (data : List UInt8)
    (place : network[index]? = some node)
    (deaf : node.Deaf addr) :
    (Network.writeBytes data network)[index]? = some node := by
  induction data generalizing network with
  | nil => exact getElem?_stop place deaf
  | cons byte data inductionHypothesis =>
      have heard := getElem?_hear place (deaf.writeByte byte)
      rw [Network.writeBytes]
      rcases said : network.hear (Node.writeByte byte) with ⟨_ | _, next⟩
      · rw [said] at heard
        exact getElem?_stop heard deaf
      · rw [said] at heard
        exact inductionHypothesis heard

/-- A write to another address passes by. -/
theorem getElem?_write
    (unicast : addr ≠ 0)
    (data : List UInt8)
    (place : network[index]? = some node)
    (deaf : node.Deaf addr) :
    (network.write addr data)[index]? = some node := by
  have heard := getElem?_hear place (deaf.addressWrite unicast)
  rw [Network.write]
  rcases said : network.hear (Node.addressWrite addr) with ⟨_ | _, next⟩
  · rw [said] at heard
    exact getElem?_stop heard deaf
  · rw [said] at heard
    exact getElem?_writeBytes data heard deaf

/-- The bytes of a read pass by. -/
theorem getElem?_readBytes
    (count : Nat)
    (place : network[index]? = some node)
    (deaf : node.Deaf addr) :
    (Network.readBytes count network).2[index]? = some node := by
  induction count generalizing network with
  | zero => exact getElem?_stop place deaf
  | succ left inductionHypothesis =>
      apply inductionHypothesis
      rw [List.getElem?_map, List.getElem?_map, place, Option.map_some,
        Option.map_some, deaf.readByte]

/-- A read from another address passes by. -/
theorem getElem?_read
    (count : Nat)
    (place : network[index]? = some node)
    (deaf : node.Deaf addr) :
    (network.read addr count).2[index]? = some node := by
  have heard := getElem?_hear place deaf.addressRead
  rw [Network.read]
  rcases said : network.hear (Node.addressRead addr) with ⟨_ | _, next⟩
  · rw [said] at heard
    exact getElem?_stop heard deaf
  · rw [said] at heard
    exact getElem?_readBytes count heard deaf

end Unaddressed

/-- The transaction concerns no slave but the selected one. -/
structure OnlySelected
    (slaves : List UInt8)
    (selector : UInt8)
    (transaction : Transaction) : Prop where
  unicast : transaction.addressed ≠ 0
  noOther :
    ∀ slave ∈ slaves, slave = transaction.addressed → slave = selector
  unaffected :
    ∀ network : Network,
      network.map Node.address = slaves →
        (∀ node ∈ network, node.phase = .released) →
          ∀ (index : Nat) (node : Node),
            network[index]? = some node → node.address ≠ selector →
              (transaction.onBus network)[index]? = some node

/-- A slave with another address is not affected. -/
theorem onlySelected_of_addressed
    {slaves : List UInt8}
    {selector : UInt8}
    {transaction : Transaction}
    (unicast : transaction.addressed ≠ 0)
    (noOther :
      ∀ slave ∈ slaves, slave = transaction.addressed →
        slave = selector) :
    OnlySelected slaves selector transaction := by
  refine ⟨unicast, noOther, ?_⟩
  intro network addresses released index node place other
  have member := List.mem_of_getElem? place
  have deaf : node.Deaf transaction.addressed := by
    refine ⟨released node member, fun same => other ?_⟩
    refine noOther node.address ?_ same.symm
    rw [← addresses]
    exact List.mem_map_of_mem member
  cases transaction with
  | sent addr data => exact getElem?_write unicast data place deaf
  | received addr toRecv bytes => exact getElem?_read toRecv place deaf

/-! ## Transactions of a packet -/

/-- The packet types whose operation concerns one slave. -/
def Addressing (type : UInt8) : Prop :=
  type = ComType.getSpeed.code ∨ type = ComType.setSpeed.code ∨
    type = ComType.ping.code ∨ type = ComType.setSlaveAddr.code

section Operations

variable {σ : Type}
variable (answers : Answers) (uninitialised : Recorded σ → Memory)

/-- All transactions of such an operation go to the selector. -/
theorem effect_targets
    {p : Memory}
    (addressing : Addressing (packetGetType p))
    (recorded : Recorded σ) :
    ∃ added,
      (effect (recordingBus answers uninitialised) p
          recorded).2.history = recorded.history ++ added ∧
        (∀ transaction ∈ added,
          transaction.target = packetGetSelector p) ∧
        (added = [] ↔
          packetGetType p = ComType.ping.code ∧
            (packetGetSelector p = 0 ∨ packetGetSelector p > 127)) := by
  rcases addressing with type | type | type | type
  · refine
      ⟨exchange answers recorded.history (packetGetSelector p)
          [CommandId.getSpeed.code] 2, ?_, ?_, ?_⟩
    · simp only [effect, type]
      exact append_exchange _ _ _ _ _
    · simp [exchange, Transaction.target]
    · simp [exchange, type, ComType.code]
  · refine
      ⟨[.sent (packetGetSelector p)
          [CommandId.setSpeed.code, packetBody p 0, packetBody p 1]],
        ?_, ?_, ?_⟩
    · simp only [effect, type]
      rfl
    · simp [Transaction.target]
    · simp [type, ComType.code]
  · by_cases outOfRange :
        packetGetSelector p = 0 ∨ packetGetSelector p > 127
    · refine ⟨[], ?_, ?_, ?_⟩
      · simp [effect, type, outOfRange, ComType.code]
      · rintro transaction ⟨⟩
      · simp [type, outOfRange]
    · refine
        ⟨exchange answers recorded.history (packetGetSelector p)
            [CommandId.ping.code, packetGetSelector p] 1, ?_, ?_, ?_⟩
      · simp only [effect, type, if_neg outOfRange]
        exact append_exchange _ _ _ _ _
      · simp [exchange, Transaction.target]
      · simp [exchange, outOfRange]
  · refine
      ⟨[.sent (packetGetSelector p)
          [CommandId.setAddr.code, packetBody p 0]], ?_, ?_, ?_⟩
    · simp only [effect, type]
      rfl
    · simp [Transaction.target]
    · simp [type, ComType.code]

end Operations

/-! ## Runs of the handler -/

section Handling

variable {σ : Type}
variable (answers : Answers) (uninitialised : Recorded σ → Memory)
variable (history : List Transaction) (stack : σ)
variable {globalId : UInt8} {frame : Frame}

/-- The transactions of a handler that was called with a packet's bytes. -/
def traffic
    (globalId : UInt8)
    (frame : Frame)
    (rx : Memory)
    (turns : Nat) : List Transaction :=
  (exec (recordingBus answers uninitialised).world
    (communicationHandler turns false ⟨globalId, .receiving, rx⟩)
    (startPort frame history stack)).2.env.history

/-- An accepted packet reaches the bus in the third turn. -/
theorem traffic_eq
    (admitted : frame.Admitted globalId)
    (accepted : frame.verdict = .success)
    (request : frame.type ≠ ComType.hnd.code)
    (rx : Memory)
    (turns : Nat) :
    traffic answers uninitialised history stack globalId frame rx
        turns =
      if turns < 3 then
        history
      else
        (effect (recordingBus answers uninitialised) (frame.landed rx)
          ⟨history, stack⟩).2.history := by
  have whole :
      (startPort frame history stack).input = frame.bytes ++ [] :=
    (List.append_nil _).symm
  have drained := frame.input_portJudged whole
  have fits := frame.bodySize_landed rx
  have restFits := frame.fits
  have read :=
    exec_receiving (recordingBus answers uninitialised).world
      frame.toDatagram rx _ whole admitted
  simp only [accepted, request, ne_eq, not_true_eq_false, ↓reduceIte]
    at read
  have acked :=
    exec_ack (recordingBus answers uninitialised) globalId
      (frame.landed rx)
      (frame.portJudged (startPort frame history stack))
  have operated :=
    exec_execute (recordingBus answers uninitialised)
      ⟨packetGlobalIdIncrement globalId, .execute, frame.landed rx⟩
      rfl
      (fun _ => by
        rw [fits]
        simp only [bodyMaxLen]
        omega)
      (sentPort (frame.portJudged (startPort frame history stack))
        [packetImage globalId ComType.ack.code 0 []]
        ⟨history, stack⟩)
  rcases turns with _ | _ | _ | turns
  · rfl
  · rw [traffic, exec_communicationHandler_again read]
    rfl
  · rw [traffic, exec_communicationHandler_again read,
      exec_communicationHandler_again acked]
    rfl
  · rw [traffic, exec_communicationHandler_again read,
      exec_communicationHandler_again acked, if_neg (by omega)]
    have continued :=
      exec_communicationHandler_again operated turns true
    refine
      (congrArg (fun run => run.2.env.history) continued).trans ?_
    rcases turns with _ | turns
    · rfl
    · refine
        (congrArg (fun run => run.2.env.history)
          (exec_communicationHandler_returned
            (recordingBus answers uninitialised) _ _ ?_ turns _)).trans
          rfl
      exact drained

end Handling

/-- The selector reaches no slave but the one that it names. -/
def Names
    (slaves : List UInt8)
    (selector : UInt8) : Prop :=
  selector ≠ 0 ∧ selector ≠ 128 ∧
    (selector > 128 → selector - 128 ∉ slaves)

/-- Seven bits of a selector name the slave, or the one 128 below. -/
theorem names_iff
    (slaves : List UInt8)
    (selector : UInt8) :
    Names slaves selector ↔
      selector &&& 0x7F ≠ 0 ∧
        ∀ slave ∈ slaves, slave = selector &&& 0x7F →
          slave = selector := by
  have small :
      ∀ byte : UInt8,
        byte ≤ 127 →
          byte &&& 0x7F = byte ∧ byte ≠ 128 ∧ ¬ byte > 128 :=
    forall_byte (by decide +kernel)
  have large :
      ∀ byte : UInt8,
        ¬ byte ≤ 127 →
          byte &&& 0x7F = byte - 128 ∧ byte ≠ 0 ∧
            byte - 128 ≠ byte ∧ (byte - 128 = 0 ↔ byte = 128) ∧
            (byte ≠ 128 → byte > 128) :=
    forall_byte (by decide +kernel)
  by_cases low : selector ≤ 127
  · obtain ⟨same, notEdge, notAbove⟩ := small selector low
    simp [Names, same, notEdge, notAbove]
  · obtain ⟨masked, nonzero, moved, zero, above⟩ :=
      large selector low
    rw [Names, masked]
    constructor
    · rintro ⟨_, notEdge, nobody⟩
      refine ⟨fun edge => notEdge (zero.mp edge), ?_⟩
      rintro slave member rfl
      exact absurd member (nobody (above notEdge))
    · rintro ⟨notZero, noOther⟩
      refine
        ⟨nonzero, fun edge => notZero (zero.mpr edge),
          fun _ member => moved (noOther _ member rfl)⟩

/-- No transaction of the packet concerns another slave. -/
def ReachesOnlySelected
    (answers : Answers)
    (uninitialised : Recorded σ → Memory)
    (history : List Transaction)
    (stack : σ)
    (slaves : List UInt8)
    (globalId : UInt8)
    (frame : Frame)
    (rx : Memory) : Prop :=
  ∀ turns,
    ∃ added,
      traffic answers uninitialised history stack globalId frame rx
          turns = history ++ added ∧
        ∀ transaction ∈ added,
          OnlySelected slaves frame.selector transaction

section Reaching

variable {σ : Type}
variable {answers : Answers} {uninitialised : Recorded σ → Memory}
variable {history : List Transaction} {stack : σ}
variable {slaves : List UInt8}
variable {globalId : UInt8} {frame : Frame} {rx : Memory}

/-- Such a packet is no handshake. -/
theorem Addressing.request (addressing : Addressing frame.type) :
    frame.type ≠ ComType.hnd.code := by
  rintro handshake
  rcases addressing with type | type | type | type
  all_goals
    rw [type] at handshake
    cases handshake

/-- The transactions of the packet, from the third turn on. -/
theorem exists_traffic
    (answers : Answers)
    (uninitialised : Recorded σ → Memory)
    (history : List Transaction)
    (stack : σ)
    (rx : Memory)
    (admitted : frame.Admitted globalId)
    (accepted : frame.verdict = .success)
    (addressing : Addressing frame.type) :
    ∃ added,
      (∀ turns,
        traffic answers uninitialised history stack globalId frame rx
            turns =
          history ++ if turns < 3 then [] else added) ∧
        (∀ transaction ∈ added,
          transaction.addressed = frame.selector &&& 0x7F) ∧
        (added = [] ↔
          frame.type = ComType.ping.code ∧
            (frame.selector = 0 ∨ frame.selector > 127)) := by
  have typeField := packetGetType_landed frame rx
  have selectorField := packetGetSelector_landed frame rx
  obtain ⟨added, effects, targets, nothing⟩ :=
    effect_targets answers uninitialised (p := frame.landed rx)
      (by rw [typeField]; exact addressing) ⟨history, stack⟩
  rw [typeField, selectorField] at nothing
  rw [selectorField] at targets
  refine ⟨added, fun turns => ?_, fun transaction member => ?_, nothing⟩
  · rw [traffic_eq answers uninitialised history stack admitted accepted
      addressing.request rx, effects]
    split
    · rw [List.append_nil]
    · rfl
  · rw [addressed_eq, targets transaction member]

/-- A packet that reaches no other slave names the one it reaches. -/
theorem ReachesOnlySelected.names
    (reaches :
      ReachesOnlySelected answers uninitialised history stack slaves
        globalId frame rx)
    (admitted : frame.Admitted globalId)
    (accepted : frame.verdict = .success)
    (addressing : Addressing frame.type)
    (notPing : frame.type ≠ ComType.ping.code) :
    Names slaves frame.selector := by
  obtain ⟨added, seen, reached, nothing⟩ :=
    exists_traffic answers uninitialised history stack rx admitted
      accepted addressing
  obtain ⟨seenAdded, third, only⟩ := reaches 3
  rw [seen, if_neg (Nat.lt_irrefl 3)] at third
  have same := List.append_cancel_left third
  subst seenAdded
  rcases added with _ | ⟨transaction, rest⟩
  · exact absurd (nothing.mp rfl).1 notPing
  · have first := only transaction (by simp)
    have unicast := first.unicast
    have noOther := first.noOther
    rw [reached transaction (by simp)] at unicast noOther
    exact (names_iff slaves frame.selector).mpr ⟨unicast, noOther⟩

/-- A ping that is sent out names its slave. -/
theorem names_of_inRange
    (slaves : List UInt8)
    {selector : UInt8}
    (inRange : ¬ (selector = 0 ∨ selector > 127)) :
    Names slaves selector := by
  have bounds :
      ∀ byte : UInt8,
        ¬ (byte = 0 ∨ byte > 127) →
          byte ≠ 0 ∧ byte ≠ 128 ∧ ¬ byte > 128 :=
    forall_byte (by decide +kernel)
  obtain ⟨nonzero, notEdge, notAbove⟩ := bounds selector inRange
  exact ⟨nonzero, notEdge, fun above => absurd above notAbove⟩

end Reaching

/--
Whatever has happened before, whatever the slaves answer and whatever the memory
holds: an accepted packet that concerns one slave reaches no other slave exactly
when it is a ping or its selector names the slave.
-/
theorem reachesOnlySelected_iff
    {σ : Type}
    (answers : Answers)
    (uninitialised : Recorded σ → Memory)
    (history : List Transaction)
    (stack : σ)
    (slaves : List UInt8)
    (globalId : UInt8)
    (frame : Frame)
    (rx : Memory)
    (admitted : frame.Admitted globalId)
    (accepted : frame.verdict = .success)
    (addressing : Addressing frame.type) :
    ReachesOnlySelected answers uninitialised history stack slaves
        globalId frame rx ↔
      frame.type = ComType.ping.code ∨
        Names slaves frame.selector := by
  constructor
  · intro reaches
    by_cases ping : frame.type = ComType.ping.code
    · exact Or.inl ping
    · exact Or.inr (reaches.names admitted accepted addressing ping)
  · intro named turns
    obtain ⟨added, seen, reached, nothing⟩ :=
      exists_traffic answers uninitialised history stack rx admitted
        accepted addressing
    refine ⟨_, seen turns, fun transaction member => ?_⟩
    have sent : transaction ∈ added := by
      split at member
      · cases member
      · exact member
    have names : Names slaves frame.selector := by
      rcases named with ping | names
      · refine names_of_inRange slaves fun outOfRange => ?_
        rw [nothing.mpr ⟨ping, outOfRange⟩] at sent
        cases sent
      · exact names
    have reachable := (names_iff slaves frame.selector).mp names
    rw [← reached transaction sent] at reachable
    exact onlySelected_of_addressed reachable.1 reachable.2

/-- A packet for the slave 5 reaches no other slave. -/
theorem setSpeedFive_reachesOnlySelected_iff :
    ReachesOnlySelected nobodyAnswers Recorded.stack []
        (fun _ => 0) [5, 6] 0
        (imageFrame crc 0 ComType.setSpeed.code 5 [100, 0] (by decide))
        (fun _ => 0) ↔
      ComType.setSpeed.code = ComType.ping.code ∨ Names [5, 6] 5 :=
  reachesOnlySelected_iff nobodyAnswers Recorded.stack [] (fun _ => 0)
    [5, 6] 0
    (imageFrame crc 0 ComType.setSpeed.code 5 [100, 0] (by decide))
    (fun _ => 0) (Or.inl rfl) (by decide) (Or.inr (Or.inl rfl))

/-- A `SET_SPEED` packet with the selector 133. -/
def selector133 : Frame :=
  imageFrame crc 0 ComType.setSpeed.code 133 [100, 0] two_le_bodyMaxLen

/-- It is accepted, and sets the speed of the slave 5. -/
theorem selector133_reaches_slave5 :
    selector133.Admitted 0 ∧ selector133.verdict = .success ∧
      ¬ ReachesOnlySelected nobodyAnswers Recorded.stack []
        (fun _ => 0) [5, 6] 0 selector133 (fun _ => 0) := by
  have accepted : selector133.verdict = .success := by
    decide
  refine ⟨Or.inl rfl, accepted, fun reaches => ?_⟩
  have names :=
    reaches.names (Or.inl rfl) accepted (Or.inr (Or.inl rfl)) (by decide)
  exact names.2.2 (by decide) (by decide)

end Ammc.Master
