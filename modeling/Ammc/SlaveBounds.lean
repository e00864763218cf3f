import Ammc.SlaveBus

namespace Ammc.Slave

open ByteMemory Twi

/-!
# The buffers of a slave under any transfer

The other side of the bus decides how long a transfer is.  The slave's handler
never compares an index with a size: it stores every byte that is written to it
and transmits as many bytes as are read from it.  This module says which
transfers stay inside the buffers.
-/

/-- `COMMAND_MAX_SIZE`, the size of the object that the main loop passes. -/
def commandMaxSize : Nat := 16

/-- What the bus presents to a slave. -/
inductive BusEvent where
  | addressWrite (addr : UInt8)
  | addressRead (addr : UInt8)
  | writeByte (byte : UInt8)
  | readByte (acked : Bool)
  | stop
  | busError
  deriving Repr, DecidableEq

/-- An access of the handler to one of its buffers. -/
inductive Access where
  | store (index : Nat)
  | transmit (index : Nat)
  deriving Repr, DecidableEq

/-- Where the byte in `TWDR` was taken from: `tx_idx - 1`, a `size_t`. -/
def Driver.loadedIdx (driver : Driver) : Nat :=
  (driver.txIdx + 65535) % 65536

namespace Node

/-- An illegal condition ends the slave's part in a transfer. -/
def busError (node : Node) : Node :=
  if node.controller.driver.twcr.twie then
    { node with phase := .released }.interrupt .busError
  else
    { node with phase := .released }

/-- An event reaches the slave. -/
def next
    (node : Node) : BusEvent → Node
  | .addressWrite addr => (node.addressWrite addr).2
  | .addressRead addr => (node.addressRead addr).2
  | .writeByte byte => (node.writeByte byte).2
  | .readByte acked => (node.readByte acked).2
  | .stop => node.stop
  | .busError => node.busError

/--
The events that concern the slave: addresses between two transfers, bytes in
one, and no `STOP` while the slave drives the bus.
-/
def Possible
    (node : Node) : BusEvent → Prop
  | .addressWrite _ | .addressRead _ => node.phase = .released
  | .writeByte _ =>
      node.phase = .receiver true ∨ node.phase = .receiver false
  | .readByte _ => node.phase = .transmitter
  | .stop => node.phase ≠ .transmitter
  | .busError => True

/-- Any sequence of events that a conforming bus can present. -/
def Conforming : Node → List BusEvent → Prop
  | _, [] => True
  | node, event :: later =>
      node.Possible event ∧ Conforming (node.next event) later

instance (node : Node) (event : BusEvent) :
    Decidable (node.Possible event) :=
  match event with
  | .addressWrite _ => inferInstanceAs (Decidable (_ = _))
  | .addressRead _ => inferInstanceAs (Decidable (_ = _))
  | .writeByte _ => inferInstanceAs (Decidable (_ ∨ _))
  | .readByte _ => inferInstanceAs (Decidable (_ = _))
  | .stop => inferInstanceAs (Decidable (_ ≠ _))
  | .busError => inferInstanceAs (Decidable True)

instance decidableConforming :
    (node : Node) → (events : List BusEvent) →
      Decidable (node.Conforming events)
  | _, [] => inferInstanceAs (Decidable True)
  | node, event :: later =>
      have : Decidable ((node.next event).Conforming later) :=
        decidableConforming (node.next event) later
      inferInstanceAs (Decidable (_ ∧ _))

/-- What the handler accesses because of an event. -/
def access
    (node : Node) : BusEvent → List Access
  | .writeByte _ =>
      if node.controller.driver.twcr.twea then
        [.store node.controller.driver.rxIdx]
      else
        []
  | .readByte _ => [.transmit node.controller.driver.loadedIdx]
  | _ => []

/-- What the handler accesses in the course of some events. -/
def accesses : Node → List BusEvent → List Access
  | _, [] => []
  | node, event :: later =>
      node.access event ++ accesses (node.next event) later

end Node

/-! ## The accesses of a transfer -/

/-- Accesses at consecutive indices, one for every byte. -/
def consecutive : Nat → Nat → List BusEvent → List Access
  | _, _, [] => []
  | rx, tx, .writeByte _ :: later =>
      .store rx :: consecutive (sizeSucc rx) tx later
  | rx, tx, .readByte _ :: later =>
      .transmit tx :: consecutive rx (sizeSucc tx) later
  | rx, tx, _ :: later => consecutive rx tx later

/--
The next byte written to the slave goes to `rx`, and the next one read from it
comes from `tx`.
-/
structure Tracks
    (rx tx : Nat)
    (node : Node) : Prop where
  stores : node.controller.driver.rxIdx = rx
  bounded : tx < 65536
  waiting :
    node.phase = .released →
      node.controller.driver.twcr.twea = true →
        node.controller.driver.txIdx = tx
  busy :
    node.phase ≠ .released →
      node.controller.driver.twcr.twea = true ∧
        node.controller.driver.twcr.twie = true
  transmitting :
    node.phase = .transmitter →
      node.controller.driver.txIdx = sizeSucc tx ∧
        node.controller.driver.twdr = node.controller.driver.txBuffer tx

namespace Tracks

variable {rx tx : Nat}
variable {node : Node}

/-- The byte on the bus is the one at the index that the handler loaded. -/
theorem loadedIdx
    (tracks : Tracks rx tx node)
    (transmitter : node.phase = .transmitter) :
    node.controller.driver.loadedIdx = tx := by
  have loaded := (tracks.transmitting transmitter).1
  have bounded := tracks.bounded
  rw [Driver.loadedIdx, loaded, sizeSucc]
  omega

/-- A slave that is not addressed any more is disabled. -/
theorem of_disabled
    (stores : node.controller.driver.rxIdx = rx)
    (bounded : tx < 65536)
    (released : node.phase = .released)
    (disabled : node.controller.driver.twcr.twea = false) :
    Tracks rx tx node := by
  refine ⟨stores, bounded, ?_, ?_, ?_⟩
  · intro _ enabled
    rw [disabled] at enabled
    cases enabled
  · intro busy
    exact absurd released busy
  · intro transmitter
    rw [released] at transmitter
    cases transmitter

/-- A slave that is asked to receive will store where it was. -/
theorem addressWrite
    (tracks : Tracks rx tx node)
    (addr : UInt8) :
    Tracks rx tx (node.addressWrite addr).2 := by
  rw [Node.addressWrite]
  split
  · have receiving :
        ∀ status, status = .srGcallAck ∨ status = .srSlaAck →
          Tracks rx tx
            ({ node with phase := .receiver (addr = 0) }.interrupt
              status) := by
      rintro status (rfl | rfl)
      · exact
          ⟨tracks.stores, tracks.bounded, by rintro ⟨⟩,
            fun _ => ⟨rfl, rfl⟩, by rintro ⟨⟩⟩
      · exact
          ⟨tracks.stores, tracks.bounded, by rintro ⟨⟩,
            fun _ => ⟨rfl, rfl⟩, by rintro ⟨⟩⟩
    apply receiving
    split
    · exact Or.inl rfl
    · exact Or.inr rfl
  · exact tracks

/-- A slave that is asked to transmit loads the byte it has come to. -/
theorem addressRead
    (tracks : Tracks rx tx node)
    (released : node.phase = .released)
    (addr : UInt8) :
    Tracks rx tx (node.addressRead addr).2 := by
  rw [Node.addressRead]
  split
  · rename_i acks
    have enabled : node.controller.driver.twcr.twea = true := by
      rw [Node.acksRead, Bool.and_eq_true, Bool.and_eq_true] at acks
      exact acks.1.1
    have here := tracks.waiting released enabled
    refine
      ⟨tracks.stores, tracks.bounded, by rintro ⟨⟩,
        fun _ => ⟨rfl, rfl⟩, fun _ => ⟨?_, ?_⟩⟩
    · change sizeSucc node.controller.driver.txIdx = _
      rw [here]
    · change
        node.controller.driver.txBuffer node.controller.driver.txIdx = _
      rw [here]
      rfl
  · exact tracks

/-- A byte that is written is stored, and the index moves on. -/
theorem writeByte
    (tracks : Tracks rx tx node)
    {general : Bool}
    (receiver : node.phase = .receiver general)
    (byte : UInt8) :
    node.access (.writeByte byte) = [.store rx] ∧
      Tracks (sizeSucc rx) tx (node.writeByte byte).2 := by
  have busy : node.phase ≠ .released := by
    rw [receiver]
    rintro ⟨⟩
  obtain ⟨enabled, _⟩ := tracks.busy busy
  have stored :
      (node.writeByte byte).2 =
        (node.latch byte).interrupt
          (if general then .srGcallDataAck else .srDataAck) := by
    rw [Node.writeByte, receiver]
    simp only [enabled, if_true]
  refine ⟨?_, ?_⟩
  · rw [Node.access, if_pos enabled, tracks.stores]
  · rw [stored]
    have next : sizeSucc node.controller.driver.rxIdx = sizeSucc rx := by
      rw [tracks.stores]
    have released : ¬ (node.latch byte).phase = .released :=
      busy
    have transmitter : ¬ (node.latch byte).phase = .transmitter := by
      rw [Node.latch, receiver]
      rintro ⟨⟩
    cases general with
    | true =>
        exact
          ⟨next, tracks.bounded, fun same => absurd same released,
            fun _ => ⟨rfl, rfl⟩, fun same => absurd same transmitter⟩
    | false =>
        exact
          ⟨next, tracks.bounded, fun same => absurd same released,
            fun _ => ⟨rfl, rfl⟩, fun same => absurd same transmitter⟩

/-- A byte that is read was loaded, and the index moves on. -/
theorem readByte
    (tracks : Tracks rx tx node)
    (transmitter : node.phase = .transmitter)
    (acked : Bool) :
    node.access (.readByte acked) = [.transmit tx] ∧
      Tracks rx (sizeSucc tx) (node.readByte acked).2 := by
  have busy : node.phase ≠ .released := by
    rw [transmitter]
    rintro ⟨⟩
  obtain ⟨enabled, _⟩ := tracks.busy busy
  obtain ⟨loaded, _⟩ := tracks.transmitting transmitter
  have bounded : sizeSucc tx < 65536 :=
    Nat.mod_lt _ (by decide)
  refine ⟨?_, ?_⟩
  · rw [Node.access, tracks.loadedIdx transmitter]
  · rw [Node.readByte, transmitter]
    cases acked with
    | true =>
        simp only [enabled, if_true]
        refine
          ⟨tracks.stores, bounded, fun same => absurd same busy,
            fun _ => ⟨rfl, rfl⟩, fun _ => ⟨?_, ?_⟩⟩
        · change sizeSucc node.controller.driver.txIdx = _
          rw [loaded]
        · change
            node.controller.driver.txBuffer
              node.controller.driver.txIdx = _
          rw [loaded]
          rfl
    | false => exact of_disabled tracks.stores bounded rfl rfl

/-- `STOP` disables a slave that was receiving. -/
theorem stop
    (tracks : Tracks rx tx node)
    (silent : node.phase ≠ .transmitter) :
    Tracks rx tx node.stop := by
  rw [Node.stop]
  cases phase : node.phase with
  | released =>
      exact
        ⟨tracks.stores, tracks.bounded, fun _ => tracks.waiting phase,
          fun busy => absurd rfl busy, by rintro ⟨⟩⟩
  | receiver general =>
      exact of_disabled tracks.stores tracks.bounded rfl rfl
  | transmitter => exact absurd phase silent

/-- An illegal condition on the bus disables the slave. -/
theorem busError
    (tracks : Tracks rx tx node) :
    Tracks rx tx node.busError := by
  rw [Node.busError]
  split
  · exact of_disabled tracks.stores tracks.bounded rfl rfl
  · rename_i quiet
    cases phase : node.phase with
    | released =>
        exact
          ⟨tracks.stores, tracks.bounded, fun _ => tracks.waiting phase,
            fun busy => absurd rfl busy, by rintro ⟨⟩⟩
    | receiver general =>
        have busy := tracks.busy (by rw [phase]; rintro ⟨⟩)
        exact absurd busy.2 quiet
    | transmitter =>
        have busy := tracks.busy (by rw [phase]; rintro ⟨⟩)
        exact absurd busy.2 quiet

end Tracks

/-- The handler walks through both buffers, one byte after the other. -/
theorem accesses_eq_consecutive
    {rx tx : Nat}
    {node : Node}
    (tracks : Tracks rx tx node)
    {events : List BusEvent}
    (conforming : node.Conforming events) :
    node.accesses events = consecutive rx tx events := by
  induction events generalizing rx tx node with
  | nil =>
      rfl
  | cons event later inductionHypothesis =>
      obtain ⟨possible, rest⟩ := conforming
      rw [Node.accesses]
      cases event with
      | addressWrite addr =>
          exact inductionHypothesis (tracks.addressWrite addr) rest
      | addressRead addr =>
          exact
            inductionHypothesis (tracks.addressRead possible addr) rest
      | writeByte byte =>
          have stored :
              node.access (.writeByte byte) = [.store rx] ∧
                Tracks (sizeSucc rx) tx (node.writeByte byte).2 := by
            rcases possible with receiver | receiver
            · exact tracks.writeByte receiver byte
            · exact tracks.writeByte receiver byte
          rw [stored.1, consecutive]
          exact congrArg _ (inductionHypothesis stored.2 rest)
      | readByte acked =>
          obtain ⟨access, moved⟩ := tracks.readByte possible acked
          rw [access, consecutive]
          exact congrArg _ (inductionHypothesis moved rest)
      | stop => exact inductionHypothesis (tracks.stop possible) rest
      | busError => exact inductionHypothesis tracks.busError rest

/-! ## The transfers that stay inside the buffers -/

/-- A byte is written to the slave. -/
def BusEvent.isWrite : BusEvent → Bool
  | .writeByte _ => true
  | _ => false

/-- A byte is read from the slave. -/
def BusEvent.isRead : BusEvent → Bool
  | .readByte _ => true
  | _ => false

/-- How many bytes are written to the slave. -/
def written (events : List BusEvent) : Nat :=
  events.countP BusEvent.isWrite

/-- How many bytes are read from the slave. -/
def fetched (events : List BusEvent) : Nat :=
  events.countP BusEvent.isRead

/--
Bytes are stored only inside the object that the main loop passes and up to the
size that `twi_recv` was given, and only bytes of the reply are transmitted.
-/
structure Inside
    (node : Node)
    (events : List BusEvent) : Prop where
  stores :
    ∀ index, .store index ∈ node.accesses events →
      index < node.controller.driver.rxSize ∧ index < commandMaxSize
  transmits :
    ∀ index, .transmit index ∈ node.accesses events →
      index < node.controller.driver.txSize

/-- One access at the front decides together with the rest. -/
theorem first_and_rest
    {index limit count : Nat}
    (small : limit < 65536)
    {rest : Prop}
    (later : rest ↔ count = 0 ∨ sizeSucc index + count ≤ limit) :
    (index < limit ∧ rest) ↔ index + (count + 1) ≤ limit := by
  rw [later]
  constructor
  · rintro ⟨here, none | more⟩
    · omega
    · rw [sizeSucc_of_lt (by omega)] at more
      omega
  · intro all
    refine ⟨by omega, Or.inr ?_⟩
    rw [sizeSucc_of_lt (by omega)]
    omega

/-- Consecutive stores stay below a limit when there are few enough. -/
theorem stores_below_iff
    {limit : Nat}
    (small : limit < 65536)
    (rx tx : Nat)
    (events : List BusEvent) :
    (∀ index, .store index ∈ consecutive rx tx events → index < limit) ↔
      written events = 0 ∨ rx + written events ≤ limit := by
  induction events generalizing rx tx with
  | nil =>
      simp [consecutive, written]
  | cons event later inductionHypothesis =>
      cases event with
      | writeByte byte =>
          have front :=
            first_and_rest small
              (inductionHypothesis (sizeSucc rx) tx)
          have count :
              written (.writeByte byte :: later) = written later + 1 :=
            List.countP_cons_of_pos rfl
          rw [count]
          simp only [consecutive, List.mem_cons, Access.store.injEq,
            forall_eq_or_imp, Nat.add_eq_zero_iff, Nat.one_ne_zero,
            and_false, false_or]
          exact front
      | readByte acked =>
          simp only [consecutive, List.mem_cons, reduceCtorEq, false_or]
          exact inductionHypothesis rx (sizeSucc tx)
      | _ => exact inductionHypothesis rx tx

/-- Consecutive loads stay below a limit when there are few enough. -/
theorem transmits_below_iff
    {limit : Nat}
    (small : limit < 65536)
    (rx tx : Nat)
    (events : List BusEvent) :
    (∀ index, .transmit index ∈ consecutive rx tx events →
        index < limit) ↔
      fetched events = 0 ∨ tx + fetched events ≤ limit := by
  induction events generalizing rx tx with
  | nil =>
      simp [consecutive, fetched]
  | cons event later inductionHypothesis =>
      cases event with
      | readByte acked =>
          have front :=
            first_and_rest small
              (inductionHypothesis rx (sizeSucc tx))
          have count :
              fetched (.readByte acked :: later) = fetched later + 1 :=
            List.countP_cons_of_pos rfl
          rw [count]
          simp only [consecutive, List.mem_cons, Access.transmit.injEq,
            forall_eq_or_imp, Nat.add_eq_zero_iff, Nat.one_ne_zero,
            and_false, false_or]
          exact front
      | writeByte byte =>
          simp only [consecutive, List.mem_cons, reduceCtorEq, false_or]
          exact inductionHypothesis (sizeSucc rx) tx
      | _ => exact inductionHypothesis rx tx

/--
A slave that is not in a transfer keeps to its buffers in whatever comes,
exactly when no more bytes are written to it than fit behind the ones received,
and no more are read from it than are left of the reply.
-/
theorem inside_iff
    (node : Node)
    (released : node.phase = .released)
    (index : node.controller.driver.txIdx < 65536)
    (reply : node.controller.driver.txSize ≤ txMaxLen)
    (events : List BusEvent)
    (conforming : node.Conforming events) :
    Inside node events ↔
      (written events = 0 ∨
          node.controller.driver.rxIdx + written events ≤
            min node.controller.driver.rxSize commandMaxSize) ∧
        (fetched events = 0 ∨
          node.controller.driver.txIdx + fetched events ≤
            node.controller.driver.txSize) := by
  have tracks :
      Tracks node.controller.driver.rxIdx node.controller.driver.txIdx
        node := by
    refine ⟨rfl, index, fun _ _ => rfl, ?_, ?_⟩
    · intro busy
      exact absurd released busy
    · intro transmitter
      rw [released] at transmitter
      cases transmitter
  have walk := accesses_eq_consecutive tracks conforming
  have object :
      min node.controller.driver.rxSize commandMaxSize < 65536 :=
    Nat.lt_of_le_of_lt (Nat.min_le_right _ _) (by decide)
  have sent : node.controller.driver.txSize < 65536 :=
    Nat.lt_of_le_of_lt reply (by decide)
  rw [← stores_below_iff object _ node.controller.driver.txIdx,
    ← transmits_below_iff sent node.controller.driver.rxIdx, ← walk]
  simp only [Nat.lt_min]
  exact
    ⟨fun inside => ⟨inside.stores, inside.transmits⟩,
      fun both => ⟨both.1, both.2⟩⟩

/-- The slave with address 5 when it waits for its first command. -/
def waitingFive : Node where
  controller := mainStep (setup 5 fun _ => 0)
  phase := .released

/-- A command of 17 bytes. -/
def longCommand : List BusEvent :=
  .addressWrite 5 :: List.replicate 17 (.writeByte 0)

theorem longCommand_inside_iff :
    Inside waitingFive longCommand ↔
      (written longCommand = 0 ∨
          waitingFive.controller.driver.rxIdx + written longCommand ≤
            min waitingFive.controller.driver.rxSize commandMaxSize) ∧
        (fetched longCommand = 0 ∨
          waitingFive.controller.driver.txIdx + fetched longCommand ≤
            waitingFive.controller.driver.txSize) :=
  inside_iff waitingFive rfl (by decide) (by decide) longCommand
    (by decide +kernel)

/-- The seventeenth byte is stored behind the object of the main loop. -/
theorem longCommand_outside :
    ¬ Inside waitingFive longCommand := by
  intro inside
  have stored :
      Access.store 16 ∈ waitingFive.accesses longCommand := by
    decide +kernel
  exact absurd (inside.stores 16 stored).2 (by decide)

end Ammc.Slave
