import Ammc.SlaveStages

namespace Ammc.Slave

open ByteMemory Twi DcMotor

/-!
# Transfers to and from one slave

A unicast transfer concerns the one slave that has the address; all others stay
as they are.  What happens at that slave is a transfer of its own.
-/

namespace Node

/-- The data bytes of a write at one slave. -/
def writeBytes : List UInt8 → Node → Node
  | [], node => node.stop
  | byte :: bytes, node =>
      match node.writeByte byte with
      | (true, node) => writeBytes bytes node
      | (false, node) => node.stop

/-- A write at one slave. -/
def write
    (addr : UInt8)
    (data : List UInt8)
    (node : Node) : Node :=
  match node.addressWrite addr with
  | (true, node) => node.writeBytes data
  | (false, node) => node.stop

/-- The data bytes of a read at one slave. -/
def readBytes : Nat → Node → List UInt8 × Node
  | 0, node => ([], node.stop)
  | left + 1, node =>
      let heard := node.readByte (left ≠ 0)
      let rest := readBytes left heard.2
      (heard.1.getD 0xFF :: rest.1, rest.2)

/-- A read at one slave. -/
def read
    (addr : UInt8)
    (count : Nat)
    (node : Node) : List UInt8 × Node :=
  match node.addressRead addr with
  | (true, node) => node.readBytes count
  | (false, node) => ([], node.stop)

theorem stop_released
    {node : Node}
    (released : node.phase = .released) :
    node.stop = node := by
  obtain ⟨controller, phase⟩ := node
  simp only at released
  subst released
  rfl

/-- The slave takes no part in transfers to the address. -/
structure Deaf
    (addr : UInt8)
    (node : Node) : Prop where
  phase : node.phase = .released
  other : addr ≠ node.address

end Node

/-! ## One slave among others -/

section Around

variable {addr : UInt8}

theorem Node.Deaf.addressWrite
    {node : Node}
    (deaf : node.Deaf addr)
    (unicast : addr ≠ 0) :
    node.addressWrite addr = (false, node) := by
  rw [Node.addressWrite, if_neg]
  simp [Node.acksWrite, unicast, deaf.other]

theorem Node.Deaf.addressRead
    {node : Node}
    (deaf : node.Deaf addr) :
    node.addressRead addr = (false, node) := by
  rw [Node.addressRead, if_neg]
  simp [Node.acksRead, deaf.other]

theorem Node.Deaf.writeByte
    {node : Node}
    (deaf : node.Deaf addr)
    (byte : UInt8) :
    node.writeByte byte = (false, node) := by
  rw [Node.writeByte, deaf.phase]

theorem Node.Deaf.readByte
    {node : Node}
    (deaf : node.Deaf addr)
    (acked : Bool) :
    node.readByte acked = (none, node) := by
  rw [Node.readByte, deaf.phase]

theorem Node.Deaf.stop
    {node : Node}
    (deaf : node.Deaf addr) :
    node.stop = node :=
  Node.stop_released deaf.phase

/-- The slaves before and behind the one that is addressed. -/
def AllDeaf
    (addr : UInt8)
    (before after : List Node) : Prop :=
  ∀ node ∈ before ++ after, node.Deaf addr

theorem map_around
    {event : Node → Node}
    {before after : List Node}
    (fixed : ∀ node ∈ before ++ after, event node = node)
    (node : Node) :
    (before ++ node :: after).map event =
      before ++ event node :: after := by
  have front : before.map event = before :=
    (List.map_congr_left fun other member =>
      fixed other (List.mem_append_left _ member)).trans
        (List.map_id' before)
  have back : after.map event = after :=
    (List.map_congr_left fun other member =>
      fixed other (List.mem_append_right _ member)).trans
        (List.map_id' after)
  rw [List.map_append, List.map_cons, front, back]

/-- An event that concerns one slave only. -/
theorem hear_around
    {event : Node → Bool × Node}
    {before after : List Node}
    (silent : ∀ node ∈ before ++ after, event node = (false, node))
    (node : Node) :
    Network.hear event (before ++ node :: after) =
      ((event node).1, before ++ (event node).2 :: after) := by
  have nobody :
      ∀ other ∈ before ++ after, (event other).1 = false :=
    fun other member => by rw [silent other member]
  have front : (before.any fun other => (event other).1) = false :=
    List.any_eq_false.mpr fun other member => by
      simp [nobody other (List.mem_append_left _ member)]
  have back : (after.any fun other => (event other).1) = false :=
    List.any_eq_false.mpr fun other member => by
      simp [nobody other (List.mem_append_right _ member)]
  have states :
      (before ++ node :: after).map (fun other => (event other).2) =
        before ++ (event node).2 :: after :=
    map_around (fun other member => by rw [silent other member]) node
  rw [Network.hear, states]
  simp [front, back]

theorem AllDeaf.stop
    {before after : List Node}
    (deaf : AllDeaf addr before after)
    (node : Node) :
    (before ++ node :: after).map Node.stop =
      before ++ node.stop :: after :=
  map_around (fun other member => (deaf other member).stop) node

/-- The data bytes of a unicast write reach one slave. -/
theorem AllDeaf.writeBytes
    {before after : List Node}
    (deaf : AllDeaf addr before after)
    (data : List UInt8)
    (node : Node) :
    Network.writeBytes data (before ++ node :: after) =
      before ++ node.writeBytes data :: after := by
  induction data generalizing node with
  | nil =>
      exact deaf.stop node
  | cons byte bytes inductionHypothesis =>
      rw [Network.writeBytes,
        hear_around fun other member =>
          (deaf other member).writeByte byte,
        Node.writeBytes]
      rcases node.writeByte byte with ⟨_ | _, next⟩
      · exact deaf.stop next
      · exact inductionHypothesis next

/-- A unicast write concerns one slave. -/
theorem AllDeaf.write
    {before after : List Node}
    (deaf : AllDeaf addr before after)
    (unicast : addr ≠ 0)
    (data : List UInt8)
    (node : Node) :
    Network.write addr data (before ++ node :: after) =
      before ++ node.write addr data :: after := by
  rw [Network.write,
    hear_around fun other member =>
      (deaf other member).addressWrite unicast,
    Node.write]
  rcases node.addressWrite addr with ⟨_ | _, next⟩
  · exact deaf.stop next
  · exact deaf.writeBytes data next

/-- Slaves that are silent leave the line as it is. -/
theorem foldl_driven_none
    (line : UInt8)
    (bytes : List (Option UInt8))
    (silent : ∀ byte ∈ bytes, byte = none) :
    bytes.foldl (fun line byte => line &&& byte.getD 0xFF) line =
      line := by
  induction bytes with
  | nil =>
      rfl
  | cons byte bytes inductionHypothesis =>
      have nothing := silent byte (by simp)
      have idle : line &&& 0xFF = line :=
        UInt8.and_neg_one
      rw [List.foldl_cons, nothing, Option.getD_none, idle]
      exact
        inductionHypothesis fun other member =>
          silent other (by simp [member])

/-- One slave that puts a byte on the bus determines it. -/
theorem driven_around
    {before after : List (Option UInt8)}
    (front : ∀ byte ∈ before, byte = none)
    (back : ∀ byte ∈ after, byte = none)
    (byte : Option UInt8) :
    Network.driven (before ++ byte :: after) = byte.getD 0xFF := by
  have idle : 0xFF &&& byte.getD 0xFF = byte.getD 0xFF :=
    UInt8.neg_one_and
  rw [Network.driven, List.foldl_append, foldl_driven_none _ _ front,
    List.foldl_cons, idle, foldl_driven_none _ _ back]

/-- The data bytes of a read come from one slave. -/
theorem AllDeaf.readBytes
    {before after : List Node}
    (deaf : AllDeaf addr before after)
    (count : Nat)
    (node : Node) :
    Network.readBytes count (before ++ node :: after) =
      ((node.readBytes count).1,
        before ++ (node.readBytes count).2 :: after) := by
  induction count generalizing node with
  | zero =>
      rw [Network.readBytes, deaf.stop node]
      rfl
  | succ left inductionHypothesis =>
      have states :
          ((before ++ node :: after).map
            fun other => (other.readByte (left ≠ 0)).2) =
            before ++ (node.readByte (left ≠ 0)).2 :: after :=
        map_around
          (fun other member => by
            rw [(deaf other member).readByte]) node
      have bytes :
          Network.driven
            ((before ++ node :: after).map
              fun other => (other.readByte (left ≠ 0)).1) =
            (node.readByte (left ≠ 0)).1.getD 0xFF := by
        rw [List.map_append, List.map_cons]
        refine driven_around ?_ ?_ _
        · intro byte member
          obtain ⟨other, inFront, rfl⟩ := List.mem_map.mp member
          rw [(deaf other (List.mem_append_left _ inFront)).readByte]
        · intro byte member
          obtain ⟨other, behind, rfl⟩ := List.mem_map.mp member
          rw [(deaf other (List.mem_append_right _ behind)).readByte]
      simp only [Network.readBytes, List.map_map, Function.comp_def,
        Node.readBytes]
      rw [states, bytes, inductionHypothesis]

/-- A read concerns one slave. -/
theorem AllDeaf.read
    {before after : List Node}
    (deaf : AllDeaf addr before after)
    (count : Nat)
    (node : Node) :
    Network.read addr count (before ++ node :: after) =
      ((node.read addr count).1,
        before ++ (node.read addr count).2 :: after) := by
  rw [Network.read,
    hear_around fun other member => (deaf other member).addressRead,
    Node.read]
  rcases node.addressRead addr with ⟨_ | _, next⟩
  · simp only
    rw [deaf.stop next]
  · exact deaf.readBytes count next

end Around

/-! ## The stages of a transfer -/

/-- A slave that waits for a command receives what is written to it. -/
theorem Receiving.writeBytes
    {general : Bool}
    {got : List UInt8}
    {node : Node}
    (receiving : Receiving general got node)
    (data : List UInt8)
    (short : got.length + data.length < 2 ^ 16) :
    Received (got ++ data) (node.writeBytes data) ∧
    (node.writeBytes data).kept = node.kept := by
  induction data generalizing got node with
  | nil =>
      rw [List.append_nil]
      exact ⟨receiving.stop, kept_stop node⟩
  | cons byte bytes inductionHypothesis =>
      rw [List.length_cons] at short
      obtain ⟨acked, further⟩ :=
        receiving.writeByte (by omega) byte
      have kept := kept_writeByte byte node
      rw [Node.writeBytes]
      rcases step : node.writeByte byte with ⟨_ | _, next⟩
      · rw [step] at acked
        cases acked
      · rw [step] at further kept
        obtain ⟨received, unchanged⟩ :=
          inductionHypothesis further (by
            rw [List.length_append, List.length_singleton]
            omega)
        rw [List.append_assoc] at received
        exact ⟨received, unchanged.trans kept⟩

theorem Armed.write
    {node : Node}
    (armed : Armed node)
    {addr : UInt8}
    (acked : node.acksWrite addr = true)
    (data : List UInt8)
    (short : data.length < 2 ^ 16) :
    Received data (node.write addr data) ∧
    (node.write addr data).kept = node.kept := by
  obtain ⟨answered, receiving⟩ := armed.addressWrite acked
  have kept := kept_addressWrite addr node
  rw [Node.write]
  rcases step : node.addressWrite addr with ⟨_ | _, next⟩
  · rw [step] at answered
    cases answered
  · rw [step] at receiving kept
    obtain ⟨received, unchanged⟩ :=
      receiving.writeBytes data (by simpa using short)
    exact ⟨received, unchanged.trans kept⟩

/-- A reply is read byte by byte, as far as the reader asks for it. -/
theorem Transmitting.readBytes
    {reply : List UInt8}
    {sent : Nat}
    {node : Node}
    (transmitting : Transmitting reply sent node)
    (left : Nat)
    (inside : sent + left < reply.length)
    (short : reply.length < 2 ^ 16) :
    (node.readBytes (left + 1)).1 =
        (reply.drop sent).take (left + 1) ∧
      Resting (node.readBytes (left + 1)).2 := by
  have here : sent < reply.length := by
    omega
  rw [List.drop_eq_getElem_cons here, List.take_succ_cons]
  induction left generalizing sent node with
  | zero =>
      have byte := transmitting.driven here false
      have resting := transmitting.last
      have stopped := Node.stop_released resting.phase
      simp only [Node.readBytes, ne_eq, not_true_eq_false, decide_false,
        byte, Option.getD_some, stopped, List.take_zero, true_and]
      exact resting
  | succ left inductionHypothesis =>
      have byte := transmitting.driven here true
      have there : sent + 1 < reply.length := by
        omega
      obtain ⟨bytes, resting⟩ :=
        inductionHypothesis (transmitting.next (by omega)) (by omega)
          there
      rw [← List.take_succ_cons, ← List.drop_eq_getElem_cons there]
        at bytes
      have more : decide (left + 1 ≠ 0) = true :=
        decide_eq_true (Nat.succ_ne_zero left)
      rw [Node.readBytes]
      simp only [more, byte, Option.getD_some, bytes, true_and]
      exact resting

/-- A reader gets as much of the reply as it asks for. -/
theorem Replying.read_take
    {reply : List UInt8}
    {node : Node}
    (replying : Replying reply node)
    {addr : UInt8}
    (acked : node.acksRead addr = true)
    {count : Nat}
    (positive : 1 ≤ count)
    (inside : count ≤ reply.length)
    (short : reply.length < 2 ^ 16) :
    (node.read addr count).1 = reply.take count ∧
      Resting (node.read addr count).2 := by
  obtain ⟨answered, transmitting⟩ := replying.addressRead acked
  obtain ⟨left, rfl⟩ := Nat.exists_eq_add_of_le' positive
  rw [Node.read]
  rcases step : node.addressRead addr with ⟨_ | _, next⟩
  · rw [step] at answered
    cases answered
  · rw [step] at transmitting
    obtain ⟨bytes, resting⟩ :=
      transmitting.readBytes left (by omega) short
    rw [List.drop_zero] at bytes
    exact ⟨bytes, resting⟩

/-- A reader that asks for the whole reply gets it. -/
theorem Replying.read
    {reply : List UInt8}
    {node : Node}
    (replying : Replying reply node)
    {addr : UInt8}
    (acked : node.acksRead addr = true)
    (nonempty : reply ≠ [])
    (short : reply.length < 2 ^ 16) :
    (node.read addr reply.length).1 = reply ∧
      Resting (node.read addr reply.length).2 := by
  have whole :=
    replying.read_take acked
      (Nat.succ_le_of_lt (List.length_pos_iff.mpr nonempty))
      (Nat.le_refl _) short
  rw [List.take_length] at whole
  exact whole

/-- A slave that waits for a command stays as it is. -/
theorem Armed.settle
    {node : Node}
    (armed : Armed node) :
    node.settle = node := by
  change node.mainStep.mainStep.mainStep = node
  rw [armed.mainStep, armed.mainStep, armed.mainStep]

/-- A slave that waits for a command and has executed a speed request. -/
theorem Received.settle_getSpeed
    {node : Node}
    (received : Received [Master.CommandId.getSpeed.code] node) :
    Replying (rpmBytes node.controller.motor.speedActual) node.settle ∧
      node.settle.kept = node.kept := by
  have executing := received.mainStep
  have beforeKept : node.mainStep.kept = node.kept :=
    kept_mainStep fun commandSize => by
      rw [received.place]
      rintro ⟨⟩
  have sampled :
      node.mainStep.controller.motor = node.controller.motor :=
    congrArg Prod.fst beforeKept
  have response := executing.response_getSpeed
  rw [sampled] at response
  rcases executing.mainStep with
    ⟨reply, same, responding⟩ | ⟨nothing, _⟩
  · rw [response, Option.some.injEq] at same
    rw [← same] at responding
    have executedKept := executing.kept_mainStep response
    have afterKept : node.mainStep.mainStep.mainStep.kept =
        node.mainStep.mainStep.kept :=
      kept_mainStep fun commandSize => by
        rw [responding.place]
        rintro ⟨⟩
    exact
      ⟨responding.mainStep,
        (afterKept.trans executedKept).trans beforeKept⟩
  · rw [response] at nothing
    cases nothing

end Ammc.Slave
