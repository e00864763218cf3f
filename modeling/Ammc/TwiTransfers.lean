import Mathlib.Data.List.Forall2
import Ammc.SlaveCalls
import Ammc.TwiBus

namespace Ammc.Bus

open ByteMemory Twi Slave

/-!
# Transfers between the drivers

The interrupt handlers of the master and of the slaves keep in step for the
whole of a transfer.  A payload arrives at every slave that waits for it, and a
reply at the master.
-/

/-- The slave waits in `twi_recv`, and the address is one it listens to. -/
structure ArmedAt
    (addr : UInt8)
    (node : Node) : Prop where
  armed : Armed node
  tuned :
    ∃ ownAddress ≤ 126,
      node.controller.driver.twar =
          (ownAddress <<< (1 : UInt8)) ||| 1 ∧
        (addr = 0 ∨ addr = ownAddress)

theorem ArmedAt.acksWrite
    {addr : UInt8}
    {node : Node}
    (armedAt : ArmedAt addr node) :
    node.acksWrite addr = true := by
  obtain ⟨ownAddress, low, register, addressed⟩ := armedAt.tuned
  obtain ⟨own, general⟩ := twar_bits low
  rw [Node.acksWrite, armedAt.armed.twea, Bool.true_and]
  rcases addressed with rfl | rfl
  · simp [register, general]
  · split
    · simp [register, general]
    · simp [Node.address, register, own]

/-- The payload is in the slave's buffer, and `twi_recv` returns its length. -/
structure Delivered
    (data : List UInt8)
    (node : Node) : Prop where
  mode : node.controller.driver.mode = .ready
  stored : node.controller.driver.rxBuffer.bytes 0 data.length = data
  returned :
    node.mainStep.controller.place =
      .afterRecv (UInt8.ofNat data.length)

theorem delivered_of_received
    {data : List UInt8}
    {node : Node}
    (received : Received data node) :
    Delivered data node :=
  ⟨received.mode, received.stored, received.mainStep.place⟩

/-- A payload is acknowledged as long as some slave takes it in. -/
theorem acksAll_taken
    {data : List UInt8}
    {network : Network}
    (taken : ∃ node ∈ network, TakesIn data.length node) :
    acksAll data network = true := by
  induction data generalizing network with
  | nil => rfl
  | cons byte bytes inductionHypothesis =>
      obtain ⟨node, member, takes⟩ := taken
      obtain ⟨acked, further⟩ := takes.writeByte byte
      rw [acksAll, hear_some ⟨node, member, acked⟩]
      exact
        inductionHypothesis ⟨_, List.mem_map_of_mem member, further⟩

/-- A write to a slave that waits for it succeeds. -/
theorem writeStatus_armed
    {addr : UInt8}
    {data : List UInt8}
    {network : Network}
    (armed :
      ∃ node ∈ network, Armed node ∧ node.acksWrite addr = true)
    (short : data.length < 2 ^ 16) :
    writeStatus addr data network = success := by
  obtain ⟨node, member, waiting, acked⟩ := armed
  obtain ⟨answered, receiving⟩ := waiting.addressWrite acked
  have takes : TakesIn data.length (node.addressWrite addr).2 :=
    ⟨_, [], receiving, by simpa using short⟩
  have all :
      acksAll data
          (network.map fun other => (other.addressWrite addr).2) =
        true :=
    acksAll_taken ⟨_, List.mem_map.mpr ⟨node, member, rfl⟩, takes⟩
  rw [writeStatus, hear_some ⟨node, member, answered⟩]
  simp only [dataStatus, all, if_true]

/-- What a write does at a slave that waits for it. -/
theorem delivered_write
    {addr : UInt8}
    {data : List UInt8}
    {node : Node}
    (armedAt : ArmedAt addr node)
    (short : data.length < 2 ^ 16) :
    Delivered data ((node.addressWrite addr).2.writeAll data) := by
  obtain ⟨_, receiving⟩ := armedAt.armed.addressWrite armedAt.acksWrite
  have takes : TakesIn data.length (node.addressWrite addr).2 :=
    ⟨_, [], receiving, by simpa using short⟩
  have received := (receiving.writeBytes data (by simpa using short)).1
  rw [takes.writeAll]
  exact delivered_of_received received

/-- The payload arrives, and the master reports success. -/
def Written
    (driver : Master.TwiDriver)
    (phase : Phase)
    (network : Network)
    (addr : UInt8)
    (data : List UInt8) : Prop :=
  ∃ begun,
    driver.send addr data false = some begun ∧
      ∃ final ∈ StateTransition.eval step ⟨begun, phase, network⟩,
        final.master.mode = .ready ∧
          final.master.successful = true ∧
          List.Forall₂
            (fun before after => ArmedAt addr before → Delivered data after)
            network final.network

/-- The master has the first bytes of the reply, and both sides are ready. -/
def ReadBack
    (driver : Master.TwiDriver)
    (phase : Phase)
    (before : Network)
    (node : Node)
    (after : Network)
    (buf : Memory)
    (reply : List UInt8)
    (toRecv : Nat) : Prop :=
  ∃ begun,
    driver.recv node.address buf toRecv false = some begun ∧
      ∃ final ∈
          StateTransition.eval step
            ⟨begun, phase, before ++ node :: after⟩,
        final.master.mode = .ready ∧
          final.master.rxIdx = toRecv ∧
          final.master.rxBuffer.bytes 0 toRecv = reply.take toRecv ∧
          ∃ next,
            final.network = before ++ next :: after ∧
              next.controller.driver.mode = .ready

theorem AtRest.written
    {driver : Master.TwiDriver}
    {phase : Phase}
    (rest : AtRest driver phase)
    {addr : UInt8}
    (low : addr ≤ 126)
    {network : Network}
    {data : List UInt8}
    (armed : ∃ node ∈ network, ArmedAt addr node)
    (short : data.length ≤ Master.twTxMaxLen) :
    Written driver phase network addr data := by
  obtain ⟨node, member, armedAt⟩ := armed
  have someone :
      ∃ node ∈ network, Armed node ∧ node.acksWrite addr = true :=
    ⟨node, member, armedAt.armed, armedAt.acksWrite⟩
  have tiny : data.length < 2 ^ 16 := by
    rw [Master.twTxMaxLen] at short
    omega
  obtain ⟨begun, sent, final, ended, closed⟩ :=
    rest.send addr short network
  rw [and_0x7F low] at closed
  refine ⟨begun, sent, final, ended, closed.mode, ?_, ?_⟩
  · rw [Master.TwiDriver.successful, closed.error,
      writeStatus_armed someone tiny]
    rfl
  · rw [closed.network, write_taken someone tiny,
      List.forall₂_map_right_iff, List.forall₂_same]
    exact fun node _ armedAt => delivered_write armedAt tiny

theorem AtRest.readBack
    {driver : Master.TwiDriver}
    {phase : Phase}
    (rest : AtRest driver phase)
    {before after : Network}
    {node : Node}
    (nonzero : node.address ≠ 0)
    (low : node.address ≤ 126)
    (deaf : AllDeaf node.address before after)
    {reply : List UInt8}
    (replying : Replying reply node)
    (buf : Memory)
    {toRecv : Nat}
    (positive : 1 ≤ toRecv)
    (inside : toRecv ≤ reply.length)
    (short : reply.length ≤ txMaxLen) :
    ReadBack driver phase before node after buf reply toRecv := by
  rw [txMaxLen] at short
  have acked : node.acksRead node.address = true := by
    simp [Node.acksRead, replying.twea, nonzero]
  have fits : toRecv ≤ Master.twRxMaxLen := by
    rw [Master.twRxMaxLen]
    omega
  obtain ⟨begun, asked, final, ended, closed, count, stored⟩ :=
    rest.recv node.address buf positive fits (before ++ node :: after)
  obtain ⟨bytes, resting⟩ :=
    replying.read_take acked positive inside (by omega)
  have total : (reply.take toRecv).length = toRecv :=
    List.length_take_of_le inside
  rw [and_0x7F low, deaf.read, bytes] at closed count stored
  refine
    ⟨begun, asked, final, ended, closed.mode, count.trans total, ?_, _,
      closed.network, resting.mode⟩
  have back := buf.bytes_store_self 0 (reply.take toRecv)
  rw [total] at back
  rw [stored]
  exact back

/--
Every payload arrives at all slaves that wait for it, and every reply is read as
far as the master asks for it; both ends are ready again.
-/
theorem twiTransfers_complete
    {driver : Master.TwiDriver}
    {phase : Phase}
    (rest : AtRest driver phase) :
    (∀ (addr : UInt8) (network : Network) (data : List UInt8),
        addr ≤ 126 →
        data.length ≤ 16 →
        (∃ node ∈ network, ArmedAt addr node) →
        Written driver phase network addr data) ∧
      ∀ (before after : Network) (node : Node) (reply : List UInt8)
        (buf : Memory) (toRecv : Nat),
        node.address ≠ 0 →
        node.address ≤ 126 →
        AllDeaf node.address before after →
        Replying reply node →
        reply.length ≤ 32 →
        1 ≤ toRecv →
        toRecv ≤ reply.length →
        ReadBack driver phase before node after buf reply toRecv := by
  refine ⟨?_, ?_⟩
  · intro addr network data low short armed
    exact rest.written low armed (Nat.le_trans short (by decide))
  · intro before after node reply buf toRecv nonzero low deaf replying
      short positive inside
    exact
      rest.readBack nonzero low deaf replying buf positive inside short

/-- The master's driver after `twi_init`. -/
def idleDriver : Master.TwiDriver where
  mode := .ready
  error := success
  repStart := false
  rxBuffer _ := 0
  txBuffer _ := 0
  rxIdx := 0
  txIdx := 0
  rxSize := 0
  txSize := 0
  twcr :=
    { twint := false
      twea := false
      twsta := false
      twsto := false
      twen := true
      twie := false }
  twdr := 0xFF

/-- A slave that has armed a reply. -/
def answeringSlave
    (ownAddress : UInt8)
    (reply : List UInt8) : Node where
  controller :=
    mainStep
      { setup ownAddress fun _ => 0 with
        place := .beforeSend reply }
  phase := .released

theorem replying_answeringSlave
    (ownAddress : UInt8)
    (reply : List UInt8) :
    Replying reply (answeringSlave ownAddress reply) :=
  ⟨⟨rfl, rfl, rfl, rfl⟩, rfl, Memory.bytes_store_self _ 0 reply⟩

theorem address_answeringSlave
    {ownAddress : UInt8}
    (low : ownAddress ≤ 126)
    (reply : List UInt8) :
    (answeringSlave ownAddress reply).address = ownAddress :=
  (twar_bits low).1

/-- A general call to two slaves, and two bytes of a reply of three. -/
theorem idleDriver_transfers :
    Written idleDriver .idle
        [(bootedSlave 5).node, (bootedSlave 9).node] 0 [1, 2, 3] ∧
      ReadBack idleDriver .idle [(bootedSlave 9).node]
        (answeringSlave 5 [7, 8, 9]) [] (fun _ => 0) [7, 8, 9] 2 := by
  obtain ⟨writes, reads⟩ :=
    twiTransfers_complete
      (show AtRest idleDriver .idle from Or.inl ⟨rfl, rfl⟩)
  have own : (answeringSlave 5 [7, 8, 9]).address = 5 :=
    address_answeringSlave (by decide) _
  have other : (bootedSlave 9).node.address = 9 :=
    address_bootedSlave (by decide)
  have first : ArmedAt 0 (bootedSlave 5).node :=
    ⟨(listening_bootedSlave (by decide)).armed,
      ⟨5, by decide, rfl, Or.inl rfl⟩⟩
  refine ⟨?_, ?_⟩
  · exact
      writes 0 _ [1, 2, 3] (by decide) (by decide)
        ⟨_, List.mem_cons_self, first⟩
  · refine
      reads [(bootedSlave 9).node] [] _ [7, 8, 9] (fun _ => 0) 2 ?_ ?_ ?_
        (replying_answeringSlave 5 [7, 8, 9]) (by decide) (by decide)
        (by decide)
    · rw [own]
      decide
    · rw [own]
      decide
    · intro node member
      rw [List.append_nil, List.mem_singleton] at member
      rw [member]
      refine ⟨rfl, ?_⟩
      rw [own, other]
      decide

end Ammc.Bus
