import Ammc.SlaveTransfers

namespace Ammc.Slave

open Twi

/-!
# Writes to any number of slaves

When every slave either acknowledges a write and waits for its bytes, or has no
part in it, the write does the same at each slave as if it were alone on the bus.
-/

section Writing

variable {network : Network} {node : Node} {addr : UInt8}

/-- The slave takes in the next bytes of a write. -/
def TakesIn
    (count : Nat)
    (node : Node) : Prop :=
  ∃ general got,
    Receiving general got node ∧ got.length + count < 2 ^ 16

theorem TakesIn.writeByte
    {count : Nat}
    (takes : TakesIn (count + 1) node)
    (byte : UInt8) :
    (node.writeByte byte).1 = true ∧
      TakesIn count (node.writeByte byte).2 := by
  obtain ⟨general, got, receiving, short⟩ := takes
  obtain ⟨acked, further⟩ := receiving.writeByte (by omega) byte
  refine ⟨acked, general, got ++ [byte], further, ?_⟩
  rw [List.length_append, List.length_singleton]
  omega

theorem writeByte_released
    (released : node.phase = .released)
    (byte : UInt8) :
    node.writeByte byte = (false, node) := by
  rw [Node.writeByte, released]

/-- The bytes of a write pass a slave that has no part in it. -/
theorem writeBytes_released
    (released : node.phase = .released)
    (data : List UInt8) :
    node.writeBytes data = node := by
  cases data with
  | nil => exact Node.stop_released released
  | cons byte bytes =>
      rw [Node.writeBytes, writeByte_released released]
      exact Node.stop_released released

/-- An event to which somebody answers. -/
theorem hear_some
    {event : Node → Bool × Node}
    (answered : ∃ node ∈ network, (event node).1 = true) :
    network.hear event =
      (true, network.map fun node => (event node).2) := by
  have somebody : (network.any fun node => (event node).1) = true :=
    List.any_eq_true.mpr answered
  rw [Network.hear, somebody]

/-- An event to which nobody answers. -/
theorem hear_none
    {event : Node → Bool × Node}
    (silent : ¬ ∃ node ∈ network, (event node).1 = true) :
    network.hear event =
      (false, network.map fun node => (event node).2) := by
  have nobody : (network.any fun node => (event node).1) = false := by
    rw [← Bool.not_eq_true, List.any_eq_true]
    exact silent
  rw [Network.hear, nobody]

/-- The bytes of a write reach each slave by itself. -/
theorem writeBytes_map
    {data : List UInt8}
    (parts :
      ∀ node ∈ network,
        TakesIn data.length node ∨ node.phase = .released) :
    network.writeBytes data = network.map (Node.writeBytes data) := by
  induction data generalizing network with
  | nil => rfl
  | cons byte bytes inductionHypothesis =>
      rw [Network.writeBytes]
      by_cases answered :
          ∃ node ∈ network, (node.writeByte byte).1 = true
      · rw [hear_some answered]
        have further :
            ∀ node ∈ network.map fun node => (node.writeByte byte).2,
              TakesIn bytes.length node ∨ node.phase = .released := by
          intro next member
          obtain ⟨node, inNetwork, rfl⟩ := List.mem_map.mp member
          rcases parts node inNetwork with takes | released
          · exact Or.inl (takes.writeByte byte).2
          · rw [writeByte_released released]
            exact Or.inr released
        change Network.writeBytes bytes _ = _
        rw [inductionHypothesis further, List.map_map]
        refine List.map_congr_left fun node member => ?_
        change (node.writeByte byte).2.writeBytes bytes = _
        rcases parts node member with takes | released
        · have acked := (takes.writeByte byte).1
          rw [Node.writeBytes]
          rcases step : node.writeByte byte with ⟨_ | _, next⟩
          · rw [step] at acked
            cases acked
          · rfl
        · rw [writeByte_released released,
            writeBytes_released released, writeBytes_released released]
      · rw [hear_none answered]
        change (network.map fun node => _).map Node.stop = _
        rw [List.map_map]
        refine List.map_congr_left fun node member => ?_
        change (node.writeByte byte).2.stop = _
        rcases parts node member with takes | released
        · exact
            absurd ⟨node, member, (takes.writeByte byte).1⟩ answered
        · rw [writeByte_released released, writeBytes_released released]
          exact Node.stop_released released

/-! ## Writes that somebody takes in -/

/-- The data bytes of a write, whether or not the slave acknowledges them. -/
def Node.writeAll
    (data : List UInt8)
    (node : Node) : Node :=
  (data.foldl (fun node byte => (node.writeByte byte).2) node).stop

/-- A slave that takes in the bytes is what keeps the write going. -/
theorem TakesIn.writeAll
    {data : List UInt8}
    (takes : TakesIn data.length node) :
    node.writeAll data = node.writeBytes data := by
  induction data generalizing node with
  | nil => rfl
  | cons byte bytes inductionHypothesis =>
      obtain ⟨acked, further⟩ := takes.writeByte byte
      have rest := inductionHypothesis further
      rw [Node.writeBytes]
      rcases step : node.writeByte byte with ⟨_ | _, next⟩
      · rw [step] at acked
        cases acked
      · rw [step] at rest
        refine Eq.trans ?_ rest
        rw [Node.writeAll, List.foldl_cons, step, Node.writeAll]

/-- One slave that takes in the bytes lets them pass all others. -/
theorem writeBytes_taken
    {data : List UInt8}
    (taken : ∃ node ∈ network, TakesIn data.length node) :
    network.writeBytes data = network.map (Node.writeAll data) := by
  induction data generalizing network with
  | nil => rfl
  | cons byte bytes inductionHypothesis =>
      obtain ⟨node, member, takes⟩ := taken
      obtain ⟨acked, further⟩ := takes.writeByte byte
      rw [Network.writeBytes, hear_some ⟨node, member, acked⟩]
      change Network.writeBytes bytes _ = _
      rw [inductionHypothesis
          ⟨_, List.mem_map_of_mem member, further⟩, List.map_map]
      rfl

/-- So does a slave that waits for a command. -/
theorem write_taken
    {data : List UInt8}
    (armed :
      ∃ node ∈ network, Armed node ∧ node.acksWrite addr = true)
    (short : data.length < 2 ^ 16) :
    network.write addr data =
      network.map fun node =>
        (node.addressWrite addr).2.writeAll data := by
  obtain ⟨node, member, waiting, acked⟩ := armed
  obtain ⟨answered, receiving⟩ := waiting.addressWrite acked
  have takes : TakesIn data.length (node.addressWrite addr).2 :=
    ⟨_, [], receiving, by simpa using short⟩
  rw [Network.write, hear_some ⟨node, member, answered⟩]
  change Network.writeBytes data _ = _
  rw [writeBytes_taken ⟨_, List.mem_map_of_mem member, takes⟩,
    List.map_map]
  rfl

/-! ## Writes in which every slave has its own part -/

/-- A slave that does not acknowledge a write has no part in it. -/
theorem write_refused
    (released : node.phase = .released)
    (refused : ¬ node.acksWrite addr = true)
    (data : List UInt8) :
    node.addressWrite addr = (false, node) ∧
      node.write addr data = node := by
  have passed : node.addressWrite addr = (false, node) := by
    rw [Node.addressWrite, if_neg refused]
  refine ⟨passed, ?_⟩
  rw [Node.write, passed]
  exact Node.stop_released released

/-- The slave waits for a command, or does not listen to the address. -/
def Receptive
    (addr : UInt8)
    (node : Node) : Prop :=
  (Armed node ∧ node.acksWrite addr = true) ∨
    (node.phase = .released ∧ ¬ node.acksWrite addr = true)

/-- A write reaches each slave by itself. -/
theorem write_map
    {data : List UInt8}
    (receptive : ∀ node ∈ network, Receptive addr node)
    (short : data.length < 2 ^ 16) :
    network.write addr data = network.map (Node.write addr data) := by
  rw [Network.write]
  by_cases answered :
      ∃ node ∈ network, (node.addressWrite addr).1 = true
  · rw [hear_some answered]
    have parts :
        ∀ node ∈ network.map fun node => (node.addressWrite addr).2,
          TakesIn data.length node ∨ node.phase = .released := by
      intro next member
      obtain ⟨node, inNetwork, rfl⟩ := List.mem_map.mp member
      rcases receptive node inNetwork with
        ⟨armed, acked⟩ | ⟨released, refused⟩
      · have receiving := (armed.addressWrite acked).2
        exact Or.inl ⟨_, [], receiving, by simpa using short⟩
      · rw [(write_refused released refused data).1]
        exact Or.inr released
    change Network.writeBytes data _ = _
    rw [writeBytes_map parts, List.map_map]
    refine List.map_congr_left fun node member => ?_
    change (node.addressWrite addr).2.writeBytes data = _
    rcases receptive node member with
      ⟨armed, acked⟩ | ⟨released, refused⟩
    · have taken := (armed.addressWrite acked).1
      rw [Node.write]
      rcases step : node.addressWrite addr with ⟨_ | _, next⟩
      · rw [step] at taken
        cases taken
      · rfl
    · obtain ⟨passed, unchanged⟩ := write_refused released refused data
      rw [passed, unchanged]
      exact writeBytes_released released data
  · rw [hear_none answered]
    change (network.map fun node => _).map Node.stop = _
    rw [List.map_map]
    refine List.map_congr_left fun node member => ?_
    change (node.addressWrite addr).2.stop = _
    rcases receptive node member with
      ⟨armed, acked⟩ | ⟨released, refused⟩
    · exact
        absurd ⟨node, member, (armed.addressWrite acked).1⟩ answered
    · obtain ⟨passed, unchanged⟩ := write_refused released refused data
      rw [passed, unchanged]
      exact Node.stop_released released

end Writing

end Ammc.Slave
