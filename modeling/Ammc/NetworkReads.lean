import Ammc.NetworkWrites
import Ammc.WiredLine

namespace Ammc.Slave

open Twi WiredLine

/-!
# Reads from any number of slaves

All slaves that acknowledge a read put their bytes on the bus at the same time,
and every bit that one of them pulls down is down.  Each slave goes through the
read as if it were alone on the bus.
-/

instance leftIdentity_and :
    Std.LawfulLeftIdentity
      (fun first second : UInt8 => first &&& second) (0xFF : UInt8) where
  left_id _ := UInt8.neg_one_and

instance rightIdentity_and :
    Std.LawfulRightIdentity
      (fun first second : UInt8 => first &&& second) (0xFF : UInt8) where
  right_id _ := UInt8.and_neg_one

/-- The level of the bus for one byte. -/
abbrev busLevel (driven : List (Option UInt8)) : UInt8 :=
  level (fun first second => first &&& second) 0xFF driven

/-- The bytes on the bus while each slave sends its own. -/
abbrev onBus
    (count : Nat)
    (replies : List (List UInt8)) : List UInt8 :=
  overlay (fun first second => first &&& second) 0xFF count replies

theorem driven_eq_busLevel (bytes : List (Option UInt8)) :
    Network.driven bytes = busLevel bytes :=
  rfl

section Reading

variable {network : Network} {addr : UInt8}

/-- Each slave goes through the data bytes of a read by itself. -/
theorem readBytes_map
    (count : Nat)
    (network : Network) :
    network.readBytes count =
      (onBus count (network.map fun node => (node.readBytes count).1),
        network.map fun node => (node.readBytes count).2) := by
  induction count generalizing network with
  | zero => rfl
  | succ left inductionHypothesis =>
      simp only [Network.readBytes, List.map_map, inductionHypothesis,
        Function.comp_def, Node.readBytes, overlay_succ, List.head?_cons,
        List.tail_cons, driven_eq_busLevel]
      refine congrArg (fun first => (first :: _, _)) ?_
      exact level_congr fun node _ => rfl

/-- A slave without a part in the transaction sends nothing. -/
theorem readBytes_released
    {node : Node}
    (released : node.phase = .released)
    (count : Nat) :
    node.readBytes count = (List.replicate count 0xFF, node) := by
  induction count with
  | zero =>
      rw [Node.readBytes, Node.stop_released released]
      rfl
  | succ left inductionHypothesis =>
      have silent :
          node.readByte (decide (left ≠ 0)) = (none, node) := by
        rw [Node.readByte, released]
      rw [Node.readBytes, silent]
      dsimp only
      rw [inductionHypothesis]
      rfl

/-- A slave that does not acknowledge a read has no part in it. -/
theorem read_refused
    {node : Node}
    (released : node.phase = .released)
    (refused : ¬ node.acksRead addr = true)
    (count : Nat) :
    node.addressRead addr = (false, node) ∧
      node.read addr count = ([], node) := by
  have passed : node.addressRead addr = (false, node) := by
    rw [Node.addressRead, if_neg refused]
  refine ⟨passed, ?_⟩
  rw [Node.read, passed]
  dsimp only
  rw [Node.stop_released released]

/-- What a slave sends behind its address is what it sends by itself. -/
theorem readBytes_addressRead
    {node : Node}
    (released : node.phase = .released)
    (count index : Nat) :
    ((((node.addressRead addr).2.readBytes count).1[index]?).getD 0xFF =
        ((node.read addr count).1[index]?).getD 0xFF) ∧
      ((node.addressRead addr).2.readBytes count).2 =
        (node.read addr count).2 := by
  by_cases acked : node.acksRead addr = true
  · rw [Node.read, Node.addressRead, if_pos acked]
    exact ⟨rfl, rfl⟩
  · obtain ⟨passed, nothing⟩ := read_refused released acked count
    rw [passed, nothing, readBytes_released released]
    refine ⟨?_, rfl⟩
    rw [List.getElem?_replicate, List.getElem?_nil]
    split
    · rfl
    · rfl

/--
Between transactions a read is overlaid from what each slave sends, if any slave
acknowledges it.
-/
theorem read_map
    (released : ∀ node ∈ network, node.phase = .released)
    (count : Nat) :
    network.read addr count =
      (if network.any fun node => node.acksRead addr then
          onBus count
            (network.map fun node => (node.read addr count).1)
        else
          [],
        network.map fun node => (node.read addr count).2) := by
  have answers :
      ∀ node : Node, (node.addressRead addr).1 = node.acksRead addr := by
    intro node
    rw [Node.addressRead]
    split
    · rename_i acked
      exact acked.symm
    · rename_i refused
      exact (Bool.not_eq_true _ ▸ refused).symm
  rw [Network.read]
  cases answered : network.any fun node => node.acksRead addr with
  | true =>
      have somebody :
          ∃ node ∈ network, (node.addressRead addr).1 = true := by
        obtain ⟨node, member, acked⟩ := List.any_eq_true.mp answered
        exact ⟨node, member, (answers node).trans acked⟩
      rw [hear_some somebody]
      dsimp only
      rw [readBytes_map, List.map_map, List.map_map, if_pos rfl]
      refine Prod.ext ?_ ?_
      · refine List.map_congr_left fun index _ => ?_
        change busLevel _ = busLevel _
        rw [List.map_map, List.map_map]
        exact
          level_congr fun node member =>
            (readBytes_addressRead (released node member) count index).1
      · exact
          List.map_congr_left fun node member =>
            (readBytes_addressRead (released node member) count 0).2
  | false =>
      have refused :
          ∀ node ∈ network, ¬ node.acksRead addr = true :=
        List.any_eq_false.mp answered
      have silent :
          ¬ ∃ node ∈ network, (node.addressRead addr).1 = true := by
        rintro ⟨node, member, acked⟩
        exact refused node member ((answers node).symm.trans acked)
      rw [hear_none silent]
      dsimp only
      rw [List.map_map, if_neg Bool.false_ne_true]
      refine Prod.ext rfl (List.map_congr_left fun node member => ?_)
      obtain ⟨passed, nothing⟩ :=
        read_refused (released node member) (refused node member) count
      rw [Function.comp_apply, passed, nothing,
        Node.stop_released (released node member)]

end Reading

end Ammc.Slave
