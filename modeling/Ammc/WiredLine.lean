import Mathlib.Data.List.Basic

namespace Ammc.WiredLine

/-!
# Lines that several drivers share

A shared line stands at its idle level as long as nobody drives it, and any
driver pulls it down from there.  Whoever reads the line sees what all drivers
have in common, and cannot tell how many they are.
-/

section Levels

variable {α : Type*} (pull : α → α → α) (idle : α)

/-- The level of the line; whoever is silent leaves it as it is. -/
def level (driven : List (Option α)) : α :=
  driven.foldl (fun line value => pull line (value.getD idle)) idle

/-- What some values have in common. -/
def common (values : List α) : α :=
  values.foldl pull idle

variable {pull idle}

/-- Pulling the line to the idle level does nothing. -/
theorem foldl_level
    [Std.LawfulRightIdentity pull idle]
    (line : α)
    (driven : List (Option α)) :
    driven.foldl (fun line value => pull line (value.getD idle)) line =
      (driven.filterMap id).foldl pull line := by
  induction driven generalizing line with
  | nil => rfl
  | cons value driven inductionHypothesis =>
      cases value with
      | none =>
          have unchanged : pull line idle = line :=
            Std.LawfulRightIdentity.right_id line
          rw [List.foldl_cons, Option.getD_none, unchanged]
          exact inductionHypothesis line
      | some value =>
          exact inductionHypothesis (pull line value)

/-- Only what the drivers do to the line counts. -/
theorem level_congr
    {ι : Type*}
    {drivers : List ι}
    {first second : ι → Option α}
    (same :
      ∀ driver ∈ drivers,
        (first driver).getD idle = (second driver).getD idle) :
    level pull idle (drivers.map first) =
      level pull idle (drivers.map second) := by
  have folded :
      ∀ values : List (Option α),
        level pull idle values =
          (values.map fun value => value.getD idle).foldl pull idle :=
    fun values => List.foldl_map.symm
  rw [folded, folded, List.map_map, List.map_map]
  exact
    congrArg (fun values => List.foldl pull idle values)
      (List.map_congr_left same)

/-- The line shows what the drivers have in common. -/
theorem level_eq_common
    [Std.LawfulRightIdentity pull idle]
    (driven : List (Option α)) :
    level pull idle driven = common pull idle (driven.filterMap id) :=
  foldl_level idle driven

/-- Some of those who share the line drive it. -/
theorem level_of_some
    [Std.LawfulRightIdentity pull idle]
    {ι : Type*}
    (concerned : ι → Prop)
    [DecidablePred concerned]
    (value : ι → α)
    (drivers : List ι) :
    level pull idle
        (drivers.map fun driver =>
          if concerned driver then some (value driver) else none) =
      common pull idle
        ((drivers.filter fun driver => concerned driver).map value) := by
  rw [level_eq_common, List.filterMap_map]
  congr 1
  induction drivers with
  | nil => rfl
  | cons driver drivers inductionHypothesis =>
      by_cases hears : concerned driver
      · simpa [hears] using inductionHypothesis
      · simpa [hears] using inductionHypothesis

/-- Drivers that agree are seen as one. -/
theorem common_of_agreed
    [Std.LawfulLeftIdentity pull idle]
    [Std.IdempotentOp pull]
    {values : List α}
    {value : α}
    (agreed : ∀ other ∈ values, other = value)
    (nonempty : values ≠ []) :
    common pull idle values = value := by
  have same : pull value value = value :=
    Std.IdempotentOp.idempotent value
  have remains :
      ∀ later : List α, (∀ other ∈ later, other = value) →
        later.foldl pull value = value := by
    intro later
    induction later with
    | nil => exact fun _ => rfl
    | cons other later inductionHypothesis =>
        intro all
        obtain ⟨first, rest⟩ := List.forall_mem_cons.mp all
        rw [List.foldl_cons, first, same]
        exact inductionHypothesis rest
  cases values with
  | nil => exact absurd rfl nonempty
  | cons first values =>
      obtain ⟨head, rest⟩ := List.forall_mem_cons.mp agreed
      have begun : pull idle value = value :=
        Std.LawfulLeftIdentity.left_id value
      rw [common, List.foldl_cons, head, begun]
      exact remains values rest

/-- What is computed from a level can be computed from what drives it. -/
theorem map_common
    {β : Type*}
    {other : β → β → β}
    {rest : β}
    {image : α → β}
    (pulled :
      ∀ first second,
        image (pull first second) = other (image first) (image second))
    (unpulled : image idle = rest)
    (values : List α) :
    image (common pull idle values) =
      common other rest (values.map image) := by
  have folded :
      ∀ line : α,
        image (values.foldl pull line) =
          (values.map image).foldl other (image line) := by
    induction values with
    | nil => exact fun _ => rfl
    | cons value values inductionHypothesis =>
        intro line
        rw [List.foldl_cons, List.map_cons, List.foldl_cons, ← pulled]
        exact inductionHypothesis (pull line value)
  rw [common, folded, unpulled, common]

end Levels

/-! ## Values that come one after the other -/

section Columns

variable {α : Type*} (pull : α → α → α) (idle : α)

/-- What is read while each driver goes through its own values. -/
def overlay
    (count : Nat)
    (sequences : List (List α)) : List α :=
  (List.range count).map fun index =>
    level pull idle (sequences.map fun values => values[index]?)

variable {pull idle}

/-- The first values are overlaid, and then the rest. -/
theorem overlay_succ
    (count : Nat)
    (sequences : List (List α)) :
    overlay pull idle (count + 1) sequences =
      level pull idle (sequences.map List.head?) ::
        overlay pull idle count (sequences.map List.tail) := by
  have first : (List.head? : List α → Option α) = fun values => values[0]? :=
    funext fun _ => List.head?_eq_getElem?
  rw [first]
  simp only [overlay, List.range_succ_eq_map, List.map_cons,
    List.map_map, Function.comp_def, List.getElem?_tail]

end Columns

end Ammc.WiredLine
