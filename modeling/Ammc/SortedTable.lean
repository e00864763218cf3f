import Mathlib.Data.List.Nodup
import Mathlib.Data.List.Perm.Basic

namespace Ammc.SortedTable

/-!
# Sorted tables

A table is sorted once and searched by keys afterwards.  What sorting and
searching promise leaves open how they work, and what happens to items with the
same key.  Where no two items share a key, a search finds what a walk through the
table as it was given would find.
-/

variable {α κ : Type*}

/-- The items are in the order of their keys. -/
def Ordered
    (cmp : κ → κ → Ordering)
    (key : α → κ)
    (table : List α) : Prop :=
  table.Pairwise fun first second => (cmp (key first) (key second)).isLE

/-- A function that puts the items of every table in order. -/
structure Sorter
    (cmp : κ → κ → Ordering)
    (key : α → κ) where
  sort : List α → List α
  perm : ∀ table, (sort table).Perm table
  ordered : ∀ table, Ordered cmp key (sort table)

/-- A function that finds an item with a key in a table that is in order. -/
structure Searcher
    (cmp : κ → κ → Ordering)
    (key : α → κ) where
  search : κ → List α → Option α
  found :
    ∀ wanted table item,
      Ordered cmp key table →
      search wanted table = some item →
      item ∈ table ∧ cmp wanted (key item) = .eq
  missed :
    ∀ wanted table,
      Ordered cmp key table →
      search wanted table = none →
      ∀ item ∈ table, cmp wanted (key item) ≠ .eq

section Searching

variable {cmp : κ → κ → Ordering} {key : α → κ}
variable [Std.LawfulEqCmp cmp] [DecidableEq κ]

/-- Items with different keys are found by their keys. -/
theorem find?_of_mem
    {table : List α}
    (distinct : (table.map key).Nodup)
    {item : α}
    (member : item ∈ table) :
    table.find? (fun other => key other = key item) = some item := by
  induction table with
  | nil => cases member
  | cons first rest inductionHypothesis =>
      rw [List.map_cons, List.nodup_cons] at distinct
      rcases List.mem_cons.mp member with rfl | behind
      · exact List.find?_cons_of_pos (decide_eq_true rfl)
      · have different : ¬ key first = key item := by
          intro same
          exact distinct.1 (same ▸ List.mem_map_of_mem behind)
        rw [List.find?_cons_of_neg (by simpa using different)]
        exact inductionHypothesis distinct.2 behind

/-- A search in a table in order finds what a walk finds in any order. -/
theorem Searcher.search_perm
    (searcher : Searcher cmp key)
    {table sorted : List α}
    (distinct : (table.map key).Nodup)
    (perm : sorted.Perm table)
    (ordered : Ordered cmp key sorted)
    (wanted : κ) :
    searcher.search wanted sorted =
      table.find? fun item => key item = wanted := by
  cases result : searcher.search wanted sorted with
  | none =>
      have absent := searcher.missed wanted sorted ordered result
      symm
      rw [List.find?_eq_none]
      intro item member same
      have inSorted : item ∈ sorted := perm.mem_iff.mpr member
      refine absent item inSorted ?_
      rw [of_decide_eq_true same]
      exact Std.ReflCmp.compare_self
  | some item =>
      obtain ⟨inSorted, equal⟩ :=
        searcher.found wanted sorted item ordered result
      rw [Std.LawfulEqCmp.eq_of_compare equal]
      exact (find?_of_mem distinct (perm.mem_iff.mp inSorted)).symm

end Searching

/-! ## Merging and halving -/

section Halving

variable (cmp : κ → κ → Ordering) (key : α → κ)

/-- Two items may stand next to each other. -/
def inOrder (first second : α) : Bool :=
  (cmp (key first) (key second)).isLE

/-- Items are looked at in the middle of what is left of the table. -/
def halvings
    (wanted : κ)
    (table : List α) : Nat → Nat → Nat → Option α
  | 0, _, _ => none
  | fuel + 1, lower, upper =>
      if lower < upper then
        match table[(lower + upper) / 2]? with
        | none => none
        | some item =>
            match cmp wanted (key item) with
            | .lt => halvings wanted table fuel lower ((lower + upper) / 2)
            | .gt =>
                halvings wanted table fuel ((lower + upper) / 2 + 1) upper
            | .eq => some item
      else
        none

variable {cmp key}

/-- What is found is in the table, and has the key. -/
theorem halvings_found
    {wanted : κ}
    {table : List α}
    {fuel lower upper : Nat}
    {item : α}
    (found : halvings cmp key wanted table fuel lower upper = some item) :
    item ∈ table ∧ cmp wanted (key item) = .eq := by
  induction fuel generalizing lower upper with
  | zero => cases found
  | succ fuel inductionHypothesis =>
      rw [halvings] at found
      split at found
      · split at found
        · cases found
        · rename_i middle looked
          split at found
          · exact inductionHypothesis found
          · exact inductionHypothesis found
          · rename_i equal
            cases found
            exact ⟨List.mem_of_getElem? looked, equal⟩
      · cases found

variable [Std.TransCmp cmp]

theorem inOrder_trans
    (first second third : α)
    (before : inOrder cmp key first second = true)
    (behind : inOrder cmp key second third = true) :
    inOrder cmp key first third = true :=
  Std.TransCmp.isLE_trans before behind

theorem inOrder_total (first second : α) :
    (inOrder cmp key first second || inOrder cmp key second first) =
      true := by
  rw [inOrder, inOrder,
    @Std.OrientedCmp.eq_swap κ cmp _ (key second) (key first)]
  cases cmp (key first) (key second) with
  | _ => rfl

theorem ordered_mergeSort (table : List α) :
    Ordered cmp key (table.mergeSort (inOrder cmp key)) :=
  List.pairwise_mergeSort inOrder_trans inOrder_total table

/-- An item behind the middle has no smaller key. -/
theorem Ordered.isLE_of_le
    {table : List α}
    (ordered : Ordered cmp key table)
    {index later : Nat}
    {first second : α}
    (before : index ≤ later)
    (atIndex : table[index]? = some first)
    (atLater : table[later]? = some second) :
    (cmp (key first) (key second)).isLE = true := by
  rcases Nat.lt_or_eq_of_le before with earlier | rfl
  · obtain ⟨inTable, rfl⟩ := List.getElem?_eq_some_iff.mp atIndex
    obtain ⟨laterInTable, rfl⟩ := List.getElem?_eq_some_iff.mp atLater
    exact List.pairwise_iff_getElem.mp ordered _ _ _ _ earlier
  · rw [atIndex] at atLater
    cases atLater
    have same : cmp (key first) (key first) = .eq :=
      Std.ReflCmp.compare_self
    rw [same]
    rfl

/-- What is not found is not in the part that was searched. -/
theorem halvings_missed
    {wanted : κ}
    {table : List α}
    (ordered : Ordered cmp key table)
    {fuel lower upper : Nat}
    (enough : upper ≤ lower + fuel)
    (inside : upper ≤ table.length)
    (missed : halvings cmp key wanted table fuel lower upper = none)
    {index : Nat}
    {item : α}
    (atIndex : table[index]? = some item)
    (notBelow : lower ≤ index)
    (below : index < upper) :
    cmp wanted (key item) ≠ .eq := by
  induction fuel generalizing lower upper with
  | zero => omega
  | succ fuel inductionHypothesis =>
      have nonempty : lower < upper := Nat.lt_of_le_of_lt notBelow below
      rw [halvings, if_pos nonempty] at missed
      generalize half : (lower + upper) / 2 = middle at missed
      have afterLower : lower ≤ middle := by omega
      have beforeUpper : middle < upper := by omega
      split at missed
      · rename_i looked
        have outside := List.getElem?_eq_none_iff.mp looked
        omega
      · rename_i looked atMiddle
        split at missed
        · rename_i smaller
          rcases Nat.lt_or_ge index middle with left | right
          · exact
              inductionHypothesis (by omega) (by omega) missed notBelow left
          · have behind := ordered.isLE_of_le right atMiddle atIndex
            rw [Std.TransCmp.lt_of_lt_of_isLE smaller behind]
            exact Ordering.noConfusion
        · rename_i larger
          rcases Nat.lt_or_ge middle index with right | left
          · exact
              inductionHypothesis (by omega) inside missed right below
          · have before := ordered.isLE_of_le left atIndex atMiddle
            have swapped : cmp (key looked) wanted = .lt :=
              Std.OrientedCmp.lt_of_gt larger
            have less := Std.TransCmp.lt_of_isLE_of_lt before swapped
            rw [Std.OrientedCmp.gt_of_lt less]
            exact Ordering.noConfusion
        · cases missed

theorem halvings_whole
    {wanted : κ}
    {table : List α}
    (ordered : Ordered cmp key table)
    (missed :
      halvings cmp key wanted table table.length 0 table.length = none)
    (item : α)
    (member : item ∈ table) :
    cmp wanted (key item) ≠ .eq := by
  obtain ⟨index, inTable, atIndex⟩ := List.getElem_of_mem member
  exact
    halvings_missed ordered (Nat.le_of_eq (Nat.zero_add _).symm)
      (Nat.le_refl _) missed
      (List.getElem?_eq_some_iff.mpr ⟨inTable, atIndex⟩)
      (Nat.zero_le _) inTable

variable (cmp key)

/-- Tables are sorted by merging. -/
def mergeSorter : Sorter cmp key where
  sort table := table.mergeSort (inOrder cmp key)
  perm table := List.mergeSort_perm table _
  ordered := ordered_mergeSort

/-- Tables are searched by halving them. -/
def halvingSearcher : Searcher cmp key where
  search wanted table :=
    halvings cmp key wanted table table.length 0 table.length
  found _ _ _ _ := halvings_found
  missed _ _ := halvings_whole

end Halving

end Ammc.SortedTable
