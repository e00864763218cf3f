import Mathlib.Data.List.Nodup

namespace Ammc.KeyedCells

/-!
# Cells that are reached through keys

A change is sent to all cells with a key, or to every cell.  Cells may be given
another key by their present one, and any of them may start again with the
initial value and the key that it has.

Several cells may have the same key.  Since a key is all that an event sees of a
cell, such cells are never told apart again.
-/

variable {κ ν δ : Type*}

/-- A value that is reached through a key. -/
structure Cell (κ ν : Type*) where
  key : κ
  value : ν

/-- What may happen to a row of cells. -/
inductive Event (κ δ : Type*) where
  | one (key : κ) (change : δ)
  | all (change : δ)
  | rekey (old new : κ)
  | restart (which : Nat → Bool)

/-- How changes act on values, and the value of a cell that starts again. -/
structure Rules (ν δ : Type*) where
  perform : δ → ν → ν
  initial : ν

variable [DecidableEq κ]

/-- The key after an event. -/
def Event.rename
    (key : κ) : Event κ δ → κ
  | .rekey old new => if key = old then new else key
  | _ => key

/-- The cell at a place of the row after an event. -/
def Event.act
    (rules : Rules ν δ)
    (index : Nat)
    (cell : Cell κ ν) : Event κ δ → Cell κ ν
  | .one key change =>
      if cell.key = key then
        { cell with value := rules.perform change cell.value }
      else
        cell
  | .all change =>
      { cell with value := rules.perform change cell.value }
  | .rekey old new =>
      if cell.key = old then { cell with key := new } else cell
  | .restart which =>
      if which index then
        { cell with value := rules.initial }
      else
        cell

/-- The row after some events. -/
def after
    (rules : Rules ν δ)
    (cells : List (Cell κ ν))
    (events : List (Event κ δ)) : List (Cell κ ν) :=
  events.foldl
    (fun cells event =>
      cells.mapIdx fun index cell => event.act rules index cell)
    cells

/-- The keys after some events. -/
def renamed
    (events : List (Event κ δ))
    (key : κ) : κ :=
  events.foldl Event.rename key

/-- A cell is not given a key that another one has. -/
def Event.FreeIn
    (keys : List κ) : Event κ δ → Prop
  | .rekey old new => old ∈ keys → new ∈ keys → old = new
  | _ => True

/-- No event gives a cell a key that another one has by then. -/
def Free (keys : List κ) : List (Event κ δ) → Prop
  | [] => True
  | event :: later =>
      event.FreeIn keys ∧
        Free (keys.map fun key => event.rename key) later

variable {rules : Rules ν δ}

/-- An event sees nothing of a cell but its key. -/
theorem key_act
    (index : Nat)
    (cell : Cell κ ν)
    (event : Event κ δ) :
    (event.act rules index cell).key = event.rename cell.key := by
  cases event with
  | one key change =>
      rw [Event.act]
      split
      · rfl
      · rfl
  | all change => rfl
  | rekey old new =>
      rw [Event.act, Event.rename]
      split
      · rfl
      · rfl
  | restart which =>
      rw [Event.act]
      split
      · rfl
      · rfl

/-- The keys change by themselves. -/
theorem keys_after
    (cells : List (Cell κ ν))
    (events : List (Event κ δ)) :
    (after rules cells events).map Cell.key =
      (cells.map Cell.key).map (renamed events) := by
  induction events generalizing cells with
  | nil => exact (List.map_id _).symm
  | cons event later inductionHypothesis =>
      have first :
          (cells.mapIdx fun index cell =>
              event.act rules index cell).map Cell.key =
            (cells.map Cell.key).map fun key => event.rename key := by
        apply List.ext_getElem
        · simp
        · intro index _ _
          simp [key_act]
      change (after rules _ later).map Cell.key = _
      rw [inductionHypothesis, first, List.map_map]
      rfl

/-- Cells with the same key are never told apart again. -/
theorem same_key_after
    {cells : List (Cell κ ν)}
    {first second : Nat}
    (same :
      (cells.map Cell.key)[first]? = (cells.map Cell.key)[second]?)
    (events : List (Event κ δ)) :
    ((after rules cells events).map Cell.key)[first]? =
      ((after rules cells events).map Cell.key)[second]? := by
  rw [keys_after, @List.getElem?_map _ _ (renamed events),
    @List.getElem?_map _ _ (renamed events), same]

/-- An event keeps the keys apart unless it gives one away twice. -/
theorem nodup_rename_iff
    (keys : List κ)
    (event : Event κ δ) :
    (keys.map fun key => event.rename key).Nodup ↔
      keys.Nodup ∧ event.FreeIn keys := by
  constructor
  · intro distinct
    refine ⟨distinct.of_map _, ?_⟩
    cases event with
    | one key change => trivial
    | all change => trivial
    | restart which => trivial
    | rekey old new =>
        intro oldPresent newPresent
        have together :
            (Event.rekey old new : Event κ δ).rename old =
              (Event.rekey old new : Event κ δ).rename new := by
          rw [Event.rename, Event.rename, if_pos rfl]
          split
          · rfl
          · rfl
        exact
          List.inj_on_of_nodup_map distinct oldPresent newPresent together
  · intro ⟨distinct, free⟩
    refine distinct.map_on fun first firstPresent second secondPresent => ?_
    cases event with
    | one key change => exact id
    | all change => exact id
    | restart which => exact id
    | rekey old new =>
        rw [Event.rename, Event.rename]
        split
        · rename_i firstOld
          split
          · rename_i secondOld
            exact fun _ => firstOld.trans secondOld.symm
          · rintro rfl
            rw [firstOld] at firstPresent ⊢
            exact free firstPresent secondPresent
        · split
          · rename_i secondOld
            intro firstNew
            rw [secondOld] at secondPresent ⊢
            rw [firstNew] at firstPresent ⊢
            exact (free secondPresent firstPresent).symm
          · exact id

/-- The keys are distinct as long as none is given to a second cell. -/
theorem nodup_renamed_iff
    (keys : List κ)
    (events : List (Event κ δ)) :
    (keys.map (renamed events)).Nodup ↔ keys.Nodup ∧ Free keys events := by
  induction events generalizing keys with
  | nil =>
      have unchanged : keys.map (renamed ([] : List (Event κ δ))) = keys :=
        List.map_id keys
      rw [unchanged, Free, and_true]
  | cons event later inductionHypothesis =>
      have split :
          keys.map (renamed (event :: later)) =
            (keys.map fun key => event.rename key).map
              (renamed later) := by
        rw [List.map_map]
        rfl
      rw [split, inductionHypothesis, nodup_rename_iff, Free, and_assoc]

/-- So are the keys of the cells. -/
theorem nodup_keys_after_iff
    (cells : List (Cell κ ν))
    (events : List (Event κ δ)) :
    ((after rules cells events).map Cell.key).Nodup ↔
      (cells.map Cell.key).Nodup ∧ Free (cells.map Cell.key) events := by
  rw [keys_after, nodup_renamed_iff]

end Ammc.KeyedCells
