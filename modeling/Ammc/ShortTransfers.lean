import Mathlib.Data.List.Basic

namespace Ammc.ShortTransfers

/-!
# Loops over short transfers

A loop moves `size` items through calls that may each move fewer than they are
asked for, or fail.  It counts what has been moved in a counter that wraps at
`modulus`.  The loop runs over the results that its calls bring in turn; where
they are used up and the loop has not ended, it is still running.
-/

/--
What a call makes of its result: how much of the request it moves, and what it
does to the state at the offset that the loop has reached.
-/
structure Call (σ ρ : Type) where
  moved : Nat → ρ → Nat
  store : σ → Nat → Nat → ρ → σ

/-- A loop ends because all is moved or because a call failed. -/
inductive LoopEnd where
  | complete
  | failed
  deriving Repr, DecidableEq

/-- The result behind the last one that moved something, if the loop used it. -/
def LoopEnd.used : LoopEnd → List (Option ρ)
  | .complete => []
  | .failed => [none]

/-- The loop, with the results that it leaves. -/
def transfer
    (call : Call σ ρ)
    (modulus size : Nat)
    (done : Nat)
    (state : σ)
    (results : List (Option ρ)) :
    Option (LoopEnd × σ × List (Option ρ)) :=
  if done < size then
    match results with
    | [] => none
    | none :: rest => some (.failed, state, rest)
    | some result :: rest =>
        transfer call modulus size
          ((done + call.moved (size - done) result) % modulus)
          (call.store state done (size - done) result) rest
  else
    some (.complete, state, results)

section Loop

variable {σ ρ : Type} {call : Call σ ρ} {modulus size done : Nat}
variable {state : σ}

/-- A loop that has moved everything ends. -/
theorem transfer_complete
    (reached : size ≤ done)
    (results : List (Option ρ)) :
    transfer call modulus size done state results =
      some (.complete, state, results) := by
  rw [transfer.eq_def, if_neg (Nat.not_lt.mpr reached)]

/-- A loop that waits for a call is still running. -/
theorem transfer_waiting (below : done < size) :
    transfer call modulus size done state [] = none := by
  rw [transfer.eq_def, if_pos below]

/-- A failed call ends the loop. -/
theorem transfer_failed
    (below : done < size)
    (rest : List (Option ρ)) :
    transfer call modulus size done state (none :: rest) =
      some (.failed, state, rest) := by
  rw [transfer.eq_def, if_pos below]

/-- Any other call makes the loop go on from where it has come to. -/
theorem transfer_moved
    (below : done < size)
    (result : ρ)
    (rest : List (Option ρ)) :
    transfer call modulus size done state (some result :: rest) =
      transfer call modulus size
        ((done + call.moved (size - done) result) % modulus)
        (call.store state done (size - done) result) rest := by
  rw [transfer.eq_def, if_pos below]

/--
What every call keeps, seen together with the results used so far, holds at the
end of the loop.
-/
theorem transfer_invariant_from
    {invariant : List (Option ρ) → Nat → σ → Prop}
    (step :
      ∀ used done state result,
        done < size →
        invariant used done state →
        invariant (used ++ [some result])
          ((done + call.moved (size - done) result) % modulus)
          (call.store state done (size - done) result))
    {used results rest : List (Option ρ)}
    {ending : LoopEnd}
    {after : σ}
    (start : invariant used done state)
    (ended :
      transfer call modulus size done state results =
        some (ending, after, rest)) :
    ∃ moved reached,
      results = moved ++ ending.used ++ rest ∧
        invariant (used ++ moved) reached after ∧
        (ending = .complete ↔ size ≤ reached) := by
  induction results generalizing used done state with
  | nil =>
      by_cases below : done < size
      · rw [transfer_waiting below] at ended
        cases ended
      · have reached : size ≤ done :=
          Nat.not_lt.mp below
        rw [transfer_complete reached] at ended
        cases ended
        refine ⟨[], done, rfl, ?_, iff_of_true rfl reached⟩
        rwa [List.append_nil]
  | cons result results inductionHypothesis =>
      by_cases below : done < size
      · cases result with
        | none =>
            rw [transfer_failed below] at ended
            cases ended
            refine
              ⟨[], done, rfl, ?_,
                iff_of_false LoopEnd.noConfusion (Nat.not_le.mpr below)⟩
            rwa [List.append_nil]
        | some result =>
            rw [transfer_moved below] at ended
            obtain ⟨moved, reached, split, kept, complete⟩ :=
              inductionHypothesis
                (step used done state result below start) ended
            rw [List.append_assoc] at kept
            exact
              ⟨some result :: moved, reached,
                congrArg (some result :: ·) split, kept, complete⟩
      · have reached : size ≤ done :=
          Nat.not_lt.mp below
        rw [transfer_complete reached] at ended
        cases ended
        refine ⟨[], done, rfl, ?_, iff_of_true rfl reached⟩
        rwa [List.append_nil]

/-- A loop keeps, from its first result on, what every call keeps. -/
theorem transfer_invariant
    {invariant : List (Option ρ) → Nat → σ → Prop}
    (step :
      ∀ used done state result,
        done < size →
        invariant used done state →
        invariant (used ++ [some result])
          ((done + call.moved (size - done) result) % modulus)
          (call.store state done (size - done) result))
    {results rest : List (Option ρ)}
    {ending : LoopEnd}
    {after : σ}
    (start : invariant [] done state)
    (ended :
      transfer call modulus size done state results =
        some (ending, after, rest)) :
    ∃ moved reached,
      results = moved ++ ending.used ++ rest ∧
        invariant moved reached after ∧
        (ending = .complete ↔ size ≤ reached) :=
  transfer_invariant_from step start ended

/-- Two loops that move alike keep their states related. -/
theorem transfer_simulation
    {τ : Type}
    {other : Call τ ρ}
    (related : Nat → σ → τ → Prop)
    (alike :
      ∀ request result,
        call.moved request result = other.moved request result)
    (step :
      ∀ done state mirrored result,
        related done state mirrored →
        related ((done + call.moved (size - done) result) % modulus)
          (call.store state done (size - done) result)
          (other.store mirrored done (size - done) result))
    {mirrored : τ}
    {results rest : List (Option ρ)}
    {ending : LoopEnd}
    {after : σ}
    (start : related done state mirrored)
    (ended :
      transfer call modulus size done state results =
        some (ending, after, rest)) :
    ∃ reached mirroredAfter,
      transfer other modulus size done mirrored results =
          some (ending, mirroredAfter, rest) ∧
        related reached after mirroredAfter := by
  induction results generalizing done state mirrored with
  | nil =>
      by_cases below : done < size
      · rw [transfer_waiting below] at ended
        cases ended
      · have reached : size ≤ done :=
          Nat.not_lt.mp below
        rw [transfer_complete reached] at ended
        cases ended
        exact ⟨done, mirrored, transfer_complete reached _, start⟩
  | cons result results inductionHypothesis =>
      by_cases below : done < size
      · cases result with
        | none =>
            rw [transfer_failed below] at ended
            cases ended
            exact ⟨done, mirrored, transfer_failed below _, start⟩
        | some result =>
            rw [transfer_moved below] at ended
            rw [transfer_moved below, ← alike]
            exact
              inductionHypothesis
                (step done state mirrored result start) ended
      · have reached : size ≤ done :=
          Nat.not_lt.mp below
        rw [transfer_complete reached] at ended
        cases ended
        exact ⟨done, mirrored, transfer_complete reached _, start⟩

/-- A failed call ends every loop that comes to it. -/
theorem transfer_isSome_of_failure
    {results : List (Option ρ)}
    (failure : none ∈ results) :
    (transfer call modulus size done state results).isSome := by
  induction results generalizing done state with
  | nil => cases failure
  | cons result results inductionHypothesis =>
      by_cases below : done < size
      · cases result with
        | none => rw [transfer_failed below, Option.isSome_some]
        | some result =>
            rw [transfer_moved below]
            exact
              inductionHypothesis
                ((List.mem_cons.mp failure).resolve_left
                  (Option.some_ne_none result).symm)
      · rw [transfer_complete (Nat.not_lt.mp below), Option.isSome_some]

/--
A counter that wraps before it reaches the size never completes the loop: only
a failed call ends it.
-/
theorem transfer_of_wide
    (positive : 0 < modulus)
    (wide : modulus ≤ size)
    (inside : done < modulus)
    {results : List (Option ρ)}
    (sound : none ∉ results) :
    transfer call modulus size done state results = none := by
  have below : done < size :=
    Nat.lt_of_lt_of_le inside wide
  induction results generalizing done state with
  | nil => exact transfer_waiting below
  | cons result results inductionHypothesis =>
      rw [List.mem_cons, not_or] at sound
      cases result with
      | none => exact absurd rfl sound.1
      | some result =>
          rw [transfer_moved below]
          have wrapped :
              (done + call.moved (size - done) result) % modulus <
                modulus :=
            Nat.mod_lt _ positive
          exact
            inductionHypothesis wrapped sound.2
              (Nat.lt_of_lt_of_le wrapped wide)

end Loop

/-- What a result offers; a failed call offers nothing. -/
def offer (offered : ρ → Nat) : Option ρ → Nat
  | none => 0
  | some result => offered result

/-- What some results offer together. -/
def total (offered : ρ → Nat) : List (Option ρ) → Nat
  | [] => 0
  | result :: results => offer offered result + total offered results

@[simp] theorem total_nil (offered : ρ → Nat) :
    total offered [] = 0 :=
  rfl

@[simp] theorem total_cons
    (offered : ρ → Nat)
    (result : Option ρ)
    (results : List (Option ρ)) :
    total offered (result :: results) =
      offer offered result + total offered results :=
  rfl

@[simp] theorem total_append
    (offered : ρ → Nat)
    (first second : List (Option ρ)) :
    total offered (first ++ second) =
      total offered first + total offered second := by
  induction first with
  | nil => exact (Nat.zero_add _).symm
  | cons result first inductionHypothesis =>
      rw [List.cons_append, total_cons, total_cons, inductionHypothesis,
        Nat.add_assoc]

/-- Calls that move all that is offered, as far as it is asked for. -/
def MovesOffer
    (call : Call σ ρ)
    (size : Nat)
    (offered : ρ → Nat) : Prop :=
  ∀ request result,
    request ≤ size → call.moved request result = min request (offered result)

section Progress

variable {σ ρ : Type} {call : Call σ ρ} {modulus size done : Nat}
variable {state : σ} {offered : ρ → Nat}

/-- Below the modulus the counter does not wrap. -/
theorem counter_eq
    (narrow : size < modulus)
    (moves : MovesOffer call size offered)
    (below : done < size)
    (result : ρ) :
    (done + call.moved (size - done) result) % modulus =
      min size (done + offered result) := by
  rw [moves (size - done) result (Nat.sub_le _ _)]
  have inside : done + min (size - done) (offered result) < modulus := by
    omega
  rw [Nat.mod_eq_of_lt inside]
  omega

/-- Enough on offer ends the loop. -/
theorem transfer_isSome_of_total
    (narrow : size < modulus)
    (moves : MovesOffer call size offered)
    {results : List (Option ρ)}
    (enough : size ≤ done + total offered results) :
    (transfer call modulus size done state results).isSome := by
  induction results generalizing done state with
  | nil =>
      rw [total_nil, Nat.add_zero] at enough
      rw [transfer_complete enough, Option.isSome_some]
  | cons result results inductionHypothesis =>
      by_cases below : done < size
      · cases result with
        | none => rw [transfer_failed below, Option.isSome_some]
        | some result =>
            rw [transfer_moved below,
              counter_eq narrow moves below]
            apply inductionHypothesis
            rw [total_cons, offer] at enough
            omega
      · rw [transfer_complete (Nat.not_lt.mp below), Option.isSome_some]

/-- Too little on offer, and no failure, leave the loop running. -/
theorem transfer_of_short
    (narrow : size < modulus)
    (moves : MovesOffer call size offered)
    {results : List (Option ρ)}
    (sound : none ∉ results)
    (short : done + total offered results < size) :
    transfer call modulus size done state results = none := by
  induction results generalizing done state with
  | nil => exact transfer_waiting short
  | cons result results inductionHypothesis =>
      have below : done < size :=
        Nat.lt_of_le_of_lt (Nat.le_add_right _ _) short
      rw [List.mem_cons, not_or] at sound
      cases result with
      | none => exact absurd rfl sound.1
      | some result =>
          rw [transfer_moved below,
            counter_eq narrow moves below]
          rw [total_cons, offer] at short
          apply inductionHypothesis sound.2
          omega

end Progress

/-- The first `count` results of an endless sequence. -/
def firsts
    (results : Nat → Option ρ)
    (count : Nat) : List (Option ρ) :=
  (List.range count).map results

theorem firsts_succ
    (results : Nat → Option ρ)
    (count : Nat) :
    firsts results (count + 1) = firsts results count ++ [results count] := by
  rw [firsts, List.range_succ, List.map_append, List.map_singleton]
  rfl

/-- A result is among the first ones of its sequence. -/
theorem mem_firsts
    (results : Nat → Option ρ)
    (index : Nat) :
    results index ∈ firsts results (index + 1) := by
  rw [firsts_succ]
  exact List.mem_append_right _ (List.mem_singleton_self _)

/-- The calls fail some time, or offer enough to a counter that can hold it. -/
def Suffices
    (modulus size : Nat)
    (offered : ρ → Nat)
    (results : Nat → Option ρ) : Prop :=
  (∃ index, results index = none) ∨
    (size < modulus ∧ ∃ count, size ≤ total offered (firsts results count))

/-- A loop comes to an end exactly where its calls suffice. -/
theorem transfer_ends_iff
    {call : Call σ ρ}
    {modulus size : Nat}
    {offered : ρ → Nat}
    (positive : 0 < modulus)
    (moves : size < modulus → MovesOffer call size offered)
    (state : σ)
    (results : Nat → Option ρ) :
    (∃ count,
        (transfer call modulus size 0 state
          (firsts results count)).isSome) ↔
      Suffices modulus size offered results := by
  constructor
  · rintro ⟨count, ended⟩
    by_contra insufficient
    rw [Suffices, not_or] at insufficient
    obtain ⟨neverFails, neverEnough⟩ := insufficient
    have sound : none ∉ firsts results count := by
      intro failure
      obtain ⟨index, _, failed⟩ := List.mem_map.mp failure
      exact neverFails ⟨index, failed⟩
    have running :
        transfer call modulus size 0 state (firsts results count) =
          none := by
      by_cases narrow : size < modulus
      · have short : 0 + total offered (firsts results count) < size := by
          rw [Nat.zero_add, ← Nat.not_le]
          exact fun enough => neverEnough ⟨narrow, count, enough⟩
        exact transfer_of_short narrow (moves narrow) sound short
      · exact
          transfer_of_wide positive (Nat.not_lt.mp narrow) positive sound
    rw [running] at ended
    cases ended
  · rintro (⟨index, failed⟩ | ⟨narrow, count, enough⟩)
    · have failure : none ∈ firsts results (index + 1) :=
        failed ▸ mem_firsts results index
      exact ⟨index + 1, transfer_isSome_of_failure failure⟩
    · rw [← Nat.zero_add (total _ _)] at enough
      exact
        ⟨count, transfer_isSome_of_total narrow (moves narrow) enough⟩

end Ammc.ShortTransfers
