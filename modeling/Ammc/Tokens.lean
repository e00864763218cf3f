import Mathlib.Data.List.Basic
import Mathlib.Data.Set.Card

namespace Ammc.Tokens

/-!
# Tokens of a text

Separators cut a text into tokens.  A token is a maximal run of characters that
are not separators; between two runs there is at least one separator, which
bounds their number.
-/

section Tokens

variable {α : Type} {separator : α → Bool}

/-- The nonempty pieces between the separators. -/
def tokens
    (separator : α → Bool)
    (text : List α) : List (List α) :=
  (text.splitOnP separator).filter fun piece => !piece.isEmpty

/-- Nonempty, and without separators. -/
structure IsToken
    (separator : α → Bool)
    (token : List α) : Prop where
  nonempty : token ≠ []
  ordinary : ∀ c ∈ token, separator c = false

theorem tokens_nil : tokens separator [] = [] := by
  rw [tokens, List.splitOnP_nil]
  rfl

theorem tokens_cons_of_separator
    {c : α}
    (isSeparator : separator c = true)
    (text : List α) :
    tokens separator (c :: text) = tokens separator text := by
  rw [tokens, List.splitOnP_cons_eq_if_modifyHead, if_pos isSeparator]
  rfl

/-- A text may be one token. -/
theorem tokens_of_isToken
    {token : List α}
    (isToken : IsToken separator token) :
    tokens separator token = [token] := by
  rw [tokens, List.splitOnP_eq_singleton isToken.ordinary]
  simp [isToken.nonempty]

/-- A token ends at the first separator. -/
theorem tokens_append
    {token : List α}
    {c : α}
    (isToken : IsToken separator token)
    (isSeparator : separator c = true)
    (text : List α) :
    tokens separator (token ++ c :: text) =
      token :: tokens separator text := by
  rw [tokens,
    List.splitOnP_append_cons_of_forall_mem isToken.ordinary c isSeparator]
  simp [isToken.nonempty, tokens]

/-- Where a token begins and ends. -/
theorem IsToken.cut
    {token rest : List α}
    (isToken : IsToken separator token)
    (stops : ∀ c, rest[0]? = some c → separator c = true) :
    (token ++ rest).dropWhile separator = token ++ rest ∧
      (token ++ rest).takeWhile (fun c => !separator c) = token ∧
      (token ++ rest).dropWhile (fun c => !separator c) = rest := by
  have all : ∀ c ∈ token, (!separator c) = true := by
    intro c member
    rw [isToken.ordinary c member]
    rfl
  refine ⟨?_, ?_, ?_⟩
  · cases token with
    | nil => exact absurd rfl isToken.nonempty
    | cons c token =>
        have ordinary : ¬ separator c = true :=
          Bool.eq_false_iff.mp (isToken.ordinary c List.mem_cons_self)
        rw [List.cons_append, List.dropWhile_cons_of_neg ordinary]
  · rw [List.takeWhile_append_of_pos all]
    cases rest with
    | nil => exact List.append_nil token
    | cons c rest =>
        rw [List.takeWhile_cons, stops c rfl]
        exact List.append_nil token
  · rw [List.dropWhile_append_of_pos all]
    cases rest with
    | nil => rfl
    | cons c rest =>
        rw [List.dropWhile_cons, stops c rfl]
        rfl

/--
Induction over a text: separators are skipped, and a token reaches up to a
separator or to the end.
-/
@[elab_as_elim]
theorem token_induction
    (separator : α → Bool)
    {motive : List α → Prop}
    (nil : motive [])
    (skip :
      ∀ (c : α) (text : List α),
        separator c = true → motive text → motive (c :: text))
    (last :
      ∀ token : List α, IsToken separator token → motive token)
    (next :
      ∀ (token : List α) (c : α) (text : List α),
        IsToken separator token →
          separator c = true → motive text → motive (token ++ c :: text))
    (text : List α) :
    motive text := by
  -- What was read of a token is generalised, so that the list can be walked.
  have general :
      ∀ (text token : List α),
        (∀ c ∈ token, separator c = false) →
          motive text ∧ (token ≠ [] → motive (token ++ text)) := by
    intro text
    induction text with
    | nil =>
        intro token ordinary
        refine ⟨nil, fun nonempty => ?_⟩
        rw [List.append_nil]
        exact last token ⟨nonempty, ordinary⟩
    | cons c text inductionHypothesis =>
        intro token ordinary
        have rest : motive text :=
          (inductionHypothesis [] (by simp)).1
        cases kind : separator c with
        | true =>
            exact
              ⟨skip c text kind rest, fun nonempty =>
                next token c text ⟨nonempty, ordinary⟩ kind rest⟩
        | false =>
            have extended (token : List α)
                (ordinary : ∀ c ∈ token, separator c = false) :
                motive (token ++ c :: text) := by
              have longer :
                  ∀ d ∈ token ++ [c], separator d = false := by
                intro d member
                rcases List.mem_append.mp member with earlier | new
                · exact ordinary d earlier
                · rw [List.mem_singleton.mp new]
                  exact kind
              have reached :=
                (inductionHypothesis (token ++ [c]) longer).2 (by simp)
              rwa [List.append_assoc] at reached
            exact
              ⟨extended [] (by simp), fun _ => extended token ordinary⟩
  exact (general text [] (by simp)).1

/-! ## Maximal runs -/

/-- From one position up to another there is a run that cannot be extended. -/
structure MaximalRun
    (separator : α → Bool)
    (text : List α)
    (run : Nat × Nat) : Prop where
  nonempty : run.1 < run.2
  inside : run.2 ≤ text.length
  ordinary :
    ∀ index c, run.1 ≤ index → index < run.2 →
      text[index]? = some c → separator c = false
  begins :
    ∀ index c, index + 1 = run.1 →
      text[index]? = some c → separator c = true
  ends :
    ∀ c, text[run.2]? = some c → separator c = true

/-- The maximal runs of a text. -/
def runs
    (separator : α → Bool)
    (text : List α) : Set (Nat × Nat) :=
  {run | MaximalRun separator text run}

/-- The same run, seen from further left. -/
def moved
    (count : Nat)
    (run : Nat × Nat) : Nat × Nat :=
  (run.1 + count, run.2 + count)

theorem moved_injective (count : Nat) :
    Function.Injective (moved count) := by
  rintro ⟨start, stop⟩ ⟨start', stop'⟩ same
  rw [moved, moved, Prod.mk.injEq] at same
  rw [Prod.mk.injEq]
  omega

theorem runs_nil : runs separator ([] : List α) = ∅ := by
  ext ⟨start, stop⟩
  rw [runs, Set.mem_ofPred_eq, Set.mem_empty_iff_false, iff_false]
  intro run
  have nonempty : start < stop :=
    run.nonempty
  have inside : stop ≤ 0 :=
    run.inside
  omega

/-- No separator is in a run. -/
theorem MaximalRun.false_of_separator
    {text : List α}
    {run : Nat × Nat}
    (isRun : MaximalRun separator text run)
    {index : Nat}
    (low : run.1 ≤ index)
    (high : index < run.2)
    (separates : ∀ c, text[index]? = some c → separator c = true) :
    False := by
  have inside : index < text.length :=
    Nat.lt_of_lt_of_le high isRun.inside
  have found : text[index]? = some text[index] :=
    List.getElem?_eq_getElem inside
  have ordinary := isRun.ordinary index text[index] low high found
  rw [separates _ found] at ordinary
  cases ordinary

/-- A run behind something else is a run of what is behind it. -/
theorem maximalRun_append_iff
    (leading : List α)
    {text : List α}
    {start stop : Nat}
    (apart :
      start = 0 →
        ∀ c, leading[leading.length - 1]? = some c → separator c = true) :
    MaximalRun separator (leading ++ text)
        (start + leading.length, stop + leading.length) ↔
      MaximalRun separator text (start, stop) := by
  have behind :
      ∀ index,
        (leading ++ text)[index + leading.length]? = text[index]? := by
    intro index
    rw [List.getElem?_append_right (Nat.le_add_left _ _),
      Nat.add_sub_cancel]
  constructor
  · intro run
    refine ⟨?_, ?_, ?_, ?_, ?_⟩
    · have nonempty : start + leading.length < stop + leading.length :=
        run.nonempty
      exact Nat.lt_of_add_lt_add_right nonempty
    · have inside := run.inside
      rw [List.length_append] at inside
      dsimp only at inside ⊢
      omega
    · intro index c low high found
      refine
        run.ordinary (index + leading.length) c
          (Nat.add_le_add_right low _) (Nat.add_lt_add_right high _) ?_
      rw [behind, found]
    · intro index c first found
      refine run.begins (index + leading.length) c ?_ ?_
      · dsimp only at first ⊢
        omega
      · rw [behind, found]
    · intro c found
      refine run.ends c ?_
      rw [behind, found]
  · intro run
    refine ⟨?_, ?_, ?_, ?_, ?_⟩
    · exact Nat.add_lt_add_right run.nonempty _
    · have inside := run.inside
      rw [List.length_append]
      dsimp only at inside ⊢
      omega
    · intro index c low high found
      dsimp only at low high
      have same : index = index - leading.length + leading.length := by
        omega
      rw [same, behind] at found
      refine run.ordinary _ c ?_ ?_ found
      · dsimp only
        omega
      · dsimp only
        omega
    · intro index c first found
      dsimp only at first
      by_cases reached : leading.length ≤ index
      · have same : index = index - leading.length + leading.length := by
          omega
        rw [same, behind] at found
        refine run.begins _ c ?_ found
        dsimp only
        omega
      · rw [List.getElem?_append_left (by omega)] at found
        refine apart (by omega) c ?_
        have same : leading.length - 1 = index := by
          omega
        rw [same, found]
    · intro c found
      dsimp only at found
      rw [behind] at found
      exact run.ends c found

/-- A leading separator belongs to no run. -/
theorem runs_cons_of_separator
    {c : α}
    (isSeparator : separator c = true)
    (text : List α) :
    runs separator (c :: text) =
      Set.image (moved 1) (runs separator text) := by
  have shifted :
      ∀ start stop,
        MaximalRun separator (c :: text) (start + 1, stop + 1) ↔
          MaximalRun separator text (start, stop) := by
    intro start stop
    refine maximalRun_append_iff [c] ?_
    rintro _ d ⟨⟩
    exact isSeparator
  ext ⟨start, stop⟩
  rw [Set.mem_image]
  constructor
  · intro run
    have nonempty : start < stop :=
      MaximalRun.nonempty run
    have positive : start ≠ 0 := by
      rintro rfl
      refine
        MaximalRun.false_of_separator run (Nat.le_refl 0) nonempty ?_
      rintro d ⟨⟩
      exact isSeparator
    obtain ⟨start, rfl⟩ := Nat.exists_eq_succ_of_ne_zero positive
    obtain ⟨stop, rfl⟩ :=
      Nat.exists_eq_succ_of_ne_zero (Nat.ne_zero_of_lt nonempty)
    exact ⟨(start, stop), (shifted start stop).mp run, rfl⟩
  · rintro ⟨⟨first, last⟩, run, same⟩
    cases same
    exact (shifted first last).mpr run

/-- The characters of a leading token. -/
theorem IsToken.getElem?_append
    {token : List α}
    (isToken : IsToken separator token)
    (text : List α)
    {index : Nat}
    (small : index < token.length) :
    ∃ c, (token ++ text)[index]? = some c ∧ separator c = false := by
  refine ⟨token[index], ?_, isToken.ordinary _ (List.getElem_mem small)⟩
  rw [List.getElem?_append_left small, List.getElem?_eq_getElem small]

/-- Behind a token there is a separator, or nothing. -/
theorem separator_behind
    {token text : List α}
    (stops : ∀ c, text[0]? = some c → separator c = true)
    (c : α)
    (found : (token ++ text)[token.length]? = some c) :
    separator c = true := by
  rw [List.getElem?_append_right (Nat.le_refl _), Nat.sub_self] at found
  exact stops c found

theorem maximalRun_token
    {token text : List α}
    (isToken : IsToken separator token)
    (stops : ∀ c, text[0]? = some c → separator c = true) :
    MaximalRun separator (token ++ text) (0, token.length) where
  nonempty := List.length_pos_iff.mpr isToken.nonempty
  inside := by
    rw [List.length_append]
    exact Nat.le_add_right _ _
  ordinary index c _ small found := by
    obtain ⟨d, same, ordinary⟩ := isToken.getElem?_append text small
    rw [found, Option.some.injEq] at same
    rw [same]
    exact ordinary
  begins := by
    rintro index c ⟨⟩
  ends := separator_behind stops

/-- A run that begins in the leading token is the token. -/
theorem eq_token_of_early
    {token text : List α}
    (isToken : IsToken separator token)
    (stops : ∀ c, text[0]? = some c → separator c = true)
    {start stop : Nat}
    (run : MaximalRun separator (token ++ text) (start, stop))
    (early : start < token.length) :
    start = 0 ∧ stop = token.length := by
  constructor
  · by_contra later
    obtain ⟨c, found, ordinary⟩ :=
      isToken.getElem?_append text
        (Nat.lt_of_le_of_lt (Nat.sub_le start 1) early)
    have separates :=
      run.begins (start - 1) c
        (Nat.sub_add_cancel (Nat.pos_of_ne_zero later)) found
    rw [ordinary] at separates
    cases separates
  · rcases Nat.lt_trichotomy stop token.length with short | exactly | long
    · obtain ⟨c, found, ordinary⟩ := isToken.getElem?_append text short
      have separates := run.ends c found
      rw [ordinary] at separates
      cases separates
    · exact exactly
    · exact
        (run.false_of_separator (Nat.le_of_lt early) long
          (separator_behind stops)).elim

/-- Any other run is behind the token. -/
theorem maximalRun_behind
    {token text : List α}
    (stops : ∀ c, text[0]? = some c → separator c = true)
    {start stop : Nat}
    (run : MaximalRun separator (token ++ text) (start, stop))
    (late : token.length ≤ start) :
    MaximalRun separator text
      (start - token.length, stop - token.length) := by
  have nonempty : start < stop :=
    run.nonempty
  have notNext : start ≠ token.length := by
    rintro rfl
    exact
      run.false_of_separator (Nat.le_refl _) nonempty
        (separator_behind stops)
  refine (maximalRun_append_iff token ?_).mp ?_
  · intro zero
    omega
  · rw [Nat.sub_add_cancel late, Nat.sub_add_cancel (by omega)]
    exact run

/-- A leading token is a run, and the others are behind it. -/
theorem runs_append
    {token text : List α}
    (isToken : IsToken separator token)
    (stops : ∀ c, text[0]? = some c → separator c = true) :
    runs separator (token ++ text) =
      insert (0, token.length)
        (Set.image (moved token.length) (runs separator text)) := by
  ext ⟨start, stop⟩
  rw [Set.mem_insert_iff, Set.mem_image]
  constructor
  · intro run
    have nonempty : start < stop :=
      MaximalRun.nonempty run
    rcases Nat.lt_or_ge start token.length with early | late
    · left
      obtain ⟨first, last⟩ := eq_token_of_early isToken stops run early
      rw [first, last]
    · right
      refine
        ⟨(start - token.length, stop - token.length),
          maximalRun_behind stops run late, ?_⟩
      rw [moved, Prod.mk.injEq]
      dsimp only
      omega
  · rintro (same | ⟨⟨first, last⟩, run, same⟩)
    · cases same
      exact maximalRun_token isToken stops
    · cases same
      refine (maximalRun_append_iff token ?_).mpr run
      rintro rfl
      -- A run cannot begin at the separator behind the token.
      have nonempty : 0 < last :=
        MaximalRun.nonempty run
      exact
        (MaximalRun.false_of_separator run (Nat.le_refl 0) nonempty
          stops).elim

/-- A run in front of the others is one more. -/
theorem encard_insert_moved
    {count : Nat}
    (positive : 0 < count)
    (others : Set (Nat × Nat)) :
    (insert (0, count) (Set.image (moved count) others)).encard =
      others.encard + 1 := by
  have new : (0, count) ∉ Set.image (moved count) others := by
    rintro ⟨run, _, same⟩
    rw [moved, Prod.mk.injEq] at same
    omega
  rw [Set.encard_insert_of_notMem new,
    (moved_injective count).encard_image]

/-- There are as many maximal runs as tokens. -/
theorem encard_runs
    (separator : α → Bool)
    (text : List α) :
    (runs separator text).encard = (tokens separator text).length := by
  induction text using token_induction separator with
  | nil =>
      rw [runs_nil, tokens_nil, Set.encard_empty]
      rfl
  | skip c text isSeparator inductionHypothesis =>
      rw [runs_cons_of_separator isSeparator,
        tokens_cons_of_separator isSeparator,
        (moved_injective 1).encard_image, inductionHypothesis]
  | last token isToken =>
      have stops :
          ∀ c, ([] : List α)[0]? = some c → separator c = true := by
        rintro c ⟨⟩
      have alone := runs_append isToken stops
      rw [List.append_nil, runs_nil] at alone
      rw [alone, tokens_of_isToken isToken,
        encard_insert_moved (List.length_pos_iff.mpr isToken.nonempty),
        Set.encard_empty]
      rfl
  | next token c text isToken isSeparator inductionHypothesis =>
      have stops :
          ∀ d, (c :: text)[0]? = some d → separator d = true := by
        rintro d ⟨⟩
        exact isSeparator
      rw [runs_append isToken stops, tokens_append isToken isSeparator,
        encard_insert_moved (List.length_pos_iff.mpr isToken.nonempty),
        runs_cons_of_separator isSeparator,
        (moved_injective 1).encard_image, inductionHypothesis]
      rfl

/-! ## How many tokens there can be -/

/-- Single characters with single separators between them. -/
inductive Alternating (separator : α → Bool) : List α → Prop where
  | last
      {c : α}
      (ordinary : separator c = false) :
      Alternating separator [c]
  | more
      {c d : α}
      {text : List α}
      (ordinary : separator c = false)
      (isSeparator : separator d = true)
      (later : Alternating separator text) :
      Alternating separator (c :: d :: text)

theorem isToken_singleton
    {c : α}
    (ordinary : separator c = false) :
    IsToken separator [c] := by
  refine ⟨List.cons_ne_nil c [], fun d member => ?_⟩
  rw [List.mem_singleton.mp member]
  exact ordinary

/-- Between two tokens there is a separator. -/
theorem two_mul_length_tokens_le
    (separator : α → Bool)
    (text : List α) :
    2 * (tokens separator text).length ≤ text.length + 1 := by
  induction text using token_induction separator with
  | nil =>
      rw [tokens_nil]
      exact Nat.zero_le 1
  | skip c text isSeparator inductionHypothesis =>
      rw [tokens_cons_of_separator isSeparator, List.length_cons]
      omega
  | last token isToken =>
      have positive := List.length_pos_iff.mpr isToken.nonempty
      rw [tokens_of_isToken isToken, List.length_singleton]
      omega
  | next token c text isToken isSeparator inductionHypothesis =>
      have positive := List.length_pos_iff.mpr isToken.nonempty
      rw [tokens_append isToken isSeparator, List.length_cons,
        List.length_append, List.length_cons]
      omega

theorem Alternating.two_mul_length_tokens
    {text : List α}
    (alternating : Alternating separator text) :
    2 * (tokens separator text).length = text.length + 1 := by
  induction alternating with
  | last ordinary =>
      rw [tokens_of_isToken (isToken_singleton ordinary)]
      rfl
  | @more c d text ordinary isSeparator _ inductionHypothesis =>
      have first :
          tokens separator (c :: d :: text) =
            [c] :: tokens separator text :=
        tokens_append (isToken_singleton ordinary) isSeparator text
      rw [first, List.length_cons, List.length_cons, List.length_cons]
      omega

/-- The bound is reached by alternating texts only. -/
theorem alternating_of_two_mul_length_tokens
    {text : List α}
    (most : 2 * (tokens separator text).length = text.length + 1) :
    Alternating separator text := by
  induction text using token_induction separator with
  | nil =>
      rw [tokens_nil] at most
      cases most
  | skip c text isSeparator _ =>
      have bound :=
        two_mul_length_tokens_le separator text
      rw [tokens_cons_of_separator isSeparator, List.length_cons] at most
      omega
  | last token isToken =>
      rw [tokens_of_isToken isToken, List.length_singleton] at most
      have single : token.length = 1 := by
        omega
      obtain ⟨c, rfl⟩ := List.length_eq_one_iff.mp single
      exact .last (isToken.ordinary c List.mem_cons_self)
  | next token c text isToken isSeparator inductionHypothesis =>
      have bound :=
        two_mul_length_tokens_le separator text
      have positive := List.length_pos_iff.mpr isToken.nonempty
      rw [tokens_append isToken isSeparator, List.length_cons,
        List.length_append, List.length_cons] at most
      have single : token.length = 1 := by
        omega
      obtain ⟨d, rfl⟩ := List.length_eq_one_iff.mp single
      rw [List.length_singleton] at most
      exact
        .more (isToken.ordinary d List.mem_cons_self) isSeparator
          (inductionHypothesis (by omega))

end Tokens

end Ammc.Tokens
