import Ammc.Tokens

namespace Ammc.Tokens

/-!
# A text in pieces

A text that is read in pieces of limited length keeps its characters, but a
token may be cut where a piece ends.  One piece has all the tokens of the text
only if the other pieces have none.
-/

section Pieces

variable {α : Type} {separator : α → Bool}

/-! ## Tokens and separators -/

/-- The tokens have the characters that are not separators. -/
theorem flatten_tokens
    (separator : α → Bool)
    (text : List α) :
    (tokens separator text).flatten =
      text.filter fun c => !separator c := by
  induction text using token_induction separator with
  | nil => rw [tokens_nil, List.flatten_nil, List.filter_nil]
  | skip c text isSeparator inductionHypothesis =>
      rw [tokens_cons_of_separator isSeparator, inductionHypothesis,
        List.filter_cons_of_neg (by rw [isSeparator]; exact Bool.noConfusion)]
  | last token isToken =>
      rw [tokens_of_isToken isToken, List.flatten_singleton,
        List.filter_eq_self.mpr]
      intro c member
      rw [isToken.ordinary c member]
      rfl
  | next token c text isToken isSeparator inductionHypothesis =>
      have kept : token.filter (fun c => !separator c) = token := by
        refine List.filter_eq_self.mpr fun d member => ?_
        rw [isToken.ordinary d member]
        rfl
      rw [tokens_append isToken isSeparator, List.flatten_cons,
        inductionHypothesis, List.filter_append, kept,
        List.filter_cons_of_neg (by rw [isSeparator]; exact Bool.noConfusion)]

/-- A text without tokens has separators only. -/
theorem tokens_eq_nil_iff
    {text : List α} :
    tokens separator text = [] ↔ ∀ c ∈ text, separator c = true := by
  constructor
  · intro blank c member
    have nothing := flatten_tokens separator text
    rw [blank, List.flatten_nil, eq_comm, List.filter_eq_nil_iff] at nothing
    have ordinary := nothing c member
    rwa [Bool.not_eq_true', Bool.not_eq_false] at ordinary
  · intro separators
    induction text with
    | nil => exact tokens_nil
    | cons c text inductionHypothesis =>
        rw [tokens_cons_of_separator (separators c List.mem_cons_self)]
        exact
          inductionHypothesis fun d member =>
            separators d (List.mem_cons_of_mem c member)

/-- Separators at the end make no difference. -/
theorem tokens_append_separators
    (text : List α)
    {behind : List α}
    (separators : ∀ c ∈ behind, separator c = true) :
    tokens separator (text ++ behind) = tokens separator text := by
  have blank := tokens_eq_nil_iff.mpr separators
  induction text using token_induction separator with
  | nil => rw [List.nil_append, blank, tokens_nil]
  | skip c text isSeparator inductionHypothesis =>
      rw [List.cons_append, tokens_cons_of_separator isSeparator,
        tokens_cons_of_separator isSeparator, inductionHypothesis]
  | last token isToken =>
      cases behind with
      | nil => rw [List.append_nil]
      | cons c behind =>
          have isSeparator := separators c List.mem_cons_self
          rw [tokens_append isToken isSeparator, tokens_of_isToken isToken]
          rw [tokens_cons_of_separator isSeparator] at blank
          rw [blank]
  | next token c text isToken isSeparator inductionHypothesis =>
      rw [List.append_assoc, List.cons_append,
        tokens_append isToken isSeparator,
        tokens_append isToken isSeparator, inductionHypothesis]

/-- A piece with all the tokens leaves none for what is around it. -/
theorem blank_around
    {before piece behind : List α}
    (all :
      tokens separator piece =
        tokens separator (before ++ (piece ++ behind))) :
    tokens separator before = [] ∧ tokens separator behind = [] := by
  have same := congrArg (fun words => words.flatten.length) all
  rw [flatten_tokens, flatten_tokens, List.filter_append,
    List.filter_append, List.length_append, List.length_append] at same
  have blank_of_length :
      ∀ text : List α,
        (text.filter fun c => !separator c).length = 0 →
        tokens separator text = [] := by
    intro text nothing
    refine tokens_eq_nil_iff.mpr fun c member => ?_
    have absent :=
      List.filter_eq_nil_iff.mp (List.eq_nil_of_length_eq_zero nothing) c
        member
    rwa [Bool.not_eq_true', Bool.not_eq_false] at absent
  exact
    ⟨blank_of_length before (by omega),
      blank_of_length behind (by omega)⟩

/-- Where all pieces are blank, so is the text, and conversely. -/
theorem tokens_flatten_eq_nil_iff
    {pieces : List (List α)} :
    tokens separator pieces.flatten = [] ↔
      ∀ piece ∈ pieces, tokens separator piece = [] := by
  rw [tokens_eq_nil_iff]
  constructor
  · intro separators piece member
    exact
      tokens_eq_nil_iff.mpr fun c inside =>
        separators c (List.mem_flatten.mpr ⟨piece, member, inside⟩)
  · intro blank c member
    obtain ⟨piece, inPieces, inside⟩ := List.mem_flatten.mp member
    exact tokens_eq_nil_iff.mp (blank piece inPieces) c inside

/-- A piece with all the tokens of a text is the only one with tokens. -/
theorem blank_others
    {before behind : List (List α)}
    {piece : List α}
    (all :
      tokens separator piece =
        tokens separator (before ++ piece :: behind).flatten) :
    ∀ other ∈ before ++ behind, tokens separator other = [] := by
  rw [List.flatten_append, List.flatten_cons] at all
  obtain ⟨inFront, after⟩ := blank_around all
  intro other member
  rcases List.mem_append.mp member with early | late
  · exact tokens_flatten_eq_nil_iff.mp inFront other early
  · exact tokens_flatten_eq_nil_iff.mp after other late

/-! ## Pieces of limited length -/

/-- Pieces of `limit + 1` characters, and a shorter one behind them. -/
def cut
    (limit : Nat)
    (text : List α) : List (List α) :=
  if text.length ≤ limit then
    [text]
  else
    text.take (limit + 1) :: cut limit (text.drop (limit + 1))
termination_by text.length
decreasing_by
  rw [List.length_drop]
  omega

theorem cut_of_short
    {limit : Nat}
    {text : List α}
    (short : text.length ≤ limit) :
    cut limit text = [text] := by
  rw [cut, if_pos short]

theorem cut_of_long
    {limit : Nat}
    {text : List α}
    (long : ¬ text.length ≤ limit) :
    cut limit text =
      text.take (limit + 1) :: cut limit (text.drop (limit + 1)) := by
  rw [cut, if_neg long]

/-- Nothing is lost between the pieces. -/
theorem flatten_cut
    (limit : Nat)
    (text : List α) :
    (cut limit text).flatten = text := by
  induction text using cut.induct limit with
  | case1 text short =>
      rw [cut_of_short short, List.flatten_singleton]
  | case2 text long inductionHypothesis =>
      rw [cut_of_long long, List.flatten_cons, inductionHypothesis,
        List.take_append_drop]

theorem cut_ne_nil
    (limit : Nat)
    (text : List α) :
    cut limit text ≠ [] := by
  rw [cut]
  split
  · exact List.cons_ne_nil _ _
  · exact List.cons_ne_nil _ _

theorem length_le_of_mem_cut
    {limit : Nat}
    {text piece : List α}
    (member : piece ∈ cut limit text) :
    piece.length ≤ limit + 1 := by
  induction text using cut.induct limit with
  | case1 text short =>
      rw [cut_of_short short, List.mem_singleton] at member
      rw [member]
      exact Nat.le_succ_of_le short
  | case2 text long inductionHypothesis =>
      rw [cut_of_long long, List.mem_cons] at member
      rcases member with first | later
      · rw [first]
        exact List.length_take_le _ _
      · exact inductionHypothesis later

/-- No piece has the whole of a token that is longer than the pieces. -/
theorem tokens_ne_of_long
    {limit : Nat}
    {token piece : List α}
    (isToken : IsToken separator token)
    (long : limit + 1 < token.length)
    (member : piece ∈ cut limit token) :
    tokens separator piece ≠ tokens separator token := by
  intro same
  have characters := flatten_tokens separator piece
  rw [same, tokens_of_isToken isToken, List.flatten_singleton]
    at characters
  have contained := List.length_filter_le (fun c => !separator c) piece
  rw [← characters] at contained
  have short := length_le_of_mem_cut member
  omega

end Pieces

end Ammc.Tokens
