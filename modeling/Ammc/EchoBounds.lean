import Ammc.EchoString

namespace Ammc.Client

open ByteMemory Packet

/-!
# Where `dev-echo` writes its string

`_prepare_echo_string` writes a space, a token with the terminator that `strcpy`
adds, and at the end a terminator of its own.  The stores are listed, so that
one outside the buffer of `dev_echo` would be seen even if the string is refused
at a later token.
-/

/-- The stores of the loop, each with its offset and its bytes. -/
def echoStoresFrom (strLen : Nat) :
    List (List UInt8) → List (Nat × List UInt8)
  | [] => [(strLen, [0])]
  | token :: tokens =>
      if (if strLen ≠ 0 then strLen + 1 else 0) + token.length ≥
          bodyMaxLen - 1 then
        []
      else if strLen ≠ 0 then
        (strLen, [0x20]) :: (strLen + 1, token ++ [0]) ::
          echoStoresFrom (strLen + 1 + token.length) tokens
      else
        (strLen, token ++ [0]) ::
          echoStoresFrom (strLen + token.length) tokens

/-- The stores of `_prepare_echo_string`. -/
def echoStores (args : List Word) : List (Nat × List UInt8) :=
  echoStoresFrom 0 (args.map Word.text)

/-- A memory after some stores. -/
def afterStores
    (dest : Memory)
    (stores : List (Nat × List UInt8)) : Memory :=
  stores.foldl (fun dest store => dest.store store.1 store.2) dest

/-- The listed stores are what the loop does to its buffer. -/
theorem prepareEchoStringFrom_eq_afterStores
    (dest : Memory)
    (strLen : Nat)
    (tokens : List (List UInt8)) :
    (prepareEchoStringFrom dest strLen tokens).2 =
      afterStores dest (echoStoresFrom strLen tokens) := by
  induction tokens generalizing dest strLen with
  | nil => rfl
  | cons token tokens inductionHypothesis =>
      rw [prepareEchoStringFrom, echoStoresFrom]
      by_cases tooLong :
          (if strLen ≠ 0 then strLen + 1 else 0) + token.length ≥
            bodyMaxLen - 1
      · rw [if_pos tooLong, if_pos tooLong]
        rfl
      · rw [if_neg tooLong, if_neg tooLong]
        by_cases begun : strLen ≠ 0
        · rw [if_pos begun, if_pos begun, inductionHypothesis]
          rfl
        · rw [if_neg begun, if_neg begun, inductionHypothesis]
          rfl

/-- A store that ends inside the buffer of `dev_echo`. -/
def InsideBuffer (store : Nat × List UInt8) : Prop :=
  store.1 + store.2.length ≤ bodyMaxLen - 1

/-- The check before a token accounts for all that is stored for it. -/
theorem insideBuffer_echoStoresFrom
    {strLen : Nat}
    (short : strLen ≤ bodyMaxLen - 2)
    (tokens : List (List UInt8)) :
    ∀ store ∈ echoStoresFrom strLen tokens, InsideBuffer store := by
  rw [bodyMaxLen] at short
  induction tokens generalizing strLen with
  | nil =>
      intro store member
      rw [List.mem_singleton.mp member, InsideBuffer, bodyMaxLen]
      exact Nat.succ_le_succ short
  | cons token tokens inductionHypothesis =>
      rw [echoStoresFrom]
      by_cases tooLong :
          (if strLen ≠ 0 then strLen + 1 else 0) + token.length ≥
            bodyMaxLen - 1
      · rw [if_pos tooLong]
        intro store member
        cases member
      · rw [if_neg tooLong]
        rw [bodyMaxLen] at tooLong
        by_cases begun : strLen ≠ 0
        · rw [if_pos begun] at tooLong ⊢
          have shorter : strLen + 1 + token.length ≤ 32 - 2 := by
            omega
          have space : InsideBuffer (strLen, [0x20]) := by
            rw [InsideBuffer, bodyMaxLen]
            exact Nat.succ_le_succ short
          have stored : InsideBuffer (strLen + 1, token ++ [0]) := by
            rw [InsideBuffer, bodyMaxLen, List.length_append]
            exact Nat.succ_le_succ shorter
          exact
            List.forall_mem_cons.mpr
              ⟨space,
                List.forall_mem_cons.mpr
                  ⟨stored, inductionHypothesis shorter⟩⟩
        · rw [if_neg begun] at tooLong ⊢
          have zero : strLen = 0 :=
            not_not.mp begun
          have shorter : strLen + token.length ≤ 32 - 2 := by
            omega
          have stored : InsideBuffer (strLen, token ++ [0]) := by
            rw [InsideBuffer, bodyMaxLen, List.length_append]
            exact Nat.succ_le_succ shorter
          exact
            List.forall_mem_cons.mpr
              ⟨stored, inductionHypothesis shorter⟩

/--
`_prepare_echo_string` refuses what is too long, joins and terminates what is
not, and keeps to its buffer in both cases.
-/
structure Prepares
    (dest : Memory)
    (args : List Word) : Prop where
  refused :
    (prepareEchoString dest args).1 = 0xFF ↔
      bodyMaxLen - 2 < (echoText args).length
  joined :
    (echoText args).length ≤ bodyMaxLen - 2 →
      (prepareEchoString dest args).1.toNat = (echoText args).length ∧
        (prepareEchoString dest args).2.bytes 0
            ((echoText args).length + 1) =
          echoText args ++ [0]
  stores :
    (prepareEchoString dest args).2 = afterStores dest (echoStores args)
  inside : ∀ store ∈ echoStores args, InsideBuffer store

theorem prepareEchoString_prepares
    (dest : Memory)
    {args : List Word}
    (given : args ≠ []) :
    Prepares dest args where
  refused := by
    constructor
    · intro refused
      by_contra short
      have fits : (echoText args).length ≤ 30 :=
        Nat.not_lt.mp short
      obtain ⟨filled, prepared, _⟩ :=
        prepareEchoString_filled dest given fits
      rw [prepared, ← UInt8.toNat_inj, UInt8.toNat_ofNat'] at refused
      change (echoText args).length % 256 = 255 at refused
      omega
    · exact prepareEchoString_refused dest given
  joined fits := by
    obtain ⟨filled, prepared, stored⟩ :=
      prepareEchoString_filled dest given fits
    rw [prepared]
    refine ⟨?_, stored⟩
    rw [bodyMaxLen] at fits
    rw [UInt8.toNat_ofNat']
    omega
  stores := prepareEchoStringFrom_eq_afterStores dest 0 _
  inside := insideBuffer_echoStoresFrom (Nat.zero_le _) _

/-- The words `a` and `bc`. -/
def twoWords : List Word :=
  [⟨[97], List.cons_ne_nil _ _, of_decide_eq_true rfl⟩,
    ⟨[98, 99], List.cons_ne_nil _ _, of_decide_eq_true rfl⟩]

theorem twoWords_prepared :
    ((prepareEchoString (fun _ => 0) twoWords).1 = 0xFF ↔
        bodyMaxLen - 2 < (echoText twoWords).length) ∧
      (prepareEchoString (fun _ => 0) twoWords).2.bytes 0 5 =
        [97, 32, 98, 99, 0] := by
  have prepares :=
    @prepareEchoString_prepares (fun _ => 0) twoWords
      (List.cons_ne_nil _ _)
  exact ⟨prepares.refused, (prepares.joined (by decide)).2⟩

end Ammc.Client
