import Ammc.SerialProgram

namespace Ammc.Serial

/-!
# Two runs side by side

Two programs run in worlds of their own.  A relation between the ports before
the runs, and one between the results and the ports after them, say what the
runs have in common.
-/

variable {S : Signature}
variable {ε δ α β γ ζ : Type}
variable {left : World S ε} {right : World S δ}

/--
From ports that are related by `before`, both programs come to their ends, where
`after` relates their results and their ports.
-/
def Together
    (left : World S ε)
    (right : World S δ)
    (before : Port S ε → Port S δ → Prop)
    (first : Prog S α)
    (second : Prog S β)
    (after : α → β → Port S ε → Port S δ → Prop) : Prop :=
  ∀ port other,
    before port other →
      ∃ value portAfter result otherAfter,
        exec left first port = (some value, portAfter) ∧
          exec right second other = (some result, otherAfter) ∧
          after value result portAfter otherAfter

namespace Together

variable {before middle : Port S ε → Port S δ → Prop}

/-- Two programs that are over leave their ports as they are. -/
theorem done
    {after : α → β → Port S ε → Port S δ → Prop}
    {value : α}
    {result : β}
    (related :
      ∀ port other, before port other → after value result port other) :
    Together left right before (pure value) (pure result) after :=
  fun port other start =>
    ⟨value, port, result, other, rfl, rfl, related port other start⟩

/-- Related first parts are followed by related second parts. -/
theorem bind
    {first : Prog S α}
    {second : Prog S β}
    {next : α → Prog S γ}
    {following : β → Prog S ζ}
    {between : α → β → Port S ε → Port S δ → Prop}
    {after : γ → ζ → Port S ε → Port S δ → Prop}
    (starts : Together left right before first second between)
    (continues :
      ∀ value result,
        Together left right (between value result) (next value)
          (following result) after) :
    Together left right before (first >>= next)
      (second >>= following) after := by
  intro port other start
  obtain ⟨value, middlePort, result, middleOther, ran, otherRan, related⟩ :=
    starts port other start
  obtain ⟨last, portAfter, final, otherAfter, ended, otherEnded, done⟩ :=
    continues value result middlePort middleOther related
  refine ⟨last, portAfter, final, otherAfter, ?_, ?_, done⟩
  · rw [exec_bind_of_done ran, ended]
  · rw [exec_bind_of_done otherRan, otherEnded]

/-- The relation before may be narrowed, the one after widened. -/
theorem consequence
    {first : Prog S α}
    {second : Prog S β}
    {between after : α → β → Port S ε → Port S δ → Prop}
    (together : Together left right middle first second between)
    (narrowed : ∀ port other, before port other → middle port other)
    (widened :
      ∀ value result port other,
        between value result port other →
          after value result port other) :
    Together left right before first second after := by
  intro port other start
  obtain ⟨value, portAfter, result, otherAfter, ran, otherRan, related⟩ :=
    together port other (narrowed port other start)
  exact
    ⟨value, portAfter, result, otherAfter, ran, otherRan,
      widened value result portAfter otherAfter related⟩

/-- A fact that does not depend on the ports may be assumed. -/
theorem assuming
    {fact : Prop}
    {first : Prog S α}
    {second : Prog S β}
    {after : α → β → Port S ε → Port S δ → Prop}
    (together :
      fact → Together left right before first second after) :
    Together left right
      (fun port other => fact ∧ before port other) first second after :=
  fun port other start =>
    together start.1 port other start.2

end Together

end Ammc.Serial
