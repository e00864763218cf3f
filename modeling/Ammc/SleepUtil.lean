import Ammc.EventRuns
import Ammc.SleepingCore

namespace Ammc.SleepUtil

open SleepingCore EventRuns

/-!
# Sleeping until something has changed

The macros of `sleep_util.h`, instruction by instruction, so that an interrupt
can come between any two of them.  The condition is a function of the memory that
the interrupt handlers change; it is evaluated while interrupts are off.
-/

/-- The instruction of a macro that comes next. -/
inductive SleepPoint where
  | save
  | cli
  | test
  | sleepEnable
  | sei
  | sleepCpu
  | sleepDisable
  | restore
  | left
  deriving Repr, DecidableEq

/-- The core in a macro, with the copy of the interrupt flag in `__sreg_bak`. -/
structure Sleeper (σ : Type*) where
  core : Core σ
  point : SleepPoint
  sregBak : Bool

namespace Sleeper

variable {σ : Type*}

/-- The next instruction, of a macro that looks again after it has slept or not. -/
def instruction
    (again : Bool)
    (expr : σ → Bool)
    (sleeper : Sleeper σ) : Sleeper σ :=
  let core := sleeper.core
  match sleeper.point with
  | .save =>
      { core := core.execute id
        point := .cli
        sregBak := core.interrupts }
  | .cli =>
      { sleeper with
        core := core.cli
        point := .test }
  | .test =>
      { sleeper with
        core := core.execute id
        point :=
          if expr core.memory then .sleepEnable else .restore }
  | .sleepEnable =>
      { sleeper with
        core := core.setSleep true
        point := .sei }
  | .sei =>
      { sleeper with
        core := core.sei
        point := .sleepCpu }
  | .sleepCpu =>
      { sleeper with
        core := core.sleepCpu
        point := .sleepDisable }
  | .sleepDisable =>
      { sleeper with
        core := core.setSleep false
        point := if again then .cli else .restore }
  | .restore =>
      { sleeper with
        core := core.restore sleeper.sregBak
        point := .left }
  | .left => sleeper

/-- The core goes on, unless it is asleep. -/
def advance
    (again : Bool)
    (expr : σ → Bool)
    (sleeper : Sleeper σ) : Sleeper σ :=
  if sleeper.core.asleep then
    sleeper
  else
    sleeper.instruction again expr

/-- `sleep_on(mode, expr)` -/
def sleepOn (expr : σ → Bool) : Sleeper σ → Sleeper σ :=
  advance false expr

/-- `sleep_while(mode, expr)` -/
def sleepWhile (expr : σ → Bool) : Sleeper σ → Sleeper σ :=
  advance true expr

/-- The macros leave the memory alone. -/
@[simp] theorem memory_advance
    (again : Bool)
    (expr : σ → Bool)
    (sleeper : Sleeper σ) :
    (sleeper.advance again expr).core.memory = sleeper.core.memory := by
  obtain ⟨core, point, sregBak⟩ := sleeper
  rw [advance]
  split
  · rfl
  · cases point with
    | _ => rfl

/-- An interrupt is requested. -/
def interrupt
    (handler : σ → σ)
    (sleeper : Sleeper σ) : Sleeper σ :=
  { sleeper with core := sleeper.core.interrupt handler }

end Sleeper

/-- The program goes on, or an interrupt of some kind is requested. -/
inductive SleepEvent (ι : Type*) where
  | advance
  | interrupt (kind : ι)
  deriving Repr, DecidableEq

namespace Sleeper

variable {σ ι : Type*}

/-- A step of a macro, or of an interrupt handler. -/
def step
    (program : Sleeper σ → Sleeper σ)
    (handle : ι → σ → σ)
    (sleeper : Sleeper σ) : SleepEvent ι → Sleeper σ
  | .advance => program sleeper
  | .interrupt kind => sleeper.interrupt (handle kind)

/-- The macro begins. -/
def start (core : Core σ) : Sleeper σ where
  core := core
  point := .save
  sregBak := false

/-! ## The invariant -/

/-- What the point of a macro tells about the core. -/
def Consistent
    (again : Bool)
    (expr : σ → Bool)
    (sleeper : Sleeper σ) : Prop :=
  let core := sleeper.core
  match sleeper.point with
  | .save => core.asleep = false
  | .cli => core.asleep = false
  | .test => core.asleep = false ∧ core.interrupts = false
  | .sleepEnable =>
      core.asleep = false ∧ core.interrupts = false ∧
        expr core.memory = true
  | .sei =>
      core.asleep = false ∧ core.interrupts = false ∧
        expr core.memory = true
  | .sleepCpu =>
      core.asleep = false ∧ core.interrupts = true ∧
        core.shadow = true ∧ expr core.memory = true
  | .sleepDisable =>
      core.Interruptible ∧
        (core.asleep = true → expr core.memory = true)
  | .restore =>
      core.asleep = false ∧
        (again = true →
          core.interrupts = false ∧ expr core.memory = false)
  | .left => core.asleep = false

/-- The flags that the macro found are kept, or can be restored. -/
def Preserves
    (before : Core σ)
    (sleeper : Sleeper σ) : Prop :=
  match sleeper.point with
  | .save =>
      sleeper.core.interrupts = before.interrupts ∧
        (sleeper.core.sleepEnable = true → before.sleepEnable = true)
  | .sei => sleeper.sregBak = before.interrupts
  | .sleepCpu => sleeper.sregBak = before.interrupts
  | .sleepDisable => sleeper.sregBak = before.interrupts
  | .left =>
      sleeper.core.interrupts = before.interrupts ∧
        (sleeper.core.sleepEnable = true → before.sleepEnable = true)
  | _ =>
      sleeper.sregBak = before.interrupts ∧
        (sleeper.core.sleepEnable = true → before.sleepEnable = true)

section Steps

variable {again : Bool}
variable {expr : σ → Bool}
variable {sleeper : Sleeper σ}

/-- The next instruction of a core that is awake. -/
theorem Consistent.instruction
    (consistent : sleeper.Consistent again expr)
    (awake : sleeper.core.asleep = false) :
    (sleeper.instruction again expr).Consistent again expr := by
  obtain ⟨core, point, sregBak⟩ := sleeper
  cases point with
  | save => exact awake
  | cli => exact ⟨awake, rfl⟩
  | test =>
      obtain ⟨_, masked⟩ := consistent
      rcases holds : expr core.memory with _ | _
      · simp only [Sleeper.instruction, holds]
        exact ⟨awake, fun _ => ⟨masked, holds⟩⟩
      · simp only [Sleeper.instruction, holds]
        exact ⟨awake, masked, holds⟩
  | sleepEnable => exact consistent
  | sei =>
      obtain ⟨_, _, holds⟩ := consistent
      exact ⟨awake, rfl, rfl, holds⟩
  | sleepCpu =>
      obtain ⟨_, enabled, _, holds⟩ := consistent
      exact ⟨⟨enabled, rfl⟩, fun _ => holds⟩
  | sleepDisable =>
      cases again with
      | false => exact ⟨awake, fun impossible => by cases impossible⟩
      | true => exact awake
  | restore => exact awake
  | left => exact awake

/-- An interrupt wakes the core, or leaves it as it is. -/
theorem Consistent.interrupt
    (consistent : sleeper.Consistent again expr)
    (handler : σ → σ) :
    (sleeper.interrupt handler).Consistent again expr := by
  obtain ⟨core, point, sregBak⟩ := sleeper
  cases point with
  | save => exact Core.awake_interrupt consistent handler
  | cli => exact Core.awake_interrupt consistent handler
  | test =>
      rw [Sleeper.interrupt, Core.interrupt_of_masked consistent.2]
      exact consistent
  | sleepEnable =>
      rw [Sleeper.interrupt, Core.interrupt_of_masked consistent.2.1]
      exact consistent
  | sei =>
      rw [Sleeper.interrupt, Core.interrupt_of_masked consistent.2.1]
      exact consistent
  | sleepCpu =>
      rw [Sleeper.interrupt, Core.interrupt_of_shadow consistent.2.2.1]
      exact consistent
  | sleepDisable =>
      rw [Sleeper.interrupt,
        Core.interrupt_of_interruptible consistent.1]
      exact ⟨consistent.1, fun impossible => by cases impossible⟩
  | restore =>
      refine ⟨Core.awake_interrupt consistent.1 handler, ?_⟩
      intro repeats
      have masked := (consistent.2 repeats).1
      rw [Sleeper.interrupt, Core.interrupt_of_masked masked]
      exact consistent.2 repeats
  | left => exact Core.awake_interrupt consistent handler

theorem Preserves.instruction
    {before : Core σ}
    (preserves : sleeper.Preserves before) :
    (sleeper.instruction again expr).Preserves before := by
  obtain ⟨core, point, sregBak⟩ := sleeper
  cases point with
  | test =>
      rcases holds : expr core.memory with _ | _
      · simp only [Sleeper.instruction, holds]
        exact preserves
      · simp only [Sleeper.instruction, holds]
        exact preserves
  | sleepEnable => exact preserves.1
  | sleepDisable =>
      cases again with
      | false => exact ⟨preserves, fun impossible => by cases impossible⟩
      | true => exact ⟨preserves, fun impossible => by cases impossible⟩
  | _ => exact preserves

theorem Preserves.interrupt
    {before : Core σ}
    (preserves : sleeper.Preserves before)
    (handler : σ → σ) :
    (sleeper.interrupt handler).Preserves before := by
  obtain ⟨core, point, sregBak⟩ := sleeper
  cases point with
  | save =>
      simpa only [Preserves, Sleeper.interrupt,
        Core.interrupts_interrupt, Core.sleepEnable_interrupt] using
        preserves
  | sei => exact preserves
  | sleepCpu => exact preserves
  | sleepDisable => exact preserves
  | left =>
      simpa only [Preserves, Sleeper.interrupt,
        Core.interrupts_interrupt, Core.sleepEnable_interrupt] using
        preserves
  | _ =>
      simpa only [Preserves, Sleeper.interrupt,
        Core.sleepEnable_interrupt] using preserves

/-- Every step of a macro keeps both. -/
theorem consistent_step
    {handle : ι → σ → σ}
    (consistent : sleeper.Consistent again expr)
    (event : SleepEvent ι) :
    (sleeper.step (advance again expr) handle event).Consistent again
      expr := by
  cases event with
  | advance =>
      rw [step, advance]
      split
      · exact consistent
      · rename_i awake
        exact consistent.instruction (Bool.not_eq_true _ ▸ awake)
  | interrupt kind => exact consistent.interrupt (handle kind)

theorem preserves_step
    {handle : ι → σ → σ}
    {before : Core σ}
    (preserves : sleeper.Preserves before)
    (event : SleepEvent ι) :
    (sleeper.step (advance again expr) handle event).Preserves before := by
  cases event with
  | advance =>
      rw [step, advance]
      split
      · exact preserves
      · exact preserves.instruction
  | interrupt kind => exact preserves.interrupt (handle kind)

theorem consistent_run
    {handle : ι → σ → σ}
    (consistent : sleeper.Consistent again expr)
    (events : List (SleepEvent ι)) :
    (events.foldl (step (advance again expr) handle) sleeper).Consistent
      again expr := by
  induction events generalizing sleeper with
  | nil => exact consistent
  | cons event later inductionHypothesis =>
      exact inductionHypothesis (consistent_step consistent event)

end Steps

/-! ## No wake-up is lost -/

/-- A core that sleeps does so for its condition, and any interrupt wakes it. -/
def Wakeful
    (expr : σ → Bool)
    (sleeper : Sleeper σ) : Prop :=
  sleeper.core.asleep = true →
    expr sleeper.core.memory = true ∧ sleeper.core.Interruptible

theorem Consistent.wakeful
    {again : Bool}
    {expr : σ → Bool}
    {sleeper : Sleeper σ}
    (consistent : sleeper.Consistent again expr) :
    sleeper.Wakeful expr := by
  obtain ⟨core, point, sregBak⟩ := sleeper
  intro asleep
  have sleeps : core.asleep = true := asleep
  cases point with
  | sleepDisable => exact ⟨consistent.2 sleeps, consistent.1⟩
  | save => cases sleeps.symm.trans consistent
  | cli => cases sleeps.symm.trans consistent
  | left => cases sleeps.symm.trans consistent
  | _ => cases sleeps.symm.trans consistent.1

/--
What `sleep_while` guarantees at every time.  While it is left no interrupt comes
between the test of the condition and the return of the flag.
-/
structure Watchful
    (expr : σ → Bool)
    (before : Core σ)
    (sleeper : Sleeper σ) : Prop where
  wakeful : sleeper.Wakeful expr
  leaving :
    sleeper.point = .restore →
      expr sleeper.core.memory = false ∧
        sleeper.core.interrupts = false
  ended :
    sleeper.point = .left →
      sleeper.core.asleep = false ∧
        sleeper.core.interrupts = before.interrupts ∧
        (sleeper.core.sleepEnable = true → before.sleepEnable = true)

theorem Consistent.watchful
    {expr : σ → Bool}
    {before : Core σ}
    {sleeper : Sleeper σ}
    (consistent : sleeper.Consistent true expr)
    (preserves : sleeper.Preserves before) :
    sleeper.Watchful expr before := by
  refine ⟨consistent.wakeful, ?_, ?_⟩
  · intro place
    rw [Consistent, place] at consistent
    exact (consistent.2 rfl).symm
  · intro place
    rw [Consistent, place] at consistent
    rw [Preserves, place] at preserves
    exact ⟨consistent, preserves⟩

/--
Wherever interrupts come, `sleep_while` never sleeps while its condition is
false, never sleeps where an interrupt would not wake it, and returns only when
the condition is false.  It gives the interrupt flag back, and leaves sleeping
enabled only if it was enabled before.
-/
theorem sleepWhile_watchful
    (expr : σ → Bool)
    (handle : ι → σ → σ)
    {before : Core σ}
    (awake : before.asleep = false)
    (events : List (SleepEvent ι)) :
    Always (step (sleepWhile expr) handle) (Watchful expr before)
      (start before) events := by
  have kept :
      ∀ (sleeper : Sleeper σ) (event : SleepEvent ι),
        sleeper.Consistent true expr ∧ sleeper.Preserves before →
          (sleeper.step (advance true expr) handle event).Consistent true
              expr ∧
            (sleeper.step (advance true expr) handle event).Preserves
              before :=
    fun _ event both =>
      ⟨consistent_step both.1 event, preserves_step both.2 event⟩
  have started :
      (start before).Consistent true expr ∧
        (start before).Preserves before :=
    ⟨awake, rfl, id⟩
  exact
    (always_of_kept kept started events).imp fun _ both =>
      both.1.watchful both.2

/-- A core with something to wait for. -/
def waitingCore : Core Bool where
  memory := true
  interrupts := true
  shadow := false
  sleepEnable := false
  asleep := false

/-- The interrupt is requested when the core is about to sleep, and again. -/
def requestedEarly : List (SleepEvent Unit) :=
  [.advance, .advance, .advance, .advance, .advance, .interrupt (),
    .advance, .interrupt ()]

theorem requestedEarly_watchful :
    Always (step (sleepWhile fun waits => waits) fun _ _ => false)
      (Watchful (fun waits => waits) waitingCore) (start waitingCore)
      requestedEarly :=
  sleepWhile_watchful (fun waits => waits) (fun _ _ => false) rfl
    requestedEarly

/-! ## It returns -/

/-- The instructions that are left when the condition is false for good. -/
def ahead : SleepPoint → Nat
  | .save => 4
  | .cli => 3
  | .test => 2
  | .restore => 1
  | .left => 0
  | .sleepDisable => 4
  -- the condition is true at the other points
  | _ => 5

/-- The number of instructions in a run. -/
def advances : List (SleepEvent ι) → Nat
  | [] => 0
  | .advance :: later => advances later + 1
  | .interrupt _ :: later => advances later

section Returning

variable {expr : σ → Bool}
variable {sleeper : Sleeper σ}

/-- With a false condition every instruction comes closer to the end. -/
theorem ahead_sleepWhile
    (consistent : sleeper.Consistent true expr)
    (condition : expr sleeper.core.memory = false) :
    ahead (sleepWhile expr sleeper).point = ahead sleeper.point - 1 ∧
      (sleepWhile expr sleeper).core.memory = sleeper.core.memory := by
  have awake : sleeper.core.asleep = false := by
    by_contra asleep
    have holds := (consistent.wakeful (Bool.not_eq_false _ ▸ asleep)).1
    rw [condition] at holds
    cases holds
  obtain ⟨core, point, sregBak⟩ := sleeper
  have notAsleep : ¬ core.asleep = true := by
    rw [Bool.not_eq_true]
    exact awake
  have fails : expr core.memory = false := condition
  rw [sleepWhile, advance, if_neg notAsleep]
  cases point with
  | test =>
      simp only [Sleeper.instruction, fails]
      exact ⟨rfl, rfl⟩
  | sleepEnable => cases fails.symm.trans consistent.2.2
  | sei => cases fails.symm.trans consistent.2.2
  | sleepCpu => cases fails.symm.trans consistent.2.2.2
  | _ => exact ⟨rfl, rfl⟩

/-- Where the condition is false, four instructions are left at most. -/
theorem ahead_le
    (consistent : sleeper.Consistent true expr)
    (condition : expr sleeper.core.memory = false) :
    ahead sleeper.point ≤ 4 := by
  obtain ⟨core, point, sregBak⟩ := sleeper
  have fails : expr core.memory = false := condition
  cases point with
  | sleepEnable => cases fails.symm.trans consistent.2.2
  | sei => cases fails.symm.trans consistent.2.2
  | sleepCpu => cases fails.symm.trans consistent.2.2.2
  | _ => exact of_decide_eq_true rfl

theorem ahead_run
    {handle : ι → σ → σ}
    {events : List (SleepEvent ι)}
    (consistent : sleeper.Consistent true expr)
    (condition : expr sleeper.core.memory = false)
    (kept :
      ∀ kind, .interrupt kind ∈ events →
        ∀ memory, expr memory = false →
          expr (handle kind memory) = false) :
    ahead
        (events.foldl (step (sleepWhile expr) handle) sleeper).point =
      ahead sleeper.point - advances events := by
  induction events generalizing sleeper with
  | nil => rfl
  | cons event later inductionHypothesis =>
      have keptLater :
          ∀ kind, .interrupt kind ∈ later →
            ∀ memory, expr memory = false →
              expr (handle kind memory) = false :=
        fun kind member => kept kind (List.mem_cons_of_mem event member)
      have next :
          (sleeper.step (sleepWhile expr) handle event).Consistent true
            expr :=
        consistent_step consistent event
      cases event with
      | advance =>
          obtain ⟨closer, same⟩ := ahead_sleepWhile consistent condition
          rw [List.foldl_cons,
            inductionHypothesis next (same ▸ condition) keptLater]
          rw [step, closer, advances, Nat.sub_sub, Nat.add_comm]
      | interrupt kind =>
          have after :
              expr (sleeper.core.interrupt (handle kind)).memory = false :=
            @Core.memory_interrupt σ (fun memory => expr memory = false)
              (handle kind) (kept kind List.mem_cons_self) sleeper.core
              condition
          rw [List.foldl_cons, inductionHypothesis next after keptLater]
          rfl

end Returning

theorem left_of_ahead
    {point : SleepPoint}
    (none : ahead point = 0) :
    point = .left := by
  cases point with
  | left => rfl
  | _ => cases none

/--
However it came there, `sleep_while` returns after at most four more instructions
once its condition is false and no interrupt makes it true again.
-/
theorem sleepWhile_returns
    (expr : σ → Bool)
    (handle : ι → σ → σ)
    {before : Core σ}
    (awake : before.asleep = false)
    {events later : List (SleepEvent ι)}
    (condition :
      expr
          (events.foldl (step (sleepWhile expr) handle)
            (start before)).core.memory =
        false)
    (kept :
      ∀ kind, .interrupt kind ∈ later →
        ∀ memory, expr memory = false →
          expr (handle kind memory) = false)
    (enough : 4 ≤ advances later) :
    ((events ++ later).foldl (step (sleepWhile expr) handle)
        (start before)).point =
      .left := by
  have started : (start before).Consistent true expr :=
    awake
  have consistent :
      (events.foldl (step (sleepWhile expr) handle)
        (start before)).Consistent true expr :=
    consistent_run started events
  have most := ahead_le consistent condition
  refine left_of_ahead ?_
  rw [List.foldl_append, ahead_run consistent condition kept]
  exact Nat.sub_eq_zero_of_le (Nat.le_trans most enough)

theorem requestedEarly_returns :
    ((requestedEarly ++ List.replicate 4 SleepEvent.advance).foldl
        (step (sleepWhile fun waits => waits) fun _ _ => false)
        (start waitingCore)).point =
      .left :=
  sleepWhile_returns (fun waits => waits) (fun _ _ => false) rfl rfl
    (fun _ _ _ _ => rfl) (Nat.le_refl 4)

end Sleeper

end Ammc.SleepUtil
