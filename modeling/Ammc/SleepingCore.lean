import Mathlib.Data.List.Basic

namespace Ammc.SleepingCore

/-!
# A core that sleeps until an interrupt comes

Interrupts are taken between two instructions while their flag is set, but not
right after the instruction that sets it.  The core stops at the sleep
instruction, if sleeping is enabled, and goes on after the next interrupt.
-/

/-- The memory and the flags of a core; `shadow` follows the setting of the flag. -/
structure Core (σ : Type*) where
  memory : σ
  interrupts : Bool
  shadow : Bool
  sleepEnable : Bool
  asleep : Bool

namespace Core

variable {σ : Type*}

/-- Interrupts are off. -/
def cli (core : Core σ) : Core σ :=
  { core with
    interrupts := false
    shadow := false }

/-- Interrupts are on, after one more instruction. -/
def sei (core : Core σ) : Core σ :=
  { core with
    interrupts := true
    shadow := true }

/-- The interrupt flag gets an old value back. -/
def restore
    (flag : Bool)
    (core : Core σ) : Core σ :=
  { core with
    interrupts := flag
    shadow := false }

/-- Sleeping is enabled or disabled. -/
def setSleep
    (enable : Bool)
    (core : Core σ) : Core σ :=
  { core with
    sleepEnable := enable
    shadow := false }

/-- The sleep instruction. -/
def sleepCpu (core : Core σ) : Core σ :=
  { core with
    asleep := core.sleepEnable
    shadow := false }

/-- Any other instruction, which may change the memory. -/
def execute
    (change : σ → σ)
    (core : Core σ) : Core σ :=
  { core with
    memory := change core.memory
    shadow := false }

/-- The next instruction can be preceded by an interrupt. -/
def Interruptible (core : Core σ) : Prop :=
  core.interrupts = true ∧ core.shadow = false

instance (core : Core σ) : Decidable core.Interruptible :=
  inferInstanceAs (Decidable (_ ∧ _))

/-- An interrupt is taken, or it has to wait. -/
def interrupt
    (handler : σ → σ)
    (core : Core σ) : Core σ :=
  if core.Interruptible then
    { core with
      memory := handler core.memory
      asleep := false }
  else
    core

theorem interrupt_of_interruptible
    {core : Core σ}
    (interruptible : core.Interruptible)
    (handler : σ → σ) :
    core.interrupt handler =
      { core with
        memory := handler core.memory
        asleep := false } :=
  if_pos interruptible

theorem interrupt_of_masked
    {core : Core σ}
    (masked : core.interrupts = false)
    (handler : σ → σ) :
    core.interrupt handler = core :=
  if_neg fun interruptible => by
    rw [interruptible.1] at masked
    cases masked

theorem interrupt_of_shadow
    {core : Core σ}
    (shadow : core.shadow = true)
    (handler : σ → σ) :
    core.interrupt handler = core :=
  if_neg fun interruptible => by
    rw [interruptible.2] at shadow
    cases shadow

/-- An interrupt leaves the flags of the core alone. -/
@[simp] theorem interrupts_interrupt
    (handler : σ → σ)
    (core : Core σ) :
    (core.interrupt handler).interrupts = core.interrupts := by
  rw [interrupt]
  split
  · rfl
  · rfl

@[simp] theorem shadow_interrupt
    (handler : σ → σ)
    (core : Core σ) :
    (core.interrupt handler).shadow = core.shadow := by
  rw [interrupt]
  split
  · rfl
  · rfl

@[simp] theorem sleepEnable_interrupt
    (handler : σ → σ)
    (core : Core σ) :
    (core.interrupt handler).sleepEnable = core.sleepEnable := by
  rw [interrupt]
  split
  · rfl
  · rfl

/-- A core that is awake stays awake. -/
theorem awake_interrupt
    {core : Core σ}
    (awake : core.asleep = false)
    (handler : σ → σ) :
    (core.interrupt handler).asleep = false := by
  rw [interrupt]
  split
  · rfl
  · exact awake

/-- What holds of the memory holds after an interrupt that keeps it. -/
theorem memory_interrupt
    {fact : σ → Prop}
    {handler : σ → σ}
    (keeps : ∀ memory, fact memory → fact (handler memory))
    {core : Core σ}
    (before : fact core.memory) :
    fact (core.interrupt handler).memory := by
  rw [interrupt]
  split
  · exact keeps core.memory before
  · exact before

end Core

end Ammc.SleepingCore
