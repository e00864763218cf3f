import Ammc.MasterReceiver
import Ammc.SleepUtil

namespace Ammc.Master

open SleepingCore SleepUtil EventRuns

/-!
# The master asleep

The main loop of the master asks `serial_rx_available` for received bytes, and
goes to sleep with `sleep_on` if the answer is 0.  The condition of the macro is
that answer, which is older than the moment at which interrupts are turned off,
and an interrupt can come between the two accesses that it is computed from.
-/

/-- The interrupts of the master; any other than the receiver's only wakes it. -/
inductive MasterInterrupt where
  | rx (udr0 : UInt8)
  | other
  deriving Repr, DecidableEq

/-- What an interrupt does to the receiver. -/
def receiveInterrupt (kind : MasterInterrupt) (rx : RxSystem) : RxSystem :=
  match kind with
  | .rx udr0 => rx.step (.interrupt udr0)
  | .other => rx

/-- Where the main loop is. -/
inductive LoopPlace where
  /-- `action_performed = 0` -/
  | reset
  /-- `communication_handler` calls `serial_rx_available` -/
  | look
  /-- the call is running -/
  | count
  /-- it has returned -/
  | answer
  /-- the handler handles a packet -/
  | work
  /-- `sleep_on` -/
  | sleep
  deriving Repr, DecidableEq

/--
The main loop with its variable `action_performed`, and the number of bytes that
were received when its last look read the flag of the ring buffer.
-/
structure MainLoop where
  sleeper : Sleeper RxSystem
  place : LoopPlace
  actionPerformed : Bool
  looked : Nat

/-- What `serial_rx_available` returned last. -/
def RxSystem.lastAnswer (rx : RxSystem) : UInt8 :=
  (rx.answers.getLast?.map Prod.fst).getD 0

@[simp] theorem RxSystem.lastAnswer_answer
    (count : UInt8)
    (rx : RxSystem) :
    (rx.answer count).lastAnswer = count := by
  rw [lastAnswer, answer, List.getLast?_concat]
  rfl

/-- Whether `serial_rx_available` has returned. -/
def RxPlace.looking : RxPlace → LoopPlace
  | .outside => .answer
  | _ => .count

/-- The received bytes, when `serial_rx_available` reads the flag. -/
def RxSystem.lookedAt (looked : Nat) (rx : RxSystem) : Nat :=
  match rx.place with
  | .usedFull => rx.received.length
  | _ => looked

namespace MainLoop

/-- The receiver is the memory of the core. -/
def rx (loop : MainLoop) : RxSystem :=
  loop.sleeper.core.memory

/-- The bytes that were received since the last look read the flag. -/
def late (loop : MainLoop) : List UInt8 :=
  loop.rx.received.drop loop.looked

/-- `!action_performed` -/
def idle (loop : MainLoop) (_ : RxSystem) : Bool :=
  !loop.actionPerformed

/-- Another instruction of the main loop. -/
def execute
    (change : RxSystem → RxSystem)
    (place : LoopPlace)
    (loop : MainLoop) : MainLoop :=
  { loop with
    sleeper := Sleeper.start (loop.sleeper.core.execute change)
    place := place }

/-- The next instruction of the main loop. -/
def instruction (loop : MainLoop) : MainLoop :=
  match loop.place with
  | .reset => { loop.execute id .look with actionPerformed := false }
  | .look => loop.execute (fun rx => rx.step .available) .count
  | .count =>
      { loop.execute (fun rx => rx.step .statement)
          (loop.rx.step .statement).place.looking with
        looked := loop.rx.lookedAt loop.looked }
  | .answer =>
      if loop.rx.lastAnswer = 0 then
        loop.execute id .sleep
      else
        { loop.execute id .work with actionPerformed := true }
  | .work => loop.execute (fun rx => rx.step .statement) .work
  | .sleep =>
      if loop.sleeper.point = .left then
        loop.execute id .reset
      else
        { loop with sleeper := Sleeper.sleepOn loop.idle loop.sleeper }

/-- The handler calls `serial_rx`. -/
def serialRx
    (buf : ByteMemory.Memory)
    (size : UInt8)
    (loop : MainLoop) : MainLoop :=
  match loop.place with
  | .work =>
      loop.execute (fun rx => rx.step (.call .serialRx buf size)) .work
  | _ => loop

/-- The handler is done with a packet and looks for another one. -/
def again (loop : MainLoop) : MainLoop :=
  match loop.place, loop.rx.place with
  | .work, .outside => loop.execute id .look
  | _, _ => loop

end MainLoop

/-- The loop goes on, or is interrupted. -/
inductive LoopEvent where
  | advance
  | serialRx (buf : ByteMemory.Memory) (size : UInt8)
  | again
  | interrupt (kind : MasterInterrupt)

namespace MainLoop

def step (loop : MainLoop) : LoopEvent → MainLoop
  | .advance =>
      if loop.sleeper.core.asleep then loop else loop.instruction
  | .serialRx buf size =>
      if loop.sleeper.core.asleep then loop else loop.serialRx buf size
  | .again =>
      if loop.sleeper.core.asleep then loop else loop.again
  | .interrupt kind =>
      { loop with
        sleeper := loop.sleeper.interrupt (receiveInterrupt kind) }

/-- The core is awake, and interrupts are on. -/
def awakeCore (rx : RxSystem) : Core RxSystem where
  memory := rx
  interrupts := true
  shadow := false
  sleepEnable := false
  asleep := false

/-- A loop that has not done anything since it was reset. -/
def idleAt
    (rx : RxSystem)
    (place : LoopPlace)
    (looked : Nat) : MainLoop where
  sleeper := Sleeper.start (awakeCore rx)
  place := place
  actionPerformed := false
  looked := looked

/-- After `setup`. -/
def start : MainLoop :=
  idleAt (RxSystem.start (RxSystem.newBuffer (UInt8.ofNat rxBufferSize)))
    .reset 0

def run (events : List LoopEvent) : MainLoop :=
  events.foldl step start

end MainLoop

/-! ## The invariant -/

/--
Bytes that a loop does not know of: those that came after its look, or a full
buffer, when it became full between the two accesses of the look.
-/
def Overlooked (queue late : List UInt8) : Prop :=
  queue = late ∨
    late ≠ [] ∧ late <:+ queue ∧ queue.length = rxBufferSize

/-- Another byte is overlooked as well. -/
theorem Overlooked.concat
    {queue late : List UInt8}
    (overlooked : Overlooked queue late)
    (room : queue.length < rxBufferSize)
    (udr0 : UInt8) :
    Overlooked (queue ++ [udr0]) (late ++ [udr0]) := by
  rcases overlooked with same | ⟨_, _, full⟩
  · exact Or.inl (same ▸ rfl)
  · exact absurd full (Nat.ne_of_lt room)

/-- What the place of the loop tells about the receiver. -/
def Placed
    (actionPerformed : Bool)
    (late queue : List UInt8)
    (rx : RxSystem) : LoopPlace → Prop
  | .count =>
      rx.place = .usedFull ∨
        rx.place = .usedEnds ∧ late <:+ queue ∧
          (late = [] → queue.length < rxBufferSize)
  | .answer =>
      rx.place = .outside ∧ (rx.lastAnswer = 0 → Overlooked queue late)
  | .work => True
  | .sleep =>
      rx.place = .outside ∧
        (actionPerformed = false → Overlooked queue late)
  | _ => rx.place = .outside

/-- Except in `serial_rx` the loop is between two accesses. -/
theorem Placed.elsewhere
    {actionPerformed : Bool}
    {late queue : List UInt8}
    {rx : RxSystem}
    {place : LoopPlace}
    (placed : Placed actionPerformed late queue rx place)
    (idle : place ≠ .work)
    (frame : RxFrame) :
    rx.place ≠ .receiving .clear frame := by
  intro middle
  cases place with
  | work => exact idle rfl
  | count =>
      rcases placed with flag | ⟨ends, _⟩
      · cases middle.symm.trans flag
      · cases middle.symm.trans ends
  | answer => cases middle.symm.trans placed.1
  | sleep => cases middle.symm.trans placed.1
  | _ => cases middle.symm.trans placed

/-- An interrupt has appended a byte. -/
theorem Placed.concat
    {actionPerformed : Bool}
    {late queue : List UInt8}
    {rx after : RxSystem}
    {place : LoopPlace}
    (placed : Placed actionPerformed late queue rx place)
    (room : queue.length < rxBufferSize)
    (udr0 : UInt8)
    (samePlace : after.place = rx.place)
    (sameAnswers : after.answers = rx.answers) :
    Placed actionPerformed (late ++ [udr0]) (queue ++ [udr0]) after
      place := by
  have sameAnswer : after.lastAnswer = rx.lastAnswer := by
    rw [RxSystem.lastAnswer, sameAnswers]
    rfl
  cases place with
  | work => trivial
  | count =>
      rcases placed with flag | ⟨ends, ⟨older, joined⟩, _⟩
      · exact Or.inl (samePlace.trans flag)
      · refine Or.inr ⟨samePlace.trans ends, ⟨older, ?_⟩, ?_⟩
        · rw [← joined, List.append_assoc]
        · intro none
          exact absurd none (List.concat_ne_nil udr0 late)
  | answer =>
      refine ⟨samePlace.trans placed.1, fun nothing => ?_⟩
      rw [sameAnswer] at nothing
      exact (placed.2 nothing).concat room udr0
  | sleep =>
      exact
        ⟨samePlace.trans placed.1, fun idle =>
          (placed.2 idle).concat room udr0⟩
  | _ => exact samePlace.trans placed

/-- The receiver of a loop at some place. -/
structure Attended
    (place : LoopPlace)
    (actionPerformed : Bool)
    (looked : Nat)
    (rx : RxSystem) : Prop where
  enabled : rx.rxcie = true
  size : rx.rxBuffer.size.toNat = rxBufferSize
  past : looked ≤ rx.received.length
  queue :
    ∃ queue,
      rx.Whole queue ∧
        Placed actionPerformed (rx.received.drop looked) queue rx place

namespace Attended

variable {place : LoopPlace}
variable {actionPerformed : Bool}
variable {looked : Nat}
variable {rx : RxSystem}

/-- Interrupts leave the receiver to the loop as it was, but for new bytes. -/
theorem interrupt
    (attended : Attended place actionPerformed looked rx)
    (kind : MasterInterrupt) :
    Attended place actionPerformed looked (receiveInterrupt kind rx) := by
  cases kind with
  | other => exact attended
  | rx udr0 =>
      obtain ⟨enabled, size, past, queue, whole, placed⟩ := attended
      obtain ⟨longer, sameEnable⟩ := rx.kept_isr udr0
      have taken :
          receiveInterrupt (.rx udr0) rx = rx.isr udr0 := by
        rw [receiveInterrupt, RxSystem.step, if_pos enabled]
      rw [taken]
      refine
        ⟨sameEnable.trans enabled, ?_, past.trans longer, ?_⟩
      · rw [RxSystem.size_isr]
        exact size
      by_cases working : place = .work
      · subst working
        obtain ⟨next, after⟩ := whole.isr udr0
        exact ⟨next, after, trivial⟩
      · rcases whole.isr_settled (placed.elsewhere working) udr0 with
          ⟨same, _⟩ | ⟨room, after, received, samePlace, sameAnswers⟩
        · rw [same]
          exact ⟨queue, whole, placed⟩
        · rw [size] at room
          rw [received, List.drop_append_of_le_length past]
          exact
            ⟨queue ++ [udr0], after,
              placed.concat room udr0 samePlace sameAnswers⟩

/-- The handler calls `serial_rx_available`. -/
theorem look
    (attended : Attended .look actionPerformed looked rx) :
    Attended .count actionPerformed looked (rx.step .available) := by
  obtain ⟨enabled, size, past, queue, whole, outside⟩ := attended
  have entered : rx.step .available = { rx with place := .usedFull } := by
    have place : rx.place = .outside :=
      outside
    rw [RxSystem.step, RxSystem.enter, place]
  have after : (rx.step .available).Whole queue :=
    whole.enter outside rfl trivial rfl
  rw [entered] at after ⊢
  exact ⟨enabled, size, past, queue, after, Or.inl rfl⟩

/-- `serial_rx_available` reads the flag, or the ends of the ring buffer. -/
theorem count
    (attended : Attended .count actionPerformed looked rx) :
    Attended (rx.step .statement).place.looking actionPerformed
      (rx.lookedAt looked) (rx.step .statement) := by
  obtain ⟨enabled, size, past, queue, whole, placed⟩ := attended
  obtain ⟨rxBuffer, rxcie, place, received, returned, answers⟩ := rx
  rcases placed with flag | ⟨ends, newest, unfilled⟩
  · cases flag
    have represents : Represents rxBuffer queue := whole.represents
    rcases full : rxBuffer.full with _ | _
    · simp only [RxSystem.step, RxSystem.statement, full,
        Bool.false_eq_true, if_false]
      refine
        ⟨enabled, size, Nat.le_refl _, queue, whole.moved rfl trivial rfl,
          Or.inr ⟨rfl, ?_, fun _ => ?_⟩⟩
      · rw [RxSystem.lookedAt, List.drop_length]
        exact List.nil_suffix
      · rw [← size]
        refine Nat.lt_of_le_of_ne represents.holds.fits fun same => ?_
        rw [represents.full.mpr same] at full
        cases full
    · simp only [RxSystem.step, RxSystem.statement, full, if_true]
      refine
        ⟨enabled, size, Nat.le_refl _, queue,
          ⟨represents, trivial, rfl⟩, rfl, fun nothing => ?_⟩
      rw [RxSystem.lastAnswer_answer] at nothing
      have some : rxBuffer.size.toNat = rxBufferSize :=
        size
      change rxBuffer.size = 0 at nothing
      rw [nothing] at some
      cases some
  · cases ends
    have represents : Represents rxBuffer queue := whole.represents
    refine
      ⟨enabled, size, past, queue, ⟨represents, trivial, rfl⟩, rfl,
        fun nothing => ?_⟩
    have zero : rxBuffer.virtIdx rxBuffer.last = 0 := by
      rw [RxSystem.step, RxSystem.statement,
        RxSystem.lastAnswer_answer] at nothing
      exact nothing
    rcases represents.virtIdx_last with counted | ⟨_, full⟩
    · left
      rw [zero] at counted
      have none : queue = [] :=
        List.eq_nil_of_length_eq_zero counted.symm
      rw [none] at newest ⊢
      exact (List.suffix_nil.mp newest).symm
    · right
      have full : queue.length = rxBufferSize :=
        full.trans size
      refine ⟨fun none => ?_, newest, full⟩
      exact absurd full (Nat.ne_of_lt (unfilled none))

/-- A statement of `serial_rx`, or of the rest of the handler. -/
theorem work
    (attended : Attended .work actionPerformed looked rx) :
    Attended .work actionPerformed looked (rx.step .statement) := by
  obtain ⟨enabled, size, past, queue, whole, _⟩ := attended
  obtain ⟨received, sameEnable⟩ := RxSystem.kept_statement whole.reads
  obtain ⟨next, after⟩ := whole.statement
  refine ⟨sameEnable.trans enabled, ?_, ?_, next, after, trivial⟩
  · rw [RxSystem.size_step]
    exact size
  · change looked ≤ rx.statement.received.length
    rw [received]
    exact past

/-- `serial_rx` is called. -/
theorem serialRx
    (attended : Attended .work actionPerformed looked rx)
    (buf : ByteMemory.Memory)
    (size : UInt8) :
    Attended .work actionPerformed looked
      (rx.step (.call .serialRx buf size)) := by
  rw [RxSystem.step, RxSystem.enter]
  split
  · rename_i outside
    obtain ⟨enabled, sameSize, past, queue, whole, _⟩ := attended
    obtain ⟨rxBuffer, rxcie, _, received, returned, answers⟩ := rx
    cases outside
    exact
      ⟨enabled, sameSize, past, queue, whole.moved rfl trivial rfl,
        trivial⟩
  · exact attended

/-- The loop goes on to another place, and the receiver suits it. -/
theorem moved
    (attended : Attended place actionPerformed looked rx)
    {next : LoopPlace}
    {performed : Bool}
    (suits :
      ∀ queue,
        Placed actionPerformed (rx.received.drop looked) queue rx place →
          Placed performed (rx.received.drop looked) queue rx next) :
    Attended next performed looked rx := by
  obtain ⟨enabled, size, past, queue, whole, placed⟩ := attended
  exact ⟨enabled, size, past, queue, whole, suits queue placed⟩

end Attended

namespace MainLoop

/-- The macro sleeps for its condition, and the receiver suits the place. -/
structure Standing (loop : MainLoop) : Prop where
  consistent : loop.sleeper.Consistent false loop.idle
  awake : loop.place ≠ .sleep → loop.sleeper.core.asleep = false
  attended :
    Attended loop.place loop.actionPerformed loop.looked loop.rx

namespace Standing

variable {loop : MainLoop}

theorem instruction
    (standing : loop.Standing)
    (awake : loop.sleeper.core.asleep = false) :
    loop.instruction.Standing := by
  obtain ⟨sleeper, place, actionPerformed, looked⟩ := loop
  have attended := standing.attended
  cases place with
  | reset =>
      exact ⟨awake, fun _ => awake, attended.moved fun _ => id⟩
  | look => exact ⟨awake, fun _ => awake, attended.look⟩
  | count => exact ⟨awake, fun _ => awake, attended.count⟩
  | answer =>
      rw [MainLoop.instruction]
      dsimp only
      split
      · rename_i nothing
        refine ⟨awake, fun _ => awake, attended.moved fun _ placed => ?_⟩
        exact ⟨placed.1, fun _ => placed.2 nothing⟩
      · exact
          ⟨awake, fun _ => awake, attended.moved fun _ _ => trivial⟩
  | work => exact ⟨awake, fun _ => awake, attended.work⟩
  | sleep =>
      rw [MainLoop.instruction]
      dsimp only
      split
      · exact
          ⟨awake, fun _ => awake, attended.moved fun _ placed => placed.1⟩
      · refine ⟨?_, fun elsewhere => absurd rfl elsewhere, ?_⟩
        · exact
            @Sleeper.consistent_step RxSystem Unit false _ sleeper
              (fun _ => id) standing.consistent .advance
        · change
            Attended .sleep actionPerformed looked
              (Sleeper.sleepOn _ sleeper).core.memory
          rw [Sleeper.sleepOn, Sleeper.memory_advance]
          exact attended

theorem serialRx
    (standing : loop.Standing)
    (awake : loop.sleeper.core.asleep = false)
    (buf : ByteMemory.Memory)
    (size : UInt8) :
    (loop.serialRx buf size).Standing := by
  obtain ⟨sleeper, place, actionPerformed, looked⟩ := loop
  cases place with
  | work =>
      exact
        ⟨awake, fun _ => awake, standing.attended.serialRx buf size⟩
  | _ => exact standing

theorem again
    (standing : loop.Standing)
    (awake : loop.sleeper.core.asleep = false) :
    loop.again.Standing := by
  rw [MainLoop.again]
  split
  · rename_i outside
    obtain ⟨enabled, size, past, queue, whole, _⟩ := standing.attended
    exact
      ⟨awake, fun _ => awake, enabled, size, past, queue, whole, outside⟩
  · exact standing

theorem interrupt
    (standing : loop.Standing)
    (kind : MasterInterrupt) :
    (loop.step (.interrupt kind)).Standing := by
  refine ⟨standing.consistent.interrupt _, ?_, ?_⟩
  · intro elsewhere
    exact Core.awake_interrupt (standing.awake elsewhere) _
  · exact
      @Core.memory_interrupt RxSystem
        (Attended loop.place loop.actionPerformed loop.looked)
        (receiveInterrupt kind)
        (fun _ attended => attended.interrupt kind) loop.sleeper.core
        standing.attended

theorem step
    (standing : loop.Standing)
    (event : LoopEvent) :
    (loop.step event).Standing := by
  cases event with
  | advance =>
      rw [MainLoop.step]
      split
      · exact standing
      · rename_i awake
        exact standing.instruction (Bool.not_eq_true _ ▸ awake)
  | serialRx buf size =>
      rw [MainLoop.step]
      split
      · exact standing
      · rename_i awake
        exact standing.serialRx (Bool.not_eq_true _ ▸ awake) buf size
  | again =>
      rw [MainLoop.step]
      split
      · exact standing
      · rename_i awake
        exact standing.again (Bool.not_eq_true _ ▸ awake)
  | interrupt kind => exact standing.interrupt kind

/-- A master that sleeps has looked, and an interrupt wakes it. -/
theorem asleep
    (standing : loop.Standing)
    (asleep : loop.sleeper.core.asleep = true) :
    loop.place = .sleep ∧ loop.actionPerformed = false ∧
      loop.sleeper.core.Interruptible := by
  have place : loop.place = .sleep := by
    by_contra elsewhere
    have awake := standing.awake elsewhere
    rw [asleep] at awake
    cases awake
  obtain ⟨idle, interruptible⟩ := standing.consistent.wakeful asleep
  rw [MainLoop.idle, Bool.not_eq_true'] at idle
  exact ⟨place, idle, interruptible⟩

/-- Except in `serial_rx` the ring buffer stands for a queue as it is. -/
theorem represents
    (standing : loop.Standing)
    (idle : loop.place ≠ .work) :
    ∃ queue,
      Represents loop.rx.rxBuffer queue ∧
        Placed loop.actionPerformed loop.late queue loop.rx
          loop.place := by
  obtain ⟨_, _, _, queue, whole, placed⟩ := standing.attended
  refine ⟨queue, ?_, placed⟩
  exact whole.settled_eq (placed.elsewhere idle) ▸ whole.represents

/-- It sleeps on bytes that it does not know of. -/
theorem overlooked
    (standing : loop.Standing)
    (asleep : loop.sleeper.core.asleep = true) :
    loop.rx.rxBuffer.contents.length ≤ rxBufferSize ∧
      Overlooked loop.rx.rxBuffer.contents loop.late := by
  obtain ⟨place, idle, _⟩ := standing.asleep asleep
  obtain ⟨queue, represents, placed⟩ :=
    standing.represents (place ▸ LoopPlace.noConfusion)
  have size := standing.attended.size
  rw [place] at placed
  rw [represents.contents_eq, ← size]
  exact ⟨represents.holds.fits, placed.2 idle⟩

end Standing

/-- The ring buffer of the receiver is new. -/
theorem represents_start : Represents start.rx.rxBuffer [] := by
  have accepted : 2 ≤ UInt8.ofNat rxBufferSize := by
    decide
  obtain ⟨rxBuffer, created, _, represents⟩ :=
    represents_new (fun _ => 0) accepted
  have same :
      Ringbuffer.new (fun _ => 0) (UInt8.ofNat rxBufferSize) =
        some start.rx.rxBuffer :=
    rfl
  cases created.symm.trans same
  exact represents

theorem standing_start : start.Standing :=
  ⟨rfl, fun _ => rfl, rfl, rfl, Nat.le_refl _, [],
    ⟨represents_start, trivial, rfl⟩, rfl⟩

theorem standing_run (events : List LoopEvent) : (run events).Standing := by
  have kept :
      ∀ (loop : MainLoop) (event : LoopEvent),
        loop.Standing → (loop.step event).Standing :=
    fun _ event standing => standing.step event
  exact (always_of_kept kept standing_start events).last

/-! ## Bytes that nobody has looked at -/

/-- The master can come to sleep with such bytes unread, the last ones late. -/
def SleepsOn (unread late : List UInt8) : Prop :=
  ∃ events,
    (run events).sleeper.core.asleep = true ∧
      (run events).rx.rxBuffer.contents = unread ∧
      (run events).late = late

/-- The receive interrupt reads some bytes, one after the other. -/
def receptions (bytes : List UInt8) : List LoopEvent :=
  bytes.map fun byte => .interrupt (.rx byte)

/-- As long as there is room, all of them come into the ring buffer. -/
theorem foldl_receptions
    {rx : RxSystem}
    {queue : List UInt8}
    (enabled : rx.rxcie = true)
    (represents : Represents rx.rxBuffer queue)
    {bytes : List UInt8}
    (room : queue.length + bytes.length ≤ rx.rxBuffer.size.toNat)
    (place : LoopPlace)
    (looked : Nat) :
    ∃ rxBuffer,
      rxBuffer.size = rx.rxBuffer.size ∧
        Represents rxBuffer (queue ++ bytes) ∧
        (receptions bytes).foldl step (idleAt rx place looked) =
          idleAt
            { rx with
              rxBuffer := rxBuffer
              received := rx.received ++ bytes }
            place looked := by
  induction bytes generalizing rx queue with
  | nil =>
      refine ⟨rx.rxBuffer, rfl, ?_, ?_⟩
      · rw [List.append_nil]
        exact represents
      · rw [List.append_nil]
        rfl
  | cons byte rest inductionHypothesis =>
      rw [List.length_cons] at room
      obtain ⟨next, size, longer, stored⟩ :=
        RxSystem.isr_of_room represents (by omega) byte
      have taken :
          (idleAt rx place looked).step (.interrupt (.rx byte)) =
            idleAt
              { rx with
                rxBuffer := next
                received := rx.received ++ [byte] }
              place looked := by
        rw [← stored, step, Sleeper.interrupt,
          Core.interrupt_of_interruptible ⟨rfl, rfl⟩, receiveInterrupt,
          RxSystem.step]
        change
          idleAt (if rx.rxcie = true then rx.isr byte else rx) _ _ = _
        rw [if_pos enabled]
        rfl
      have fits :
          (queue ++ [byte]).length + rest.length ≤ next.size.toNat := by
        rw [List.length_append, List.length_singleton, size]
        omega
      obtain ⟨rxBuffer, sameSize, all, received⟩ :=
        @inductionHypothesis
          { rx with
            rxBuffer := next
            received := rx.received ++ [byte] }
          _ enabled longer fits
      refine ⟨rxBuffer, sameSize.trans size, ?_, ?_⟩
      · rw [List.append_assoc] at all
        exact all
      · rw [receptions, List.map_cons, List.foldl_cons, taken]
        rw [List.append_assoc] at received
        exact received

/-- The look of an idle loop begins. -/
theorem foldl_look
    {rx : RxSystem}
    (outside : rx.place = .outside)
    (notFull : rx.rxBuffer.full = false)
    (looked : Nat) :
    [LoopEvent.advance, .advance, .advance].foldl step
        (idleAt rx .reset looked) =
      idleAt { rx with place := .usedEnds } .count rx.received.length := by
  obtain ⟨rxBuffer, rxcie, _, received, returned, answers⟩ := rx
  cases outside
  have unfilled : rxBuffer.full = false :=
    notFull
  simp [idleAt, awakeCore, step, instruction, execute, MainLoop.rx,
    Sleeper.start, Core.execute, RxSystem.step, RxSystem.enter,
    RxSystem.statement, RxSystem.lookedAt, RxPlace.looking, unfilled]

/-- It ends with the answer 0. -/
theorem foldl_nothing
    {rx : RxSystem}
    (ends : rx.place = .usedEnds)
    (zero : rx.rxBuffer.virtIdx rx.rxBuffer.last = 0)
    (looked : Nat) :
    [LoopEvent.advance, .advance].foldl step (idleAt rx .count looked) =
      idleAt (rx.answer 0) .sleep looked := by
  obtain ⟨rxBuffer, rxcie, _, received, returned, answers⟩ := rx
  cases ends
  have nothing : rxBuffer.virtIdx rxBuffer.last = 0 :=
    zero
  simp [idleAt, awakeCore, step, instruction, execute, MainLoop.rx,
    Sleeper.start, Core.execute, RxSystem.step, RxSystem.statement,
    RxSystem.answer, RxSystem.lastAnswer, RxSystem.lookedAt,
    RxPlace.looking, nothing]

/-- A loop that has found nothing falls asleep. -/
theorem sleepsOn_of_idle
    {events : List LoopEvent}
    {rx : RxSystem}
    {looked : Nat}
    (idle : run events = idleAt rx .sleep looked) :
    SleepsOn rx.rxBuffer.contents (rx.received.drop looked) := by
  have sleeps :
      ((List.replicate 6 .advance).foldl step
            (idleAt rx .sleep looked)).sleeper.core.asleep = true ∧
        ((List.replicate 6 .advance).foldl step
            (idleAt rx .sleep looked)).rx = rx ∧
        ((List.replicate 6 .advance).foldl step
          (idleAt rx .sleep looked)).looked = looked := by
    simp [List.replicate, idleAt, awakeCore, step, instruction,
      MainLoop.rx, MainLoop.idle, Sleeper.start, Sleeper.sleepOn,
      Sleeper.advance, Sleeper.instruction, Core.execute, Core.cli,
      Core.setSleep, Core.sei, Core.sleepCpu]
  obtain ⟨asleep, sameRx, sameLooked⟩ := sleeps
  refine ⟨events ++ List.replicate 6 .advance, ?_⟩
  rw [late, run, List.foldl_append]
  rw [run] at idle
  rw [idle, sameRx, sameLooked]
  exact ⟨asleep, rfl, rfl⟩

/-- The receiver of a loop that has not handled anything yet. -/
def untouched
    (rxBuffer : Ringbuffer)
    (place : RxPlace)
    (received : List UInt8) : RxSystem where
  rxBuffer := rxBuffer
  rxcie := true
  place := place
  received := received
  returned := []
  answers := []

/-- Bytes come between the look of the handler and the macro's `cli`. -/
theorem sleepsOn_late
    {bytes : List UInt8}
    (fits : bytes.length ≤ rxBufferSize) :
    SleepsOn bytes bytes := by
  have begun :
      [LoopEvent.advance, .advance, .advance].foldl step start =
        idleAt (untouched start.rx.rxBuffer .usedEnds []) .count 0 :=
    foldl_look rfl rfl 0
  have ended :
      [LoopEvent.advance, .advance].foldl step
          (idleAt (untouched start.rx.rxBuffer .usedEnds []) .count 0) =
        idleAt
          ((untouched start.rx.rxBuffer .usedEnds []).answer 0)
          .sleep 0 :=
    foldl_nothing rfl rfl 0
  obtain ⟨rxBuffer, _, represents, received⟩ :=
    @foldl_receptions
      ((untouched start.rx.rxBuffer .usedEnds []).answer 0) [] rfl
      represents_start bytes
      ((Nat.zero_add bytes.length).symm ▸ fits) .sleep 0
  have idle :
      run
          ([.advance, .advance, .advance] ++ [.advance, .advance] ++
            receptions bytes) =
        idleAt
          { (untouched start.rx.rxBuffer .usedEnds []).answer 0 with
            rxBuffer := rxBuffer
            received := bytes }
          .sleep 0 := by
    rw [run, List.foldl_append, List.foldl_append, begun, ended]
    exact received
  have sleeps : SleepsOn rxBuffer.contents bytes :=
    sleepsOn_of_idle idle
  rw [represents.contents_eq] at sleeps
  exact sleeps

/-- The last bytes fill the ring buffer between the two accesses of the look. -/
theorem sleepsOn_filled
    {older bytes : List UInt8}
    (some : bytes ≠ [])
    (full : (older ++ bytes).length = rxBufferSize) :
    SleepsOn (older ++ bytes) bytes := by
  have positive := List.length_pos_iff.mpr some
  have total : older.length + bytes.length = rxBufferSize := by
    rw [← List.length_append]
    exact full
  obtain ⟨before, sameSize, holdsOlder, received⟩ :
      ∃ before,
        before.size = start.rx.rxBuffer.size ∧
          Represents before older ∧
          (receptions older).foldl step start =
            idleAt (untouched before .outside older) .reset 0 := by
    refine
      @foldl_receptions start.rx [] rfl represents_start older ?_ .reset 0
    change 0 + older.length ≤ rxBufferSize
    omega
  have size : before.size.toNat = rxBufferSize := by
    rw [sameSize]
    rfl
  have notFull : before.full = false := by
    rw [← Bool.not_eq_true, holdsOlder.full, size]
    omega
  have begun :
      [LoopEvent.advance, .advance, .advance].foldl step
          (idleAt (untouched before .outside older) .reset 0) =
        idleAt (untouched before .usedEnds older) .count older.length :=
    foldl_look rfl notFull 0
  obtain ⟨filled, filledSize, holdsAll, more⟩ :
      ∃ filled,
        filled.size = before.size ∧
          Represents filled (older ++ bytes) ∧
          (receptions bytes).foldl step
              (idleAt (untouched before .usedEnds older) .count
                older.length) =
            idleAt (untouched filled .usedEnds (older ++ bytes)) .count
              older.length :=
    @foldl_receptions (untouched before .usedEnds older) older rfl
      holdsOlder bytes (Nat.le_of_eq (total.trans size.symm)) .count
      older.length
  have zero : filled.virtIdx filled.last = 0 := by
    refine holdsAll.virtIdx_last_of_full ?_
    rw [filledSize, size]
    exact full
  have ended :
      [LoopEvent.advance, .advance].foldl step
          (idleAt (untouched filled .usedEnds (older ++ bytes)) .count
            older.length) =
        idleAt
          ((untouched filled .usedEnds (older ++ bytes)).answer 0)
          .sleep older.length :=
    foldl_nothing rfl zero older.length
  have idle :
      run
          (receptions older ++ [.advance, .advance, .advance] ++
            receptions bytes ++ [.advance, .advance]) =
        idleAt
          ((untouched filled .usedEnds (older ++ bytes)).answer 0)
          .sleep older.length := by
    rw [run, List.foldl_append, List.foldl_append, List.foldl_append,
      received, begun, more]
    exact ended
  have sleeps :
      SleepsOn filled.contents ((older ++ bytes).drop older.length) :=
    sleepsOn_of_idle idle
  rw [holdsAll.contents_eq, List.drop_left] at sleeps
  exact sleeps

/--
The master can sleep on received bytes: on those, at most as many as the ring
buffer has cells, that came after its last look had read the flag of the ring
buffer, and on a full ring buffer that some of these bytes have filled.  It can
sleep on no others.
-/
theorem asleep_iff_receivedLate (unread late : List UInt8) :
    SleepsOn unread late ↔
      unread.length ≤ rxBufferSize ∧ Overlooked unread late := by
  constructor
  · rintro ⟨events, asleep, rfl, rfl⟩
    exact (standing_run events).overlooked asleep
  · rintro ⟨fits, same | ⟨some, ⟨older, joined⟩, full⟩⟩
    · subst same
      exact sleepsOn_late fits
    · subst joined
      exact sleepsOn_filled some full

end MainLoop

/-! ## The next interrupt -/

/-- What an interrupt may change between two accesses to the ring buffer. -/
structure Grown (rx after : RxSystem) : Prop where
  place : after.place = rx.place
  answers : after.answers = rx.answers
  contents : rx.rxBuffer.contents <+: after.rxBuffer.contents
  full : rx.rxBuffer.full = true → after.rxBuffer.full = true

theorem Grown.refl (rx : RxSystem) : Grown rx rx :=
  ⟨rfl, rfl, List.prefix_refl _, id⟩

theorem Attended.grown
    {place : LoopPlace}
    {actionPerformed : Bool}
    {looked : Nat}
    {rx : RxSystem}
    (attended : Attended place actionPerformed looked rx)
    (idle : place ≠ .work)
    (kind : MasterInterrupt) :
    Grown rx (receiveInterrupt kind rx) := by
  obtain ⟨enabled, _, _, queue, whole, placed⟩ := attended
  have elsewhere := placed.elsewhere idle
  have represents : Represents rx.rxBuffer queue :=
    whole.settled_eq elsewhere ▸ whole.represents
  cases kind with
  | other => exact .refl rx
  | rx udr0 =>
      rw [receiveInterrupt, RxSystem.step, if_pos enabled]
      rcases whole.isr_settled elsewhere udr0 with
        ⟨same, _⟩ | ⟨room, after, _, samePlace, sameAnswers⟩
      · rw [same]
        exact .refl rx
      · have longer :
            Represents (rx.isr udr0).rxBuffer (queue ++ [udr0]) :=
          after.settled_eq (samePlace ▸ elsewhere) ▸ after.represents
        refine ⟨samePlace, sameAnswers, ?_, fun full => ?_⟩
        · rw [represents.contents_eq, longer.contents_eq]
          exact List.prefix_append queue [udr0]
        · exact absurd (represents.full.mp full) (Nat.ne_of_lt room)

/--
There is something to look for, and the look that is underway will notice it,
unless it becomes full meanwhile.
-/
structure Noticed
    (wasFull : Bool)
    (place : LoopPlace)
    (rx : RxSystem) : Prop where
  unread : rx.rxBuffer.contents ≠ []
  full : wasFull = true → rx.rxBuffer.full = true
  counted : place = .count → rx.place = .usedFull ∨ wasFull = false
  answered :
    place = .answer → rx.lastAnswer = 0 →
      wasFull = false ∧ rx.rxBuffer.full = true

theorem Noticed.grown
    {wasFull : Bool}
    {place : LoopPlace}
    {rx after : RxSystem}
    (noticed : Noticed wasFull place rx)
    (grown : Grown rx after) :
    Noticed wasFull place after := by
  refine ⟨?_, fun was => grown.full (noticed.full was), ?_, ?_⟩
  · intro none
    have shorter := grown.contents
    rw [none] at shorter
    exact noticed.unread (List.prefix_nil.mp shorter)
  · intro counting
    rw [grown.place]
    exact noticed.counted counting
  · intro answered nothing
    rw [RxSystem.lastAnswer, grown.answers] at nothing
    obtain ⟨wasNot, full⟩ := noticed.answered answered nothing
    exact ⟨wasNot, grown.full full⟩

/-- Between looks only the unread bytes count. -/
theorem Noticed.moved
    {wasFull : Bool}
    {place : LoopPlace}
    {rx after : RxSystem}
    {next : LoopPlace}
    (noticed : Noticed wasFull place rx)
    (same : after.rxBuffer = rx.rxBuffer)
    (counted : next = .count → after.place = .usedFull ∨ wasFull = false)
    (answered :
      next = .answer → after.lastAnswer = 0 →
        wasFull = false ∧ rx.rxBuffer.full = true) :
    Noticed wasFull next after := by
  refine ⟨?_, ?_, counted, ?_⟩
  · rw [same]
    exact noticed.unread
  · rw [same]
    exact noticed.full
  · rw [same]
    exact answered

namespace MainLoop

/-- The instructions that are left before a packet is handled. -/
def untilWork (loop : MainLoop) : Nat :=
  match loop.place with
  | .work => 0
  | .answer => 1
  | .count =>
      match loop.rx.place with
      | .usedFull => 3
      | _ => 2
  | .look => 4
  | .reset => 5
  | .sleep =>
      match loop.sleeper.point with
      | .left => 6
      | .restore => 7
      | .sleepDisable => 8
      -- the loop may sleep first
      | _ => 9

/-- The number of instructions in a run. -/
def advances : List LoopEvent → Nat
  | [] => 0
  | .advance :: later => advances later + 1
  | _ :: later => advances later

/--
The loop handles a packet; or it goes to sleep once more, with a ring buffer that
was not full before and is full now.
-/
def Handles (wasFull : Bool) (loop : MainLoop) : Prop :=
  loop.place = .work ∨
    wasFull = false ∧ loop.place = .sleep ∧
      loop.rx.rxBuffer.full = true

/-- The loop is awake on its way to bytes that are there. -/
structure Coming (wasFull : Bool) (loop : MainLoop) : Prop where
  standing : loop.Standing
  awake : loop.sleeper.core.asleep = false
  noticed : Noticed wasFull loop.place loop.rx
  soon : loop.untilWork ≤ 8
  notYet : loop.place ≠ .work

namespace Coming

variable {wasFull : Bool} {loop : MainLoop}

/-- The next access of `serial_rx_available`. -/
theorem count
    {rx : RxSystem}
    {queue : List UInt8}
    (represents : Represents rx.rxBuffer queue)
    (size : rx.rxBuffer.size.toNat = rxBufferSize)
    (noticed : Noticed wasFull .count rx)
    (place : rx.place = .usedFull ∨ rx.place = .usedEnds) :
    Noticed wasFull (rx.step .statement).place.looking
      (rx.step .statement) := by
  obtain ⟨rxBuffer, rxcie, _, received, returned, answers⟩ := rx
  have represents : Represents rxBuffer queue :=
    represents
  rcases place with flag | ends
  · cases flag
    rcases full : rxBuffer.full with _ | _
    · simp only [RxSystem.step, RxSystem.statement, full,
        Bool.false_eq_true, if_false]
      refine
        noticed.moved rfl (fun _ => Or.inr ?_) (fun same => by cases same)
      refine Bool.eq_false_iff.mpr fun was => ?_
      exact Bool.eq_false_iff.mp full (noticed.full was)
    · simp only [RxSystem.step, RxSystem.statement, full, if_true]
      refine
        noticed.moved rfl (fun same => by cases same)
          (fun _ nothing => ?_)
      rw [RxSystem.lastAnswer_answer] at nothing
      change rxBuffer.size = 0 at nothing
      change rxBuffer.size.toNat = rxBufferSize at size
      rw [nothing] at size
      cases size
  · cases ends
    have wasNot : wasFull = false := by
      rcases noticed.counted rfl with flag | wasNot
      · cases flag
      · exact wasNot
    refine
      noticed.moved rfl (fun same => by cases same)
        (fun _ nothing => ⟨wasNot, ?_⟩)
    have zero : rxBuffer.virtIdx rxBuffer.last = 0 := by
      rw [RxSystem.step, RxSystem.statement,
        RxSystem.lastAnswer_answer] at nothing
      exact nothing
    rcases represents.virtIdx_last with counted | ⟨_, full⟩
    · rw [zero] at counted
      have none : queue = [] :=
        List.eq_nil_of_length_eq_zero counted.symm
      refine absurd ?_ noticed.unread
      change rxBuffer.contents = []
      rw [represents.contents_eq, none]
    · exact represents.full.mpr full

theorem closer_count
    {sleeper : Sleeper RxSystem}
    {actionPerformed : Bool}
    {looked : Nat}
    {late queue : List UInt8}
    (placed :
      Placed actionPerformed late queue sleeper.core.memory .count) :
    (instruction ⟨sleeper, .count, actionPerformed, looked⟩).untilWork <
      untilWork ⟨sleeper, .count, actionPerformed, looked⟩ := by
  obtain ⟨⟨rx, _, _, _, _⟩, point, sregBak⟩ := sleeper
  obtain ⟨rxBuffer, rxcie, _, received, returned, answers⟩ := rx
  rcases placed with flag | ⟨ends, _⟩
  · cases flag
    rcases full : rxBuffer.full with _ | _
    · simp [untilWork, instruction, execute, MainLoop.rx, Core.execute,
        Sleeper.start, RxSystem.step, RxSystem.statement,
        RxPlace.looking, full]
    · simp [untilWork, instruction, execute, MainLoop.rx, Core.execute,
        Sleeper.start, RxSystem.step, RxSystem.statement,
        RxSystem.answer, RxPlace.looking, full]
  · cases ends
    exact of_decide_eq_true rfl

/-- Every instruction brings the loop closer. -/
theorem advance (coming : loop.Coming wasFull) :
    (loop.step .advance).Handles wasFull ∨
      (loop.step .advance).Coming wasFull ∧
        (loop.step .advance).untilWork < loop.untilWork := by
  obtain ⟨queue, represents, placed⟩ :=
    coming.standing.represents coming.notYet
  have next := coming.standing.step .advance
  have size := coming.standing.attended.size
  obtain ⟨⟨core, point, sregBak⟩, place, actionPerformed, looked⟩ := loop
  obtain ⟨_, awake, noticed, soon, notYet⟩ := coming
  have notAsleep : ¬ core.asleep = true := by
    rw [Bool.not_eq_true]
    exact awake
  rw [step, if_neg notAsleep] at next ⊢
  cases place with
  | work => exact absurd rfl notYet
  | reset =>
      right
      exact
        ⟨⟨next, awake,
            noticed.moved rfl LoopPlace.noConfusion LoopPlace.noConfusion,
            of_decide_eq_true rfl, LoopPlace.noConfusion⟩,
          of_decide_eq_true rfl⟩
  | look =>
      right
      have outside : core.memory.place = .outside :=
        placed
      have entered :
          (instruction ⟨⟨core, point, sregBak⟩, .look, actionPerformed,
              looked⟩).rx =
            { core.memory with place := .usedFull } := by
        change core.memory.step .available = _
        rw [RxSystem.step, RxSystem.enter, outside]
      have three :
          untilWork
              (instruction ⟨⟨core, point, sregBak⟩, .look,
                actionPerformed, looked⟩) =
            3 := by
        rw [untilWork, entered]
        rfl
      refine ⟨⟨next, awake, ?_, ?_, LoopPlace.noConfusion⟩, ?_⟩
      · rw [entered]
        exact
          noticed.moved rfl (fun _ => Or.inl rfl) LoopPlace.noConfusion
      · rw [three]
        exact of_decide_eq_true rfl
      · rw [three]
        exact of_decide_eq_true rfl
  | count =>
      right
      have closer :
          (instruction ⟨⟨core, point, sregBak⟩, .count, actionPerformed,
              looked⟩).untilWork <
            untilWork
              ⟨⟨core, point, sregBak⟩, .count, actionPerformed, looked⟩ :=
        closer_count placed
      refine
        ⟨⟨next, awake,
            count represents size noticed (placed.imp id And.left),
            (Nat.le_of_lt closer).trans soon, ?_⟩,
          closer⟩
      change (core.memory.step .statement).place.looking ≠ .work
      cases (core.memory.step .statement).place with
      | _ => exact LoopPlace.noConfusion
  | answer =>
      left
      rw [instruction]
      dsimp only
      split
      · rename_i nothing
        obtain ⟨wasNot, full⟩ := noticed.answered rfl nothing
        exact Or.inr ⟨wasNot, rfl, full⟩
      · exact Or.inl rfl
  | sleep =>
      right
      cases point with
      | left =>
          exact
            ⟨⟨next, awake,
                noticed.moved rfl LoopPlace.noConfusion
                  LoopPlace.noConfusion,
                of_decide_eq_true rfl, LoopPlace.noConfusion⟩,
              of_decide_eq_true rfl⟩
      | restore =>
          rw [instruction] at next ⊢
          dsimp only at next ⊢
          rw [if_neg (by decide), Sleeper.sleepOn, Sleeper.advance,
            if_neg notAsleep] at next ⊢
          exact
            ⟨⟨next, awake, noticed, of_decide_eq_true rfl,
                LoopPlace.noConfusion⟩,
              of_decide_eq_true rfl⟩
      | sleepDisable =>
          rw [instruction] at next ⊢
          dsimp only at next ⊢
          rw [if_neg (by decide), Sleeper.sleepOn, Sleeper.advance,
            if_neg notAsleep] at next ⊢
          exact
            ⟨⟨next, awake, noticed, of_decide_eq_true rfl,
                LoopPlace.noConfusion⟩,
              of_decide_eq_true rfl⟩
      | _ => exact absurd soon (Nat.not_succ_le_self 8)

/-- An interrupt does not take the loop from its way. -/
theorem interrupt
    (coming : loop.Coming wasFull)
    (kind : MasterInterrupt) :
    (loop.step (.interrupt kind)).Coming wasFull ∧
      (loop.step (.interrupt kind)).untilWork = loop.untilWork := by
  obtain ⟨standing, awake, noticed, soon, notYet⟩ := coming
  have grown :
      Grown loop.rx (loop.sleeper.core.interrupt
        (receiveInterrupt kind)).memory := by
    rw [Core.interrupt]
    split
    · exact standing.attended.grown notYet kind
    · exact .refl loop.rx
  have same :
      (loop.step (.interrupt kind)).untilWork = loop.untilWork := by
    have place : (loop.step (.interrupt kind)).rx.place = loop.rx.place :=
      grown.place
    rw [untilWork, place]
    rfl
  exact
    ⟨⟨standing.interrupt kind, Core.awake_interrupt awake _,
        noticed.grown grown, same.symm ▸ soon, notYet⟩,
      same⟩

end Coming

/-- An interrupt sets a sleeping loop on its way. -/
theorem Standing.coming
    {loop : MainLoop}
    (standing : loop.Standing)
    (asleep : loop.sleeper.core.asleep = true)
    {kind : MasterInterrupt}
    (unread : (loop.step (.interrupt kind)).rx.rxBuffer.contents ≠ []) :
    (loop.step (.interrupt kind)).Coming
        (loop.step (.interrupt kind)).rx.rxBuffer.full ∧
      (loop.step (.interrupt kind)).untilWork ≤ 8 := by
  obtain ⟨place, _, interruptible⟩ := standing.asleep asleep
  have point : loop.sleeper.point = .sleepDisable := by
    have consistent := standing.consistent
    obtain ⟨⟨core, point, sregBak⟩, _, _, _⟩ := loop
    have sleeps : core.asleep = true := asleep
    cases point with
    | sleepDisable => rfl
    | save => cases sleeps.symm.trans consistent
    | cli => cases sleeps.symm.trans consistent
    | left => cases sleeps.symm.trans consistent
    | _ => cases sleeps.symm.trans consistent.1
  have awake : (loop.step (.interrupt kind)).sleeper.core.asleep = false := by
    rw [MainLoop.step, Sleeper.interrupt,
      Core.interrupt_of_interruptible interruptible]
  have soon : (loop.step (.interrupt kind)).untilWork = 8 := by
    obtain ⟨⟨_, _, _⟩, _, _, _⟩ := loop
    cases place
    cases point
    rfl
  have elsewhere :
      ∀ other, other ≠ .sleep →
        (loop.step (.interrupt kind)).place ≠ other := by
    intro other different same
    exact different (same.symm.trans place)
  refine
    ⟨⟨standing.step _, awake, ⟨unread, id, ?_, ?_⟩, Nat.le_of_eq soon,
        elsewhere .work LoopPlace.noConfusion⟩,
      Nat.le_of_eq soon⟩
  · intro counting
    exact absurd counting (elsewhere .count LoopPlace.noConfusion)
  · intro answered
    exact absurd answered (elsewhere .answer LoopPlace.noConfusion)

end MainLoop

end Ammc.Master
