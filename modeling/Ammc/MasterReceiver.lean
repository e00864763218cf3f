import Ammc.EventRuns
import Ammc.MasterSerial
import Ammc.Ringbuffer

namespace Ammc.Master

open ByteMemory

/-!
# The receiver of the master

The receive interrupt puts bytes into the ring buffer while the functions that
take them out are running.  Those functions are cut at every access to the ring
buffer, in the order of the source, so that an interrupt can come between any two
of them; the interrupt itself is not interrupted.
-/

/-- Whether a receiving function waits for bytes that are not there yet. -/
inductive RxFunction where
  | serialRx
  | serialRxNonblock
  deriving Repr, DecidableEq

/-- The local variables of a receiving function; `buf` is its destination. -/
structure RxFrame where
  function : RxFunction
  buf : Memory
  size : UInt8
  n : UInt8

/-- The bytes that the function has counted. -/
def RxFrame.counted (frame : RxFrame) : List UInt8 :=
  frame.buf.bytes 0 frame.n.toNat

/-- `++n` -/
def RxFrame.next (frame : RxFrame) : RxFrame :=
  { frame with n := frame.n + 1 }

/-- The byte at `buf + n` is assigned. -/
def RxFrame.assign
    (byte : UInt8)
    (frame : RxFrame) : RxFrame :=
  { frame with buf := frame.buf.store frame.n.toNat [byte] }

/-- The byte is stored behind those that are counted. -/
@[simp] theorem RxFrame.counted_assign
    (byte : UInt8)
    (frame : RxFrame) :
    (frame.assign byte).counted = frame.counted :=
  Memory.bytes_congr fun position _ below =>
    Memory.store_before _ _ (by
      rw [Nat.zero_add] at below
      exact below)

@[simp] theorem RxFrame.buf_assign
    (byte : UInt8)
    (frame : RxFrame) :
    (frame.assign byte).buf frame.n.toNat = byte :=
  Memory.store_at frame.buf frame.n.toNat
    (show 0 < [byte].length from Nat.zero_lt_one)

/-- The access of the loop of a receiving function that comes next. -/
inductive RxPoint where
  /-- the test of the loop -/
  | test
  /-- `ringbuffer_isempty` in the loop: `full`, then `first` and `last` -/
  | emptyFull
  | emptyEnds
  /-- `ringbuffer_isempty` in `ringbuffer_pop` -/
  | popFull
  | popEnds
  /-- the three assignments of `ringbuffer_pop` -/
  | take
  | advance
  | clear
  deriving Repr, DecidableEq

/-- Where the program is. -/
inductive RxPlace where
  | outside
  | receiving (point : RxPoint) (frame : RxFrame)
  /-- `ringbuffer_used` in `serial_rx_available` -/
  | usedFull
  | usedEnds
  /-- `rx_cli`, the assignments of `ringbuffer_flush`, and `rx_sei` -/
  | disable
  | flushFirst
  | flushLast
  | flushFull
  | enable

/-- The program is in a function that reads the ring buffer, or in none. -/
def RxPlace.reads : RxPlace → Bool
  | .outside | .receiving _ _ | .usedFull | .usedEnds => true
  | _ => false

/--
The ring buffer and the interrupt enable flag `RXCIE0`, the place of the program,
and since the last flush every byte that was read from `UDR0` and the bytes that
the calls have returned.  Each answer of `serial_rx_available` stands beside the
number of bytes that were received and not returned at that time.
-/
structure RxSystem where
  rxBuffer : Ringbuffer
  rxcie : Bool
  place : RxPlace
  received : List UInt8
  returned : List UInt8
  answers : List (UInt8 × Nat)

namespace RxSystem

/-- `ISR(USART0_RX_vect)`; a byte that finds the buffer full stays in `UDR0`. -/
def isr
    (udr0 : UInt8)
    (system : RxSystem) : RxSystem :=
  if system.rxBuffer.isfull then
    system
  else
    -- `UDR0` is read before `ringbuffer_push` looks for room
    { system with
      rxBuffer :=
        (system.rxBuffer.push udr0).getD system.rxBuffer
      received := system.received ++ [udr0] }

/-- The function returns what it has counted. -/
def finish
    (frame : RxFrame)
    (system : RxSystem) : RxSystem :=
  { system with
    place := .outside
    returned := system.returned ++ frame.counted }

/-- The next access of a receiving function. -/
def receive
    (frame : RxFrame)
    (system : RxSystem) : RxPoint → RxSystem
  | .test =>
      if frame.n < frame.size then
        { system with place := .receiving .emptyFull frame }
      else
        system.finish frame
  | .emptyFull =>
      if system.rxBuffer.full then
        { system with place := .receiving .popFull frame }
      else
        { system with place := .receiving .emptyEnds frame }
  | .emptyEnds =>
      if system.rxBuffer.first = system.rxBuffer.last then
        match frame.function with
        | .serialRx => { system with place := .receiving .test frame }
        | .serialRxNonblock => system.finish frame
      else
        { system with place := .receiving .popFull frame }
  | .popFull =>
      if system.rxBuffer.full then
        { system with place := .receiving .take frame }
      else
        { system with place := .receiving .popEnds frame }
  | .popEnds =>
      if system.rxBuffer.first = system.rxBuffer.last then
        -- `ringbuffer_pop` fails, which its callers do not notice
        { system with place := .receiving .test frame.next }
      else
        { system with place := .receiving .take frame }
  | .take =>
      { system with
        place :=
          .receiving .advance
            (frame.assign
              (system.rxBuffer.base system.rxBuffer.first.toNat)) }
  | .advance =>
      { system with
        rxBuffer :=
          { system.rxBuffer with
            first :=
              system.rxBuffer.shiftedIdx system.rxBuffer.first }
        place := .receiving .clear frame }
  | .clear =>
      { system with
        rxBuffer := { system.rxBuffer with full := false }
        place := .receiving .test frame.next }

/-- `serial_rx_available` returns. -/
def answer
    (count : UInt8)
    (system : RxSystem) : RxSystem :=
  { system with
    place := .outside
    answers :=
      system.answers ++
        [(count, system.received.length - system.returned.length)] }

/-- The program goes on to its next access. -/
def statement (system : RxSystem) : RxSystem :=
  match system.place with
  | .outside => system
  | .receiving point frame => system.receive frame point
  | .usedFull =>
      if system.rxBuffer.full then
        system.answer system.rxBuffer.size
      else
        { system with place := .usedEnds }
  | .usedEnds =>
      system.answer (system.rxBuffer.virtIdx system.rxBuffer.last)
  | .disable =>
      { system with
        rxcie := false
        place := .flushFirst }
  | .flushFirst =>
      { system with
        rxBuffer := { system.rxBuffer with first := 0 }
        place := .flushLast
        received := []
        returned := [] }
  | .flushLast =>
      { system with
        rxBuffer := { system.rxBuffer with last := 0 }
        place := .flushFull }
  | .flushFull =>
      { system with
        rxBuffer := { system.rxBuffer with full := false }
        place := .enable }
  | .enable =>
      { system with
        rxcie := true
        place := .outside }

end RxSystem

/-- What happens next; a byte in `UDR0` causes an interrupt. -/
inductive RxEvent where
  | call (function : RxFunction) (buf : Memory) (size : UInt8)
  | available
  | reset
  | statement
  | interrupt (udr0 : UInt8)

namespace RxSystem

/-- The program calls a function of the receiver. -/
def enter
    (place : RxPlace)
    (system : RxSystem) : RxSystem :=
  match system.place with
  | .outside => { system with place := place }
  | _ => system

def step (system : RxSystem) : RxEvent → RxSystem
  | .call function buf size =>
      system.enter
        (.receiving .test
          { function := function
            buf := buf
            size := size
            n := 0 })
  | .available => system.enter .usedFull
  | .reset => system.enter .disable
  | .statement => system.statement
  | .interrupt udr0 =>
      if system.rxcie then system.isr udr0 else system

def run (system : RxSystem) (events : List RxEvent) : RxSystem :=
  events.foldl step system

/-- After `serial_init`, with the ring buffer that it has created. -/
def start (rxBuffer : Ringbuffer) : RxSystem where
  rxBuffer := rxBuffer
  rxcie := true
  place := .outside
  received := []
  returned := []
  answers := []

/-- The bytes that the call underway has taken, counted or not. -/
def taken (system : RxSystem) : List UInt8 :=
  match system.place with
  | .receiving .clear frame => frame.buf.bytes 0 (frame.n.toNat + 1)
  | .receiving _ frame => frame.counted
  | _ => []

/-- The ring buffer as the assignments that are underway leave it. -/
def settled (system : RxSystem) : Ringbuffer :=
  match system.place with
  | .receiving .clear _ => { system.rxBuffer with full := false }
  | .flushLast => system.rxBuffer.flush
  | .flushFull => system.rxBuffer.flush
  | _ => system.rxBuffer

/-- The bytes received since the last flush are returned, taken or waiting. -/
def Lossless (system : RxSystem) : Prop :=
  system.returned ++ system.taken ++ system.settled.contents =
    system.received

/-! ## The races -/

/--
The two kinds of steps that break the order: `ringbuffer_pop` finds the ends of a
buffer together that has become full since its flag was read, or an interrupt
comes between its last two assignments when only one cell is free.
-/
def Races (system : RxSystem) : RxEvent → Prop
  | .statement =>
      (∃ frame, system.place = .receiving .popEnds frame) ∧
        system.rxBuffer.first = system.rxBuffer.last
  | .interrupt _ =>
      (∃ frame, system.place = .receiving .clear frame) ∧
        system.rxcie = true ∧
        system.settled.used.toNat + 1 = system.rxBuffer.size.toNat
  | _ => False

/-! ## The invariant -/

/-- What the place of the program tells about the unread bytes. -/
def Prepared
    (queue : List UInt8) : RxPlace → Prop
  | .receiving .test _ => True
  | .receiving .emptyFull frame => frame.n < frame.size
  | .receiving .emptyEnds frame => frame.n < frame.size
  | .receiving .advance frame =>
      frame.n < frame.size ∧
        queue.head? = some (frame.buf frame.n.toNat)
  | .receiving .clear frame => frame.n < frame.size
  | .receiving _ frame => frame.n < frame.size ∧ queue ≠ []
  | _ => True

/-- An answer is the number of unread bytes, or 0 where there is no room left. -/
def Truthful (size : UInt8) (answer : UInt8 × Nat) : Prop :=
  answer.1.toNat = answer.2 ∨ answer.1 = 0 ∧ answer.2 = size.toNat

/--
What an assignment that is still to come will change: the flag, which is set only
if the buffer was full before, or the rest of a flush, which no interrupt sees.
-/
def Underway
    (queue : List UInt8)
    (system : RxSystem) : Prop :=
  match system.place with
  | .receiving .clear _ =>
      system.rxBuffer.full = true →
        queue.length + 1 = system.rxBuffer.size.toNat
  | .flushFirst => system.rxcie = false
  | .flushLast =>
      system.rxcie = false ∧ system.rxBuffer.first = 0
  | .flushFull =>
      system.rxcie = false ∧ system.rxBuffer.first = 0 ∧
        system.rxBuffer.last = 0
  | _ => True

/-- The unread bytes are `queue`, and the program has not lost its way. -/
structure Sound
    (queue : List UInt8)
    (system : RxSystem) : Prop where
  represents : Represents system.settled queue
  inOrder : system.returned ++ system.taken ++ queue = system.received
  prepared : Prepared queue system.place
  underway : Underway queue system
  truthful : ∀ answer ∈ system.answers, Truthful system.rxBuffer.size answer

/-- Where there is room, the interrupt appends its byte. -/
theorem isr_of_room
    {system : RxSystem}
    {queue : List UInt8}
    (represents : Represents system.rxBuffer queue)
    (room : queue.length < system.rxBuffer.size.toNat)
    (udr0 : UInt8) :
    ∃ rxBuffer,
      rxBuffer.size = system.rxBuffer.size ∧
        Represents rxBuffer (queue ++ [udr0]) ∧
        system.isr udr0 =
          { system with
            rxBuffer := rxBuffer
            received := system.received ++ [udr0] } := by
  have notFull : ¬ system.rxBuffer.isfull = true := fun full =>
    Nat.ne_of_lt room (represents.isfull_iff.mp full)
  obtain ⟨rxBuffer, pushed, size, longer⟩ := represents.push room udr0
  refine ⟨rxBuffer, size, longer, ?_⟩
  rw [isr, if_neg notFull, pushed, Option.getD_some]

namespace Sound

variable {system : RxSystem} {queue : List UInt8}

theorem lossless (sound : Sound queue system) : system.Lossless := by
  rw [Lossless, sound.represents.contents_eq]
  exact sound.inOrder

/-- No flag is about to be cleared that is still set. -/
theorem settled_eq
    (underway : Underway queue system)
    (enabled : system.rxcie = true)
    (cleared :
      ∀ frame, system.place = .receiving .clear frame →
        system.rxBuffer.full = false) :
    system.settled = system.rxBuffer := by
  obtain ⟨rxBuffer, rxcie, place, received, returned, answers⟩ := system
  cases enabled
  cases place with
  | receiving point frame =>
      cases point with
      | clear =>
          obtain ⟨base, first, last, size, full⟩ := rxBuffer
          cases cleared frame rfl
          rfl
      | _ => rfl
  | flushLast => cases underway.1
  | flushFull => cases underway.1
  | _ => rfl

theorem prepared_push
    {place : RxPlace}
    (prepared : Prepared queue place)
    (udr0 : UInt8) :
    Prepared (queue ++ [udr0]) place := by
  cases place with
  | receiving point frame =>
      cases point with
      | popFull => exact ⟨prepared.1, List.append_ne_nil_of_left_ne_nil prepared.2 _⟩
      | popEnds => exact ⟨prepared.1, List.append_ne_nil_of_left_ne_nil prepared.2 _⟩
      | take => exact ⟨prepared.1, List.append_ne_nil_of_left_ne_nil prepared.2 _⟩
      | advance =>
          refine ⟨prepared.1, ?_⟩
          rw [List.head?_append, prepared.2, Option.some_or]
      | _ => exact prepared
  | _ => trivial

/-- An interrupt that does not race appends its byte, if there is room. -/
theorem isr
    (sound : Sound queue system)
    (enabled : system.rxcie = true)
    {udr0 : UInt8}
    (calm : ¬ system.Races (.interrupt udr0)) :
    Sound queue (system.isr udr0) ∨
      queue.length < system.rxBuffer.size.toNat ∧
        Sound (queue ++ [udr0]) (system.isr udr0) := by
  have cleared :
      ∀ frame, system.place = .receiving .clear frame →
        system.rxBuffer.full = false := by
    intro frame place
    by_contra full
    have isFull : system.rxBuffer.full = true :=
      Bool.not_eq_false _ ▸ full
    refine calm ⟨⟨frame, place⟩, enabled, ?_⟩
    have underway := sound.underway
    rw [Underway, place] at underway
    rw [sound.represents.toNat_used]
    exact underway isFull
  have settled := settled_eq sound.underway enabled cleared
  have represents : Represents system.rxBuffer queue :=
    settled ▸ sound.represents
  by_cases full : system.rxBuffer.isfull = true
  · left
    rw [RxSystem.isr, if_pos full]
    exact sound
  · right
    have room : queue.length < system.rxBuffer.size.toNat :=
      Nat.lt_of_le_of_ne represents.holds.fits fun same =>
        full (represents.isfull_iff.mpr same)
    obtain ⟨rxBuffer, size, longer, stored⟩ :=
      isr_of_room represents room udr0
    refine ⟨room, ?_⟩
    rw [stored]
    have clearedAfter :
        ∀ frame, system.place = .receiving .clear frame →
          rxBuffer.full = false := by
      intro frame place
      by_contra becameFull
      refine calm ⟨⟨frame, place⟩, enabled, ?_⟩
      have count :=
        longer.full.mp (Bool.not_eq_false _ ▸ becameFull)
      rw [List.length_append, List.length_singleton, size] at count
      rw [settled, represents.toNat_used, count]
    have underway :
        Underway (queue ++ [udr0])
          { system with
            rxBuffer := rxBuffer
            received := system.received ++ [udr0] } := by
      have before := sound.underway
      obtain ⟨_, rxcie, place, _, _, _⟩ := system
      cases enabled
      cases place with
      | receiving point frame =>
          cases point with
          | clear =>
              intro isFull
              rw [clearedAfter frame rfl] at isFull
              cases isFull
          | _ => trivial
      | flushFirst => cases before
      | flushLast => cases before.1
      | flushFull => cases before.1
      | _ => trivial
    refine ⟨?_, ?_, prepared_push sound.prepared udr0, underway, ?_⟩
    · rw [settled_eq underway enabled clearedAfter]
      exact longer
    · change
        system.returned ++ system.taken ++ (queue ++ [udr0]) =
          system.received ++ [udr0]
      rw [← List.append_assoc, sound.inOrder]
    · intro answer member
      change Truthful rxBuffer.size answer
      rw [size]
      exact sound.truthful answer member

/-- The program goes on and has not touched the ring buffer. -/
theorem moved
    (sound : Sound queue system)
    {place : RxPlace}
    (settled :
      ({ system with place := place } : RxSystem).settled =
        system.settled)
    (taken :
      ({ system with place := place } : RxSystem).taken = system.taken)
    (prepared : Prepared queue place)
    (underway : Underway queue { system with place := place }) :
    Sound queue { system with place := place } := by
  refine ⟨?_, ?_, prepared, underway, sound.truthful⟩
  · rw [settled]
    exact sound.represents
  · rw [taken]
    exact sound.inOrder

/-- A call returns what it has counted. -/
theorem finish
    (sound : Sound queue system)
    {point : RxPoint}
    {frame : RxFrame}
    (place : system.place = .receiving point frame)
    (counted : point ≠ .clear) :
    Sound queue (system.finish frame) := by
  obtain ⟨rxBuffer, rxcie, _, received, returned, answers⟩ := system
  cases place
  have represents := sound.represents
  have inOrder := sound.inOrder
  cases point with
  | clear => exact absurd rfl counted
  | _ =>
      refine ⟨represents, ?_, trivial, trivial, sound.truthful⟩
      change returned ++ frame.counted ++ [] ++ queue = received
      rw [List.append_nil]
      exact inOrder

/-- The counter of a loop does not wrap. -/
theorem counted_next
    {frame : RxFrame}
    (inside : frame.n < frame.size) :
    frame.next.counted = frame.buf.bytes 0 (frame.n.toNat + 1) := by
  have below := UInt8.lt_iff_toNat_lt.mp inside
  have bound := frame.size.toNat_lt
  have next : (frame.n + 1).toNat = frame.n.toNat + 1 := by
    rw [UInt8.toNat_add]
    exact Nat.mod_eq_of_lt (by simp only [UInt8.reduceToNat]; omega)
  change frame.buf.bytes 0 (frame.n + 1).toNat = _
  rw [next]

/-- Every access of a receiving function that does not race. -/
theorem receive
    (sound : Sound queue system)
    {point : RxPoint}
    {frame : RxFrame}
    (place : system.place = .receiving point frame)
    (calm : ¬ system.Races .statement) :
    ∃ next,
      next.length ≤ queue.length ∧
        Sound next (system.receive frame point) := by
  obtain ⟨rxBuffer, rxcie, _, received, returned, answers⟩ := system
  cases place
  have prepared := sound.prepared
  cases point with
  | test =>
      refine ⟨queue, le_rfl, ?_⟩
      rw [RxSystem.receive]
      split
      · rename_i more
        exact sound.moved rfl rfl more trivial
      · exact sound.finish rfl RxPoint.noConfusion
  | emptyFull =>
      refine ⟨queue, le_rfl, ?_⟩
      rw [RxSystem.receive]
      split
      · rename_i full
        have represents : Represents rxBuffer queue := sound.represents
        exact
          sound.moved rfl rfl
            ⟨prepared, represents.nonempty_of_full full⟩ trivial
      · exact sound.moved rfl rfl prepared trivial
  | emptyEnds =>
      refine ⟨queue, le_rfl, ?_⟩
      rw [RxSystem.receive]
      split
      · split
        · exact sound.moved rfl rfl trivial trivial
        · exact sound.finish rfl RxPoint.noConfusion
      · rename_i apart
        have represents : Represents rxBuffer queue := sound.represents
        exact
          sound.moved rfl rfl
            ⟨prepared, represents.nonempty_of_apart apart⟩ trivial
  | popFull =>
      refine ⟨queue, le_rfl, ?_⟩
      rw [RxSystem.receive]
      split
      · exact sound.moved rfl rfl prepared trivial
      · exact sound.moved rfl rfl prepared trivial
  | popEnds =>
      refine ⟨queue, le_rfl, ?_⟩
      rw [RxSystem.receive]
      split
      · rename_i together
        exact absurd ⟨⟨frame, rfl⟩, together⟩ calm
      · exact sound.moved rfl rfl prepared trivial
  | take =>
      obtain ⟨inside, nonempty⟩ := prepared
      obtain ⟨byte, rest, rfl⟩ := List.exists_cons_of_ne_nil nonempty
      have represents : Represents rxBuffer (byte :: rest) :=
        sound.represents
      have head : rxBuffer.base rxBuffer.first.toNat = byte :=
        represents.occupies.head
      have stored :
          (frame.assign (rxBuffer.base rxBuffer.first.toNat)).buf
              frame.n.toNat =
            byte :=
        (RxFrame.buf_assign _ frame).trans head
      exact
        ⟨byte :: rest, le_rfl,
          sound.moved rfl (RxFrame.counted_assign _ frame)
            ⟨inside, congrArg some stored.symm⟩ trivial⟩
  | advance =>
      obtain ⟨inside, head⟩ := prepared
      obtain ⟨byte, rest, rfl⟩ :
          ∃ byte rest, queue = byte :: rest := by
        cases queue with
        | nil => cases head
        | cons byte rest => exact ⟨byte, rest, rfl⟩
      have same : byte = frame.buf frame.n.toNat :=
        Option.some.inj head
      have represents : Represents rxBuffer (byte :: rest) :=
        sound.represents
      refine
        ⟨rest, Nat.le_succ _, represents.advanced, ?_, inside,
          fun full => represents.full.mp full, sound.truthful⟩
      have inOrder : returned ++ frame.counted ++ byte :: rest = received :=
        sound.inOrder
      change
        returned ++ frame.buf.bytes 0 (frame.n.toNat + 1) ++ rest =
          received
      rw [Memory.bytes_add, ← inOrder, same]
      simp [RxFrame.counted, Memory.bytes_succ]
  | clear =>
      refine
        ⟨queue, le_rfl, sound.represents, ?_, trivial, trivial,
          sound.truthful⟩
      change returned ++ frame.next.counted ++ queue = received
      rw [counted_next prepared]
      exact sound.inOrder

/-- `serial_rx_available` answers, when it has not stored anything. -/
theorem answer
    (sound : Sound queue system)
    (settled : system.settled = system.rxBuffer)
    (nothing : system.taken = [])
    {count : UInt8}
    (truthful : Truthful system.rxBuffer.size (count, queue.length)) :
    Sound queue (system.answer count) := by
  have inOrder := sound.inOrder
  rw [nothing, List.append_nil] at inOrder
  have unread :
      system.received.length - system.returned.length = queue.length := by
    rw [← inOrder, List.length_append, Nat.add_sub_cancel_left]
  refine ⟨?_, ?_, trivial, trivial, ?_⟩
  · have represents := sound.represents
    rw [settled] at represents
    exact represents
  · change system.returned ++ [] ++ queue = system.received
    rw [List.append_nil]
    exact inOrder
  · intro answer member
    rcases List.mem_append.mp member with earlier | last
    · exact sound.truthful answer earlier
    · rw [List.mem_singleton.mp last, unread]
      exact truthful

/-- Every statement that does not race. -/
theorem statement
    (sound : Sound queue system)
    (calm : ¬ system.Races .statement) :
    ∃ next,
      next.length ≤ queue.length ∧ Sound next system.statement := by
  obtain ⟨rxBuffer, rxcie, place, received, returned, answers⟩ := system
  cases place with
  | outside => exact ⟨queue, le_rfl, sound⟩
  | receiving point frame => exact sound.receive rfl calm
  | usedFull =>
      have represents : Represents rxBuffer queue := sound.represents
      refine ⟨queue, le_rfl, ?_⟩
      simp only [RxSystem.statement]
      split
      · rename_i full
        refine sound.answer rfl rfl (Or.inl ?_)
        exact (represents.full.mp full).symm
      · exact sound.moved rfl rfl trivial trivial
  | usedEnds =>
      -- the buffer may have become full since its flag was read
      have represents : Represents rxBuffer queue := sound.represents
      exact ⟨queue, le_rfl, sound.answer rfl rfl represents.virtIdx_last⟩
  | disable =>
      exact
        ⟨queue, le_rfl, sound.represents, sound.inOrder, trivial, rfl,
          sound.truthful⟩
  | flushFirst =>
      have represents : Represents rxBuffer queue := sound.represents
      exact
        ⟨[], Nat.zero_le _, represents.flush, rfl, trivial,
          ⟨sound.underway, rfl⟩, sound.truthful⟩
  | flushLast =>
      exact
        ⟨queue, le_rfl, sound.represents, sound.inOrder, trivial,
          ⟨sound.underway.1, sound.underway.2, rfl⟩, sound.truthful⟩
  | flushFull =>
      obtain ⟨base, first, last, size, full⟩ := rxBuffer
      have first : first = 0 := sound.underway.2.1
      have last : last = 0 := sound.underway.2.2
      subst first last
      exact
        ⟨queue, le_rfl, sound.represents, sound.inOrder, trivial,
          trivial, sound.truthful⟩
  | enable =>
      exact
        ⟨queue, le_rfl, sound.represents, sound.inOrder, trivial,
          trivial, sound.truthful⟩

theorem enter
    (sound : Sound queue system)
    {place : RxPlace}
    (settled :
      ({ system with place := place } : RxSystem).settled =
        system.rxBuffer)
    (taken : ({ system with place := place } : RxSystem).taken = [])
    (prepared : Prepared queue place)
    (underway : Underway queue { system with place := place }) :
    Sound queue (system.enter place) := by
  rw [RxSystem.enter]
  split
  · rename_i outside
    obtain ⟨rxBuffer, rxcie, _, received, returned, answers⟩ := system
    cases outside
    exact sound.moved settled taken prepared underway
  · exact sound

/-- Every step that does not race keeps the bytes in order. -/
theorem step
    (sound : Sound queue system)
    {event : RxEvent}
    (calm : ¬ system.Races event) :
    ∃ next, Sound next (system.step event) := by
  cases event with
  | call function buf size => exact ⟨queue, sound.enter rfl rfl trivial trivial⟩
  | available => exact ⟨queue, sound.enter rfl rfl trivial trivial⟩
  | reset => exact ⟨queue, sound.enter rfl rfl trivial trivial⟩
  | statement =>
      obtain ⟨next, _, after⟩ := sound.statement calm
      exact ⟨next, after⟩
  | interrupt udr0 =>
      rw [RxSystem.step]
      split
      · rename_i enabled
        rcases sound.isr enabled calm with same | ⟨_, longer⟩
        · exact ⟨queue, same⟩
        · exact ⟨queue ++ [udr0], longer⟩
      · exact ⟨queue, sound⟩

/-- A pop that fails is counted like one that does not. -/
theorem popFails
    (sound : Sound queue system)
    (races : system.Races .statement) :
    ¬ system.statement.Lossless := by
  obtain ⟨rxBuffer, rxcie, _, received, returned, answers⟩ := system
  obtain ⟨⟨frame, rfl⟩, together⟩ := races
  have represents : Represents rxBuffer queue := sound.represents
  have inOrder : returned ++ frame.counted ++ queue = received :=
    sound.inOrder
  have inside : frame.n < frame.size := sound.prepared.1
  have same : rxBuffer.first = rxBuffer.last := together
  intro lossless
  simp only [RxSystem.statement, RxSystem.receive, if_pos same] at lossless
  change
    returned ++ frame.next.counted ++ rxBuffer.contents = received
      at lossless
  have counts := congrArg List.length (lossless.trans inOrder.symm)
  rw [counted_next inside, represents.contents_eq] at counts
  simp [RxFrame.counted] at counts

/-- The byte of an interrupt that races is lost, or all unread bytes are. -/
theorem interruptLoses
    (sound : Sound queue system)
    (allocated : 2 ≤ system.rxBuffer.size.toNat)
    {udr0 : UInt8}
    (races : system.Races (.interrupt udr0)) :
    ¬ (system.isr udr0).Lossless := by
  obtain ⟨rxBuffer, rxcie, _, received, returned, answers⟩ := system
  obtain ⟨⟨frame, rfl⟩, _, lastCell⟩ := races
  have represents :
      Represents { rxBuffer with full := false } queue :=
    sound.represents
  have inOrder :
      returned ++ frame.buf.bytes 0 (frame.n.toNat + 1) ++ queue =
        received :=
    sound.inOrder
  have count : queue.length + 1 = rxBuffer.size.toNat := by
    rw [← represents.toNat_used]
    exact lastCell
  have apart : ¬ rxBuffer.first = rxBuffer.last := by
    intro together
    have meets :=
      represents.occupies.first_eq_last_iff.mp
        (UInt8.toNat_inj.mpr together)
    change queue.length = 0 ∨ queue.length = rxBuffer.size.toNat at meets
    change 2 ≤ rxBuffer.size.toNat at allocated
    omega
  have notFull : ¬ rxBuffer.isfull = true := by
    intro full
    rw [Ringbuffer.isfull, Bool.and_eq_true, decide_eq_true_eq] at full
    exact apart full.2
  intro lossless
  rw [RxSystem.isr, if_neg notFull] at lossless
  have counts := congrArg List.length (lossless.trans
    (congrArg (fun bytes => bytes ++ [udr0]) inOrder.symm))
  rcases flag : rxBuffer.full with _ | _
  · -- the push fills the buffer, and the flag it sets is cleared
    have same : { rxBuffer with full := false } = rxBuffer := by
      obtain ⟨base, first, last, size, full⟩ := rxBuffer
      cases flag
      rfl
    rw [same] at represents
    have room : queue.length < rxBuffer.size.toNat := by
      omega
    obtain ⟨next, pushed, size, longer⟩ := represents.push room udr0
    have full : next.full = true := by
      refine longer.full.mpr ?_
      rw [size, List.length_append, List.length_singleton]
      exact count
    have empty := (longer.unmarked full).contents_eq
    rw [pushed, Option.getD_some] at counts
    change
      (returned ++ frame.buf.bytes 0 (frame.n.toNat + 1) ++
        ({ next with full := false } : Ringbuffer).contents).length = _
        at counts
    rw [empty] at counts
    simp at counts
  · -- the flag of the full buffer is still set, and the push fails
    have refused : rxBuffer.push udr0 = none := by
      rw [Ringbuffer.push, if_pos flag]
    rw [refused, Option.getD_none] at counts
    change
      (returned ++ frame.buf.bytes 0 (frame.n.toNat + 1) ++
        ({ rxBuffer with full := false } : Ringbuffer).contents).length = _
        at counts
    rw [represents.contents_eq] at counts
    simp at counts

end Sound

/-! ## Runs -/

theorem size_isr
    (system : RxSystem)
    (udr0 : UInt8) :
    (system.isr udr0).rxBuffer.size = system.rxBuffer.size := by
  rw [isr]
  split
  · rfl
  · simp only [Ringbuffer.push]
    split
    · rfl
    · simp only [Option.getD_some]
      split
      · rfl
      · rfl

theorem size_statement (system : RxSystem) :
    system.statement.rxBuffer.size = system.rxBuffer.size := by
  obtain ⟨rxBuffer, rxcie, place, received, returned, answers⟩ := system
  cases place with
  | receiving point frame =>
      cases point with
      | take => rfl
      | advance => rfl
      | clear => rfl
      | emptyEnds =>
          simp only [statement, receive]
          split
          · cases frame.function with
            | serialRx => rfl
            | serialRxNonblock => rfl
          · rfl
      | _ =>
          simp only [statement, receive]
          split
          · rfl
          · rfl
  | usedFull =>
      simp only [statement]
      split
      · rfl
      · rfl
  | _ => rfl

/-- No step touches the size of the ring buffer. -/
theorem size_step
    (system : RxSystem)
    (event : RxEvent) :
    (system.step event).rxBuffer.size = system.rxBuffer.size := by
  cases event with
  | statement => exact system.size_statement
  | interrupt udr0 =>
      rw [step]
      split
      · exact system.size_isr udr0
      · rfl
  | _ =>
      simp only [step, enter]
      split
      · rfl
      · rfl

/-- The ring buffer of the receiver was created, and the program is right. -/
structure Right (system : RxSystem) : Prop where
  allocated : 2 ≤ system.rxBuffer.size.toNat
  sound : ∃ queue, Sound queue system

/-- With a new ring buffer the receiver starts right. -/
theorem right_start
    {rxBufferRaw : Memory}
    {bufSize : UInt8}
    {rxBuffer : Ringbuffer}
    (created : Ringbuffer.new rxBufferRaw bufSize = some rxBuffer) :
    (start rxBuffer).Right := by
  have accepted : 2 ≤ bufSize := by
    rw [Ringbuffer.new] at created
    split at created
    · cases created
    · rename_i notSmall
      exact UInt8.not_lt.mp notSmall
  obtain ⟨rb, same, size, represents⟩ :=
    represents_new rxBufferRaw accepted
  cases created.symm.trans same
  refine ⟨?_, [], represents, rfl, trivial, trivial, ?_⟩
  · change 2 ≤ rxBuffer.size.toNat
    rw [size]
    exact UInt8.le_iff_toNat_le.mp accepted
  · intro answer member
    cases member

/-- Every step that does not race leaves the receiver right. -/
theorem Right.step
    {system : RxSystem}
    (right : system.Right)
    {event : RxEvent}
    (calm : ¬ system.Races event) :
    (system.step event).Right := by
  obtain ⟨queue, sound⟩ := right.sound
  refine ⟨?_, sound.step calm⟩
  rw [size_step]
  exact right.allocated

/-- Every step that races loses a byte, or delivers one that is none. -/
theorem Right.breaks
    {system : RxSystem}
    (right : system.Right)
    {event : RxEvent}
    (races : system.Races event) :
    ¬ (system.step event).Lossless := by
  obtain ⟨queue, sound⟩ := right.sound
  cases event with
  | statement => exact sound.popFails races
  | interrupt udr0 =>
      rw [RxSystem.step, if_pos races.2.1]
      exact sound.interruptLoses right.allocated races
  | call _ _ _ => exact races.elim
  | available => exact races.elim
  | reset => exact races.elim

/--
In a run of calls of the receiver, interrupted anywhere, the bytes that the
interrupt has read are at every time those that were returned, those taken by the
call underway and those in the ring buffer, in this order, if and only if no step
is one of the two races.
-/
theorem lossless_iff_raceless
    {rxBufferRaw : Memory}
    {bufSize : UInt8}
    {rxBuffer : Ringbuffer}
    (created : Ringbuffer.new rxBufferRaw bufSize = some rxBuffer)
    (events : List RxEvent) :
    EventRuns.Always step Lossless (start rxBuffer) events ↔
      EventRuns.Never step Races (start rxBuffer) events :=
  EventRuns.always_iff_never
    (fun _ right => right.sound.elim fun _ sound => sound.lossless)
    (fun _ _ right => right.step)
    (fun _ _ right => right.breaks)
    (right_start created) events

/-- A new ring buffer of `bufSize` cells. -/
def newBuffer (bufSize : UInt8) : Ringbuffer where
  base := fun _ => 0
  first := 0
  last := 0
  size := bufSize
  full := false

/--
The second of two bytes fills the buffer while `ringbuffer_pop` looks whether it
is empty.
-/
def filledInPop : List RxEvent :=
  [.interrupt 7, .call .serialRx (fun _ => 0) 1, .statement, .statement,
    .statement, .statement, .interrupt 8, .statement]

theorem filledInPop_races :
    ¬ EventRuns.Always step Lossless (start (newBuffer 2)) filledInPop := by
  have created :
      Ringbuffer.new (fun _ => 0) 2 = some (newBuffer 2) :=
    rfl
  rw [lossless_iff_raceless created filledInPop]
  rintro ⟨_, _, _, _, _, _, _, calm, _⟩
  exact calm ⟨⟨_, rfl⟩, rfl⟩

/-! ## Room in the ring buffer -/

/-- The number of bytes that were received and not taken. -/
def unread (system : RxSystem) : Nat :=
  system.received.length -
    (system.returned.length + system.taken.length)

/-- An interrupt that leaves less than one cell free. -/
def Crowded (system : RxSystem) : RxEvent → Prop
  | .interrupt _ => system.rxBuffer.size.toNat < system.unread + 2
  | _ => False

theorem Sound.unread_eq
    {system : RxSystem}
    {queue : List UInt8}
    (sound : Sound queue system) :
    system.unread = queue.length := by
  have counts := congrArg List.length sound.inOrder
  rw [List.length_append, List.length_append] at counts
  rw [unread, ← counts, Nat.add_sub_cancel_left]

/-- A statement adds at most one answer, with the number of unread bytes. -/
theorem answers_statement (system : RxSystem) :
    system.statement.answers = system.answers ∨
      ∃ count,
        system.statement.answers =
          system.answers ++ [(count, system.unread)] := by
  obtain ⟨rxBuffer, rxcie, place, received, returned, answers⟩ := system
  cases place with
  | receiving point frame =>
      left
      cases point with
      | take => rfl
      | advance => rfl
      | clear => rfl
      | emptyEnds =>
          simp only [statement, receive]
          split
          · cases frame.function with
            | serialRx => rfl
            | serialRxNonblock => rfl
          · rfl
      | _ =>
          simp only [statement, receive]
          split
          · rfl
          · rfl
  | usedFull =>
      simp only [statement]
      split
      · exact Or.inr ⟨_, rfl⟩
      · exact Or.inl rfl
  | usedEnds => exact Or.inr ⟨_, rfl⟩
  | _ => exact Or.inl rfl

/-- The ring buffer has always had a free cell. -/
structure Roomy (system : RxSystem) : Prop where
  right : system.Right
  room : system.unread < system.rxBuffer.size.toNat
  answers :
    ∀ answer ∈ system.answers,
      answer.2 < system.rxBuffer.size.toNat

namespace Roomy

variable {system : RxSystem} {event : RxEvent}

/-- Where there is room, no step races. -/
theorem calm
    (roomy : system.Roomy)
    (uncrowded : ¬ system.Crowded event) :
    ¬ system.Races event := by
  obtain ⟨queue, sound⟩ := roomy.right.sound
  have room := roomy.room
  rw [sound.unread_eq] at room
  cases event with
  | statement =>
      rintro ⟨⟨frame, place⟩, together⟩
      have prepared := sound.prepared
      have represents : Represents system.rxBuffer queue := by
        have settled := sound.represents
        rw [RxSystem.settled, place] at settled
        exact settled
      rw [place] at prepared
      rcases represents.ends_iff.mp together with empty | full
      · exact prepared.2 (List.eq_nil_of_length_eq_zero empty)
      · omega
  | interrupt udr0 =>
      rintro ⟨_, _, lastCell⟩
      rw [sound.represents.toNat_used] at lastCell
      have free :
          ¬ system.rxBuffer.size.toNat < system.unread + 2 :=
        uncrowded
      rw [sound.unread_eq] at free
      omega
  | _ => exact id

/-- An interrupt that does not crowd the buffer leaves a cell free. -/
theorem room_step
    (roomy : system.Roomy)
    (uncrowded : ¬ system.Crowded event) :
    (system.step event).unread < system.rxBuffer.size.toNat := by
  obtain ⟨queue, sound⟩ := roomy.right.sound
  have room := roomy.room
  have count := sound.unread_eq
  have calm := roomy.calm uncrowded
  rw [count] at room
  cases event with
  | statement =>
      obtain ⟨next, shorter, after⟩ := sound.statement calm
      change system.statement.unread < _
      rw [after.unread_eq]
      omega
  | interrupt udr0 =>
      have free :
          ¬ system.rxBuffer.size.toNat < system.unread + 2 :=
        uncrowded
      rw [RxSystem.step]
      split
      · rename_i enabled
        rcases sound.isr enabled calm with same | ⟨_, longer⟩
        · rw [same.unread_eq]
          exact room
        · rw [longer.unread_eq, List.length_append, List.length_singleton]
          omega
      · rw [count]
        exact room
  | call function buf size =>
      have entered :
          Sound queue (system.step (.call function buf size)) :=
        sound.enter rfl rfl trivial trivial
      rw [entered.unread_eq]
      exact room
  | available =>
      have entered : Sound queue (system.step .available) :=
        sound.enter rfl rfl trivial trivial
      rw [entered.unread_eq]
      exact room
  | reset =>
      have entered : Sound queue (system.step .reset) :=
        sound.enter rfl rfl trivial trivial
      rw [entered.unread_eq]
      exact room

theorem answers_step
    (roomy : system.Roomy)
    (event : RxEvent) :
    ∀ answer ∈ (system.step event).answers,
      answer.2 < system.rxBuffer.size.toNat := by
  intro answer member
  cases event with
  | statement =>
      rcases system.answers_statement with same | ⟨count, more⟩
      · rw [RxSystem.step, same] at member
        exact roomy.answers answer member
      · rw [RxSystem.step, more] at member
        rcases List.mem_append.mp member with earlier | last
        · exact roomy.answers answer earlier
        · rw [List.mem_singleton.mp last]
          exact roomy.room
  | interrupt udr0 =>
      refine roomy.answers answer ?_
      rw [RxSystem.step] at member
      split at member
      · rw [RxSystem.isr] at member
        split at member
        · exact member
        · exact member
      · exact member
  | _ =>
      refine roomy.answers answer ?_
      simp only [RxSystem.step, RxSystem.enter] at member
      split at member
      · exact member
      · exact member

theorem step
    (roomy : system.Roomy)
    (uncrowded : ¬ system.Crowded event) :
    (system.step event).Roomy := by
  refine ⟨roomy.right.step (roomy.calm uncrowded), ?_, ?_⟩
  · rw [size_step]
    exact roomy.room_step uncrowded
  · rw [size_step]
    exact roomy.answers_step event

end Roomy

/-- Nothing is lost, and `serial_rx_available` counts the unread bytes. -/
structure Accurate (system : RxSystem) : Prop where
  lossless : system.Lossless
  answers : ∀ answer ∈ system.answers, answer.1.toNat = answer.2

theorem Roomy.accurate
    {system : RxSystem}
    (roomy : system.Roomy) :
    system.Accurate := by
  obtain ⟨queue, sound⟩ := roomy.right.sound
  refine ⟨sound.lossless, fun answer member => ?_⟩
  rcases sound.truthful answer member with exact | ⟨_, full⟩
  · exact exact
  · exact absurd full (Nat.ne_of_lt (roomy.answers answer member))

/--
As long as every interrupt leaves a cell of the ring buffer free, no interleaving
of the receiver with its interrupt loses, repeats or makes up a byte, and every
answer of `serial_rx_available` is the number of unread bytes.
-/
theorem accurate_of_room
    {rxBufferRaw : Memory}
    {bufSize : UInt8}
    {rxBuffer : Ringbuffer}
    (created : Ringbuffer.new rxBufferRaw bufSize = some rxBuffer)
    {events : List RxEvent}
    (uncrowded : EventRuns.Never step Crowded (start rxBuffer) events) :
    EventRuns.Always step Accurate (start rxBuffer) events := by
  have right := right_start created
  have roomy : (start rxBuffer).Roomy := by
    refine ⟨right, ?_, fun answer member => by cases member⟩
    exact Nat.lt_of_lt_of_le Nat.zero_lt_two right.allocated
  exact
    (uncrowded.keeps (fun _ _ roomy => roomy.step) roomy).imp
      fun _ roomy => roomy.accurate

/-- A byte that arrives while `serial_rx_available` counts. -/
theorem countedMeanwhile_accurate :
    EventRuns.Always step Accurate (start (newBuffer 32))
      [.available, .statement, .interrupt 7, .statement] :=
  accurate_of_room
    (show Ringbuffer.new (fun _ => 0) 32 = some (newBuffer 32) from rfl)
    ⟨id, id, (by decide : ¬ 32 < 2), id, trivial⟩

/-! ## The ring buffer after a race -/

/-- Only `serial_rx_reset` forgets received bytes, or turns the interrupt off. -/
theorem kept_statement
    {system : RxSystem}
    (reads : system.place.reads = true) :
    system.statement.received = system.received ∧
      system.statement.rxcie = system.rxcie := by
  obtain ⟨rxBuffer, rxcie, place, received, returned, answers⟩ := system
  cases place with
  | outside => exact ⟨rfl, rfl⟩
  | receiving point frame =>
      cases point with
      | take => exact ⟨rfl, rfl⟩
      | advance => exact ⟨rfl, rfl⟩
      | clear => exact ⟨rfl, rfl⟩
      | emptyEnds =>
          simp only [statement, receive]
          split
          · cases frame.function with
            | serialRx => exact ⟨rfl, rfl⟩
            | serialRxNonblock => exact ⟨rfl, rfl⟩
          · exact ⟨rfl, rfl⟩
      | _ =>
          simp only [statement, receive]
          split
          · exact ⟨rfl, rfl⟩
          · exact ⟨rfl, rfl⟩
  | usedFull =>
      simp only [statement]
      split
      · exact ⟨rfl, rfl⟩
      · exact ⟨rfl, rfl⟩
  | usedEnds => exact ⟨rfl, rfl⟩
  | _ => cases reads

/-- An interrupt reads a byte, or none. -/
theorem kept_isr
    (system : RxSystem)
    (udr0 : UInt8) :
    system.received.length ≤ (system.isr udr0).received.length ∧
      (system.isr udr0).rxcie = system.rxcie := by
  rw [isr]
  split
  · exact ⟨le_rfl, rfl⟩
  · refine ⟨?_, rfl⟩
    change _ ≤ (system.received ++ [udr0]).length
    rw [List.length_append]
    exact Nat.le_add_right _ _

/--
The ring buffer stands for a queue, be it what was received or not, and
`serial_rx_reset` is not running.
-/
structure Whole
    (queue : List UInt8)
    (system : RxSystem) : Prop where
  represents : Represents system.settled queue
  prepared : Prepared queue system.place
  reads : system.place.reads = true

namespace Whole

variable {system : RxSystem} {queue : List UInt8}

/-- Only the last assignment of `ringbuffer_pop` finds an unsettled buffer. -/
theorem settled_eq
    (whole : Whole queue system)
    (elsewhere : ∀ frame, system.place ≠ .receiving .clear frame) :
    system.settled = system.rxBuffer := by
  obtain ⟨rxBuffer, rxcie, place, received, returned, answers⟩ := system
  cases place with
  | receiving point frame =>
      cases point with
      | clear => exact absurd rfl (elsewhere frame)
      | _ => rfl
  | flushLast => cases whole.reads
  | flushFull => cases whole.reads
  | _ => rfl

/-- Between two accesses the interrupt appends its byte, if there is room. -/
theorem isr_settled
    (whole : Whole queue system)
    (elsewhere : ∀ frame, system.place ≠ .receiving .clear frame)
    (udr0 : UInt8) :
    system.isr udr0 = system ∧
        queue.length = system.rxBuffer.size.toNat ∨
      queue.length < system.rxBuffer.size.toNat ∧
        Whole (queue ++ [udr0]) (system.isr udr0) ∧
        (system.isr udr0).received = system.received ++ [udr0] ∧
        (system.isr udr0).place = system.place ∧
        (system.isr udr0).answers = system.answers := by
  have represents : Represents system.rxBuffer queue :=
    whole.settled_eq elsewhere ▸ whole.represents
  by_cases full : queue.length = system.rxBuffer.size.toNat
  · left
    refine ⟨?_, full⟩
    rw [RxSystem.isr, if_pos (represents.isfull_iff.mpr full)]
  · right
    have room := Nat.lt_of_le_of_ne represents.holds.fits full
    obtain ⟨rxBuffer, size, longer, stored⟩ :=
      isr_of_room represents room udr0
    rw [stored]
    have after :
        Whole (queue ++ [udr0])
          { system with
            rxBuffer := rxBuffer
            received := system.received ++ [udr0] } := by
      refine
        ⟨?_, Sound.prepared_push whole.prepared udr0, whole.reads⟩
      obtain ⟨_, rxcie, place, received, returned, answers⟩ := system
      cases place with
      | receiving point frame =>
          cases point with
          | clear => exact absurd rfl (elsewhere frame)
          | _ => exact longer
      | flushLast => cases whole.reads
      | flushFull => cases whole.reads
      | _ => exact longer
    exact ⟨room, after, rfl, rfl, rfl⟩

/-- In the middle of `ringbuffer_pop` the unread bytes may be lost. -/
theorem isr_clear
    {rxBuffer : Ringbuffer}
    {rxcie : Bool}
    {frame : RxFrame}
    {received returned : List UInt8}
    {answers : List (UInt8 × Nat)}
    (whole :
      Whole queue
        { rxBuffer := rxBuffer
          rxcie := rxcie
          place := .receiving .clear frame
          received := received
          returned := returned
          answers := answers })
    (udr0 : UInt8) :
    ∃ next,
      Whole next
        (RxSystem.isr udr0
          { rxBuffer := rxBuffer
            rxcie := rxcie
            place := .receiving .clear frame
            received := received
            returned := returned
            answers := answers }) := by
  have represents :
      Represents { rxBuffer with full := false } queue :=
    whole.represents
  rw [RxSystem.isr]
  split
  · exact ⟨queue, whole⟩
  · rcases flag : rxBuffer.full with _ | _
    · have same : { rxBuffer with full := false } = rxBuffer := by
        obtain ⟨base, first, last, size, full⟩ := rxBuffer
        cases flag
        rfl
      rw [same] at represents
      have room : queue.length < rxBuffer.size.toNat := by
        refine Nat.lt_of_le_of_ne represents.holds.fits fun full => ?_
        have marked := represents.full.mpr full
        rw [flag] at marked
        cases marked
      obtain ⟨next, pushed, _, longer⟩ := represents.push room udr0
      rw [pushed, Option.getD_some]
      rcases marked : next.full with _ | _
      · have kept : { next with full := false } = next := by
          obtain ⟨base, first, last, size, full⟩ := next
          cases marked
          rfl
        refine ⟨queue ++ [udr0], ?_, whole.prepared, rfl⟩
        change Represents { next with full := false } _
        rw [kept]
        exact longer
      · exact ⟨[], longer.unmarked marked, whole.prepared, rfl⟩
    · have refused : rxBuffer.push udr0 = none := by
        rw [Ringbuffer.push, if_pos flag]
      rw [refused, Option.getD_none]
      exact ⟨queue, represents, whole.prepared, rfl⟩

/-- An interrupt leaves a queue, wherever it comes. -/
theorem isr
    (whole : Whole queue system)
    (udr0 : UInt8) :
    ∃ next, Whole next (system.isr udr0) := by
  by_cases middle : ∃ frame, system.place = .receiving .clear frame
  · obtain ⟨frame, place⟩ := middle
    obtain ⟨rxBuffer, rxcie, _, received, returned, answers⟩ := system
    cases place
    exact whole.isr_clear udr0
  · have elsewhere :
        ∀ frame, system.place ≠ .receiving .clear frame :=
      fun frame place => middle ⟨frame, place⟩
    rcases whole.isr_settled elsewhere udr0 with
      ⟨same, _⟩ | ⟨_, after, _⟩
    · exact ⟨queue, same.symm ▸ whole⟩
    · exact ⟨queue ++ [udr0], after⟩

/-- The program goes on and has not touched the ring buffer. -/
theorem moved
    (whole : Whole queue system)
    {place : RxPlace}
    (settled :
      ({ system with place := place } : RxSystem).settled =
        system.settled)
    (prepared : Prepared queue place)
    (reads : place.reads = true) :
    Whole queue { system with place := place } := by
  refine ⟨?_, prepared, reads⟩
  rw [settled]
  exact whole.represents

/-- Every access of a receiving function leaves a queue. -/
theorem receive
    (whole : Whole queue system)
    {point : RxPoint}
    {frame : RxFrame}
    (place : system.place = .receiving point frame) :
    ∃ next, Whole next (system.receive frame point) := by
  obtain ⟨rxBuffer, rxcie, _, received, returned, answers⟩ := system
  cases place
  have prepared := whole.prepared
  cases point with
  | test =>
      refine ⟨queue, ?_⟩
      rw [RxSystem.receive]
      split
      · rename_i more
        exact whole.moved rfl more rfl
      · exact ⟨whole.represents, trivial, rfl⟩
  | emptyFull =>
      refine ⟨queue, ?_⟩
      rw [RxSystem.receive]
      split
      · rename_i full
        have represents : Represents rxBuffer queue := whole.represents
        exact
          whole.moved rfl ⟨prepared, represents.nonempty_of_full full⟩
            rfl
      · exact whole.moved rfl prepared rfl
  | emptyEnds =>
      refine ⟨queue, ?_⟩
      rw [RxSystem.receive]
      split
      · split
        · exact whole.moved rfl trivial rfl
        · exact ⟨whole.represents, trivial, rfl⟩
      · rename_i apart
        have represents : Represents rxBuffer queue := whole.represents
        exact
          whole.moved rfl ⟨prepared, represents.nonempty_of_apart apart⟩
            rfl
  | popFull =>
      refine ⟨queue, ?_⟩
      rw [RxSystem.receive]
      split
      · exact whole.moved rfl prepared rfl
      · exact whole.moved rfl prepared rfl
  | popEnds =>
      refine ⟨queue, ?_⟩
      rw [RxSystem.receive]
      split
      · exact whole.moved rfl trivial rfl
      · exact whole.moved rfl prepared rfl
  | take =>
      obtain ⟨inside, nonempty⟩ := prepared
      obtain ⟨byte, rest, rfl⟩ := List.exists_cons_of_ne_nil nonempty
      have represents : Represents rxBuffer (byte :: rest) :=
        whole.represents
      have head : rxBuffer.base rxBuffer.first.toNat = byte :=
        represents.occupies.head
      have stored :
          (frame.assign (rxBuffer.base rxBuffer.first.toNat)).buf
              frame.n.toNat =
            byte :=
        (RxFrame.buf_assign _ frame).trans head
      exact
        ⟨byte :: rest,
          whole.moved rfl ⟨inside, congrArg some stored.symm⟩ rfl⟩
  | advance =>
      obtain ⟨inside, head⟩ := prepared
      obtain ⟨byte, rest, rfl⟩ :
          ∃ byte rest, queue = byte :: rest := by
        cases queue with
        | nil => cases head
        | cons byte rest => exact ⟨byte, rest, rfl⟩
      have represents : Represents rxBuffer (byte :: rest) :=
        whole.represents
      exact ⟨rest, represents.advanced, inside, rfl⟩
  | clear =>
      exact ⟨queue, whole.represents, trivial, rfl⟩

/-- A call of the receiver begins. -/
theorem enter
    (whole : Whole queue system)
    (outside : system.place = .outside)
    {place : RxPlace}
    (settled :
      ({ system with place := place } : RxSystem).settled =
        system.rxBuffer)
    (prepared : Prepared queue place)
    (reads : place.reads = true) :
    Whole queue (system.enter place) := by
  obtain ⟨rxBuffer, rxcie, _, received, returned, answers⟩ := system
  cases outside
  exact whole.moved settled prepared reads

/-- Every statement leaves a queue. -/
theorem statement
    (whole : Whole queue system) :
    ∃ next, Whole next system.statement := by
  obtain ⟨rxBuffer, rxcie, place, received, returned, answers⟩ := system
  cases place with
  | outside => exact ⟨queue, whole⟩
  | receiving point frame => exact whole.receive rfl
  | usedFull =>
      refine ⟨queue, ?_⟩
      simp only [RxSystem.statement]
      split
      · exact ⟨whole.represents, trivial, rfl⟩
      · exact whole.moved rfl trivial rfl
  | usedEnds => exact ⟨queue, whole.represents, trivial, rfl⟩
  | _ => cases whole.reads

end Whole

end RxSystem

end Ammc.Master
