import Ammc.ClientSerial
import Ammc.MasterSerial
import Ammc.Ringbuffer

namespace Ammc.Reception

open ByteMemory Packet Master

/-!
# Bytes on their way into the master

A client sends one packet at a time.  The bytes arrive at the UART, the receive
interrupt moves them into the ring buffer, and `serial_rx` takes them out of it.
These steps may come in any order, each as a whole: no interrupt comes while a
byte is being taken out of the ring buffer.
-/

/-- The unread bytes that the UART can hold. -/
def uartDepth : Nat := 3

/-- The arguments of a call of the client's `packet_craft` that succeeds. -/
structure ClientPacket where
  id : UInt8
  type : UInt8
  selector : UInt8
  body : Option Memory
  bodySize : UInt8
  craftable : Craftable type body bodySize

/-- The bytes of the packet on the line. -/
def ClientPacket.bytes (packet : ClientPacket) : List UInt8 :=
  image Client.crc packet.id packet.type packet.selector
    (bodyBytes packet.body packet.bodySize)

/-- The client's encoder writes these bytes. -/
theorem ClientPacket.crafted
    (packet : ClientPacket)
    (p : Memory) :
    ∃ crafted,
      Client.packetCraft p packet.id packet.type packet.selector
          packet.body packet.bodySize = (0, crafted) ∧
        crafted.bytes 0 (packetGetSize crafted).toNat =
          packet.bytes := by
  obtain ⟨crafted, written, _, bytes⟩ :=
    craft_of_craftable Client.crc p packet.id packet.selector
      packet.craftable
  exact ⟨crafted, written, bytes⟩

theorem ClientPacket.length_bytes (packet : ClientPacket) :
    packet.bytes.length = packet.bodySize.toNat + 5 := by
  rw [ClientPacket.bytes, length_image,
    packet.craftable.length_bodyBytes]

/--
The packets that the client has not sent yet, the bytes of the packet underway
that have not arrived yet, the places where bytes wait at the master, the bytes
that `serial_rx` has stored for its callers, and all bytes that have arrived.
-/
structure State where
  packets : List ClientPacket
  line : List UInt8
  uart : List UInt8
  rxBuffer : Ringbuffer
  delivered : List UInt8
  arrived : List UInt8

/-- The part of `serial_init` that prepares `rx_buffer`; it ignores errors. -/
def serialInit
    (rxBuffer : Ringbuffer)
    (rxBufferRaw : Memory) : Ringbuffer :=
  (Ringbuffer.new rxBufferRaw (UInt8.ofNat rxBufferSize)).getD rxBuffer

/-- Nothing is underway. -/
def start
    (rxBuffer : Ringbuffer)
    (rxBufferRaw : Memory)
    (packets : List ClientPacket) : State where
  packets := packets
  line := []
  uart := []
  rxBuffer := serialInit rxBuffer rxBufferRaw
  delivered := []
  arrived := []

/-- The first packet to be sent is on the line. -/
def sending
    (state : State)
    (packet : ClientPacket)
    (rest : List ClientPacket) : State :=
  { state with
    packets := rest
    line := packet.bytes }

/-- The client sends a packet once `serial_rx` has stored all of the last. -/
def send (state : State) : State :=
  match state.packets with
  | [] => state
  | packet :: rest =>
      if state.line = [] ∧ state.uart = [] ∧
          state.rxBuffer.isempty = true then
        sending state packet rest
      else
        state

/--
`ISR(USART0_RX_vect)`, which is requested as long as the UART holds a byte; to
read `UDR0` takes the oldest byte out of the UART.
-/
def rxIsr (state : State) : State :=
  match state.uart with
  | [] => state
  | byte :: rest =>
      if state.rxBuffer.isfull then
        state
      else
        { state with
          uart := rest
          rxBuffer :=
            (state.rxBuffer.push byte).getD state.rxBuffer }

/-- A byte reaches the UART, which drops it if it is full. -/
def reached
    (state : State)
    (byte : UInt8)
    (rest : List UInt8) : State :=
  { state with
    line := rest
    uart :=
      if state.uart.length < uartDepth then
        state.uart ++ [byte]
      else
        state.uart
    arrived := state.arrived ++ [byte] }

/-- The next byte arrives and causes an interrupt. -/
def arrive (state : State) : State :=
  match state.line with
  | [] => state
  | byte :: rest => rxIsr (reached state byte rest)

/-- A turn of the loop in `serial_rx`; it only waits while there is no byte. -/
def serialRxTurn (state : State) : State :=
  if state.rxBuffer.isempty then
    state
  else
    match state.rxBuffer.pop with
    | some (byte, rxBuffer) =>
        { state with
          rxBuffer := rxBuffer
          delivered := state.delivered ++ [byte] }
    | none => state

/-- What can happen next; an interrupt that found no room is repeated. -/
inductive Event where
  | send
  | arrival
  | interrupt
  | pop
  deriving Repr, DecidableEq

def step (state : State) : Event → State
  | .send => send state
  | .arrival => arrive state
  | .interrupt => rxIsr state
  | .pop => serialRxTurn state

def run (state : State) (events : List Event) : State :=
  events.foldl step state

@[simp] theorem run_nil (state : State) : run state [] = state :=
  rfl

@[simp] theorem run_cons
    (state : State)
    (event : Event)
    (events : List Event) :
    run state (event :: events) = run (step state event) events :=
  rfl

theorem run_append
    (state : State)
    (first second : List Event) :
    run state (first ++ second) = run (run state first) second :=
  List.foldl_append

/-- A byte is about to arrive for which there is no place. -/
def Overrun (state : State) : Prop :=
  state.line ≠ [] ∧ state.rxBuffer.isfull = true ∧
    uartDepth ≤ state.uart.length

/-- No byte is lost, repeated or out of order, and none is about to be lost. -/
structure Intact (state : State) : Prop where
  inOrder :
    state.delivered ++ state.rxBuffer.contents ++ state.uart =
      state.arrived
  room : ¬ Overrun state

/-- The ring buffer stands for a queue of bytes, in its own storage. -/
structure Stored
    (queue : List UInt8)
    (state : State) : Prop where
  represents : Represents state.rxBuffer queue
  size : state.rxBuffer.size.toNat = rxBufferSize
  uart : state.uart.length ≤ uartDepth

namespace Stored

variable {state : State} {queue : List UInt8}

theorem length_le (stored : Stored queue state) :
    queue.length ≤ rxBufferSize := by
  rw [← stored.size]
  exact stored.represents.holds.fits

/-- An interrupt does nothing, or moves the oldest byte of the UART. -/
theorem rxIsr_cases (stored : Stored queue state) :
    (state.uart = [] ∧ rxIsr state = state) ∨
      (queue.length = rxBufferSize ∧ rxIsr state = state) ∨
      ∃ byte rest rxBuffer,
        state.uart = byte :: rest ∧ queue.length < rxBufferSize ∧
          rxIsr state =
            { state with
              uart := rest
              rxBuffer := rxBuffer } ∧
          Represents rxBuffer (queue ++ [byte]) ∧
          rxBuffer.size.toNat = rxBufferSize := by
  have size := stored.size
  rcases waiting : state.uart with _ | ⟨byte, rest⟩
  · exact Or.inl ⟨rfl, by rw [rxIsr, waiting]⟩
  · by_cases full : state.rxBuffer.isfull = true
    · refine Or.inr (Or.inl ⟨?_, ?_⟩)
      · rw [← size]
        exact stored.represents.isfull_iff.mp full
      · simp [rxIsr, waiting, full]
    · have room : queue.length < state.rxBuffer.size.toNat :=
        Nat.lt_of_le_of_ne stored.represents.holds.fits fun same =>
          full (stored.represents.isfull_iff.mpr same)
      obtain ⟨rxBuffer, pushed, sameSize, represents⟩ :=
        stored.represents.push room byte
      refine
        Or.inr (Or.inr
          ⟨byte, rest, rxBuffer, rfl, size ▸ room, ?_, represents,
            by rw [sameSize, size]⟩)
      simp [rxIsr, waiting, full, pushed]

/-- A turn of the loop waits, or takes the oldest byte of the queue. -/
theorem serialRxTurn_cases (stored : Stored queue state) :
    (queue = [] ∧ serialRxTurn state = state) ∨
      ∃ byte rest rxBuffer,
        queue = byte :: rest ∧
          serialRxTurn state =
            { state with
              rxBuffer := rxBuffer
              delivered := state.delivered ++ [byte] } ∧
          Represents rxBuffer rest ∧
          rxBuffer.size.toNat = rxBufferSize := by
  have represents := stored.represents
  rcases queue with _ | ⟨byte, rest⟩
  · have empty := represents.isempty_iff.mpr rfl
    exact Or.inl ⟨rfl, by simp [serialRxTurn, empty]⟩
  · have notEmpty : ¬ state.rxBuffer.isempty = true := fun empty => by
      cases represents.isempty_iff.mp empty
    obtain ⟨rxBuffer, popped, sameSize, shorter⟩ := represents.pop
    refine
      Or.inr
        ⟨byte, rest, rxBuffer, rfl, ?_, shorter,
          by rw [sameSize, stored.size]⟩
    simp [serialRxTurn, notEmpty, popped]

/-- The client sends nothing, or a packet into an empty receiver. -/
theorem send_cases (stored : Stored queue state) :
    send state = state ∨
      ∃ packet rest,
        state.packets = packet :: rest ∧ state.line = [] ∧
          state.uart = [] ∧ queue = [] ∧
          send state = sending state packet rest := by
  rcases waiting : state.packets with _ | ⟨packet, rest⟩
  · exact Or.inl (by simp [send, waiting])
  · by_cases quiet :
        state.line = [] ∧ state.uart = [] ∧
          state.rxBuffer.isempty = true
    · refine
        Or.inr
          ⟨packet, rest, rfl, quiet.1, quiet.2.1,
            stored.represents.isempty_iff.mp quiet.2.2, ?_⟩
      simp [send, waiting, quiet]
    · exact Or.inl (by simp only [send, waiting, if_neg quiet])

/-- An interrupt keeps the queue in order. -/
theorem rxIsr (stored : Stored queue state) :
    ∃ next, Stored next (rxIsr state) := by
  rcases stored.rxIsr_cases with
    ⟨_, same⟩ | ⟨_, same⟩ |
      ⟨byte, rest, rxBuffer, waiting, _, moved, represents, size⟩
  · rw [same]
    exact ⟨queue, stored⟩
  · rw [same]
    exact ⟨queue, stored⟩
  · rw [moved]
    have fits := stored.uart
    rw [waiting, List.length_cons] at fits
    exact
      ⟨queue ++ [byte], represents, size, Nat.le_of_succ_le fits⟩

/-- The UART never holds more than it can. -/
theorem reached
    (stored : Stored queue state)
    (byte : UInt8)
    (rest : List UInt8) :
    Stored queue (reached state byte rest) := by
  refine ⟨stored.represents, stored.size, ?_⟩
  rw [Reception.reached]
  split
  · rename_i room
    rw [List.length_append, List.length_singleton]
    exact room
  · exact stored.uart

/-- Every step leaves a queue in the ring buffer. -/
theorem step
    (stored : Stored queue state)
    (event : Event) :
    ∃ next, Stored next (step state event) := by
  cases event with
  | send =>
      rcases stored.send_cases with
        same | ⟨packet, rest, _, _, _, _, sent⟩
      · exact ⟨queue, by rw [Reception.step, same]; exact stored⟩
      · refine ⟨queue, ?_⟩
        rw [Reception.step, sent]
        exact ⟨stored.represents, stored.size, stored.uart⟩
  | arrival =>
      rw [Reception.step, arrive]
      split
      · exact ⟨queue, stored⟩
      · exact (stored.reached _ _).rxIsr
  | interrupt => exact stored.rxIsr
  | pop =>
      rcases stored.serialRxTurn_cases with
        ⟨_, same⟩ |
          ⟨byte, rest, rxBuffer, _, taken, represents, size⟩
      · exact ⟨queue, by rw [Reception.step, same]; exact stored⟩
      · refine ⟨rest, ?_⟩
        rw [Reception.step, taken]
        exact ⟨represents, size, stored.uart⟩

/-- So does every run. -/
theorem run
    (stored : Stored queue state)
    (events : List Event) :
    ∃ next, Stored next (run state events) := by
  induction events generalizing queue state with
  | nil => exact ⟨queue, stored⟩
  | cons event events inductionHypothesis =>
      obtain ⟨next, after⟩ := stored.step event
      exact inductionHypothesis after

end Stored

/-- After `serial_init` the ring buffer is empty. -/
theorem stored_start
    (rxBuffer : Ringbuffer)
    (rxBufferRaw : Memory)
    (packets : List ClientPacket) :
    Stored [] (start rxBuffer rxBufferRaw packets) := by
  obtain ⟨rb, created, size, represents⟩ :=
    represents_new rxBufferRaw
      (show 2 ≤ UInt8.ofNat rxBufferSize by decide)
  have init : serialInit rxBuffer rxBufferRaw = rb := by
    rw [serialInit, created, Option.getD_some]
  refine ⟨?_, ?_, Nat.zero_le _⟩
  · rw [start, init]
    exact represents
  · rw [start, init, size]
    rfl

/-- The bytes of a packet that the two buffers can take at once. -/
def receiveRoom : Nat := rxBufferSize + uartDepth

/--
Everything that is underway has its place, and the bytes in the UART leave room
for the rest of the packet once the ring buffer has been full.
-/
structure Fitting
    (queue : List UInt8)
    (state : State) : Prop extends Stored queue state where
  packets :
    ∀ packet ∈ state.packets, packet.bytes.length ≤ receiveRoom
  inOrder :
    state.delivered ++ queue ++ state.uart = state.arrived
  underway :
    state.line.length + state.uart.length + queue.length ≤ receiveRoom
  behind :
    state.uart = [] ∨
      state.line.length + state.uart.length ≤ uartDepth

namespace Fitting

variable {state : State} {queue : List UInt8}

/-- Nothing is lost where everything has its place. -/
theorem intact (fitting : Fitting queue state) : Intact state := by
  refine ⟨?_, fun ⟨remaining, _, crowded⟩ => ?_⟩
  · rw [fitting.represents.contents_eq]
    exact fitting.inOrder
  · have left := List.length_pos_iff.mpr remaining
    rcases fitting.behind with empty | behind
    · rw [empty] at crowded
      cases crowded
    · omega

/-- An interrupt takes up the byte that has just arrived. -/
theorem rxIsr
    (stored : Stored queue state)
    (packets :
      ∀ packet ∈ state.packets, packet.bytes.length ≤ receiveRoom)
    (inOrder :
      state.delivered ++ queue ++ state.uart = state.arrived)
    (underway :
      state.line.length + state.uart.length + queue.length ≤
        receiveRoom)
    (behind :
      state.uart.length ≤ 1 ∨
        state.line.length + state.uart.length ≤ uartDepth) :
    ∃ next, Fitting next (rxIsr state) := by
  rcases stored.rxIsr_cases with
    ⟨empty, same⟩ | ⟨full, same⟩ |
      ⟨byte, rest, rxBuffer, waiting, _, moved, represents, size⟩
  · rw [same]
    exact ⟨queue, stored, packets, inOrder, underway, Or.inl empty⟩
  · rw [same]
    refine ⟨queue, stored, packets, inOrder, underway, Or.inr ?_⟩
    rw [receiveRoom, full] at underway
    omega
  · rw [moved]
    have fits := stored.uart
    rw [waiting, List.length_cons] at fits underway behind
    refine
      ⟨queue ++ [byte], ⟨represents, size, by dsimp only; omega⟩,
        packets, ?_, ?_, ?_⟩
    · rw [waiting] at inOrder
      simpa using inOrder
    · simp only [List.length_append, List.length_singleton]
      omega
    · rcases behind with only | behind
      · exact
          Or.inl (List.length_eq_zero_iff.mp (by dsimp only; omega))
      · exact Or.inr (by dsimp only; omega)

/-- The client sends into an empty receiver. -/
theorem send (fitting : Fitting queue state) :
    Fitting queue (Reception.send state) := by
  rcases fitting.send_cases with
    same | ⟨packet, rest, waiting, _, noUart, noQueue, sent⟩
  · rw [same]
    exact fitting
  · have short :=
      fitting.packets packet (by rw [waiting]; simp)
    rw [sent]
    refine
      ⟨⟨fitting.represents, fitting.size, fitting.uart⟩,
        fun other among => ?_, fitting.inOrder, ?_, Or.inl noUart⟩
    · apply fitting.packets other
      rw [waiting]
      exact List.mem_cons_of_mem packet among
    · simp only [sending, noUart, noQueue, List.length_nil]
      exact short

/-- There is room for the byte that arrives. -/
theorem arrive (fitting : Fitting queue state) :
    ∃ next, Fitting next (Reception.arrive state) := by
  rw [Reception.arrive]
  split
  · exact ⟨queue, fitting⟩
  · rename_i byte rest onLine
    have underway := fitting.underway
    have behind := fitting.behind
    rw [onLine, List.length_cons] at underway behind
    have room : state.uart.length < uartDepth := by
      rcases behind with empty | behind
      · rw [empty]
        decide
      · omega
    have taken :
        (reached state byte rest).uart = state.uart ++ [byte] :=
      if_pos room
    apply rxIsr (fitting.toStored.reached byte rest)
    · exact fitting.packets
    · rw [taken, ← List.append_assoc]
      exact congrArg (· ++ [byte]) fitting.inOrder
    · rw [taken, List.length_append, List.length_singleton]
      simp only [reached]
      omega
    · rw [taken, List.length_append, List.length_singleton]
      simp only [reached]
      rcases behind with empty | behind
      · exact Or.inl (by rw [empty]; decide)
      · exact Or.inr (by omega)

/-- What is taken out of the queue is delivered next. -/
theorem serialRxTurn (fitting : Fitting queue state) :
    ∃ next, Fitting next (Reception.serialRxTurn state) := by
  rcases fitting.serialRxTurn_cases with
    ⟨_, same⟩ | ⟨byte, rest, rxBuffer, first, taken, represents, size⟩
  · rw [same]
    exact ⟨queue, fitting⟩
  · have underway := fitting.underway
    have inOrder := fitting.inOrder
    rw [first, List.length_cons] at underway
    rw [first] at inOrder
    rw [taken]
    refine
      ⟨rest, ⟨represents, size, fitting.uart⟩, fitting.packets, ?_, ?_,
        fitting.behind⟩
    · simpa using inOrder
    · dsimp only
      omega

/-- Every step finds room for what it moves. -/
theorem step
    (fitting : Fitting queue state)
    (event : Event) :
    ∃ next, Fitting next (step state event) := by
  cases event with
  | send => exact ⟨queue, fitting.send⟩
  | arrival => exact fitting.arrive
  | interrupt =>
      apply rxIsr fitting.toStored fitting.packets fitting.inOrder
        fitting.underway
      rcases fitting.behind with empty | behind
      · exact Or.inl (by rw [empty]; exact Nat.zero_le 1)
      · exact Or.inr behind
  | pop => exact fitting.serialRxTurn

/-- So does every run. -/
theorem run
    (fitting : Fitting queue state)
    (events : List Event) :
    ∃ next, Fitting next (run state events) := by
  induction events generalizing queue state with
  | nil => exact ⟨queue, fitting⟩
  | cons event events inductionHypothesis =>
      obtain ⟨next, after⟩ := fitting.step event
      exact inductionHypothesis after

end Fitting

/-- All that has arrived is delivered, and these packets are still to be sent. -/
structure Drained
    (packets : List ClientPacket)
    (state : State) : Prop extends Stored [] state where
  noLine : state.line = []
  noUart : state.uart = []
  toSend : state.packets = packets

/-- Each byte of a packet is popped before the next one arrives. -/
def keepingUp (bytes : List UInt8) : List Event :=
  bytes.flatMap fun _ => [.arrival, .pop]

/-- A loop that keeps up delivers a whole packet. -/
theorem drained_keepingUp
    {state : State}
    (stored : Stored [] state)
    (noUart : state.uart = []) :
    Drained state.packets (run state (keepingUp state.line)) := by
  generalize onLine : state.line = line
  induction line generalizing state with
  | nil => exact ⟨stored, onLine, noUart, rfl⟩
  | cons byte rest inductionHypothesis =>
      have taken : (reached state byte rest).uart = [byte] := by
        simp [reached, noUart, uartDepth]
      have arrived : arrive state = rxIsr (reached state byte rest) := by
        simp only [arrive, onLine]
      rcases (stored.reached byte rest).rxIsr_cases with
        ⟨empty, _⟩ | ⟨full, _⟩ |
          ⟨moving, behind, rxBuffer, waiting, _, moved, holdsOne, size⟩
      · rw [taken] at empty
        cases empty
      · cases full
      · rw [taken] at waiting
        obtain ⟨rfl, noMore⟩ := List.cons.inj waiting
        subst noMore
        have between : Stored [byte] (arrive state) := by
          rw [arrived, moved]
          exact ⟨holdsOne, size, Nat.zero_le _⟩
        rcases between.serialRxTurn_cases with
          ⟨none, _⟩ | ⟨popped, queue, after, first, turned, empty, sized⟩
        · cases none
        · obtain ⟨rfl, noMore⟩ := List.cons.inj first
          subst noMore
          have next :
              run state [.arrival, .pop] =
                { reached state byte rest with
                  uart := []
                  rxBuffer := after
                  delivered := state.delivered ++ [byte] } := by
            rw [run_cons, run_cons, run_nil, step, step, turned,
              arrived, moved]
            rfl
          rw [keepingUp, List.flatMap_cons, run_append, next]
          have after :
              Stored []
                { reached state byte rest with
                  uart := []
                  rxBuffer := after
                  delivered := state.delivered ++ [byte] } :=
            ⟨empty, sized, Nat.zero_le _⟩
          exact inductionHypothesis after rfl rfl

/-- The next packet can be sent. -/
theorem Drained.send
    {state : State}
    {packet : ClientPacket}
    {rest : List ClientPacket}
    (drained : Drained (packet :: rest) state) :
    send state = sending state packet rest ∧
      Stored [] (sending state packet rest) := by
  have empty := drained.represents.isempty_iff.mpr rfl
  refine ⟨?_, drained.represents, drained.size, drained.uart⟩
  simp [Reception.send, drained.toSend, drained.noLine,
    drained.noUart, empty]

/-- It can be delivered. -/
theorem Drained.next
    {state : State}
    {packet : ClientPacket}
    {rest : List ClientPacket}
    (drained : Drained (packet :: rest) state) :
    Drained rest
      (run state (.send :: keepingUp packet.bytes)) := by
  obtain ⟨sent, stored⟩ := drained.send
  rw [run_cons, step, sent]
  exact drained_keepingUp stored drained.noUart

/-- Any packet can come to be the next one. -/
theorem Drained.skip
    {before after : List ClientPacket}
    {state : State}
    (drained : Drained (before ++ after) state) :
    ∃ events, Drained after (run state events) := by
  induction before generalizing state with
  | nil => exact ⟨[], drained⟩
  | cons packet before inductionHypothesis =>
      obtain ⟨events, reached⟩ :=
        inductionHypothesis drained.next
      refine ⟨.send :: keepingUp packet.bytes ++ events, ?_⟩
      rw [run_append]
      exact reached

/-- Without a pop nothing is delivered, while each arrival counts. -/
theorem run_arrivals
    {count : Nat}
    {state : State}
    (onLine : count ≤ state.line.length) :
    (run state (List.replicate count .arrival)).delivered =
        state.delivered ∧
      (run state (List.replicate count .arrival)).arrived.length =
        state.arrived.length + count := by
  induction count generalizing state with
  | zero => exact ⟨rfl, rfl⟩
  | succ count inductionHypothesis =>
      rcases coming : state.line with _ | ⟨byte, rest⟩
      · rw [coming] at onLine
        cases onLine
      · rw [coming, List.length_cons] at onLine
        have interrupted (between : State) :
            (rxIsr between).line = between.line ∧
              (rxIsr between).delivered = between.delivered ∧
              (rxIsr between).arrived = between.arrived := by
          rw [rxIsr]
          split
          · exact ⟨rfl, rfl, rfl⟩
          · split
            · exact ⟨rfl, rfl, rfl⟩
            · exact ⟨rfl, rfl, rfl⟩
        obtain ⟨sameLine, sameDelivered, sameArrived⟩ :=
          interrupted (reached state byte rest)
        have first :
            step state .arrival = rxIsr (reached state byte rest) := by
          simp only [step, arrive, coming]
        have further :
            count ≤ (rxIsr (reached state byte rest)).line.length := by
          rw [sameLine]
          exact Nat.le_of_succ_le_succ onLine
        obtain ⟨delivered, arrived⟩ := inductionHypothesis further
        rw [List.replicate_succ, run_cons, first, delivered, arrived,
          sameDelivered, sameArrived]
        refine ⟨rfl, ?_⟩
        simp only [reached, List.length_append, List.length_singleton]
        omega

/-- A longer packet overruns the receiver when the loop is busy meanwhile. -/
theorem Drained.overruns
    {state : State}
    {packet : ClientPacket}
    {rest : List ClientPacket}
    (drained : Drained (packet :: rest) state)
    (long : receiveRoom < packet.bytes.length) :
    ∃ events,
      Intact state → ¬ Intact (run state events) := by
  refine
    ⟨.send :: List.replicate (receiveRoom + 1) .arrival,
      fun before after => ?_⟩
  obtain ⟨sent, started⟩ := drained.send
  rw [run_cons, step, sent] at after
  obtain ⟨queue, stored⟩ :=
    started.run (List.replicate (receiveRoom + 1) .arrival)
  have onLine :
      receiveRoom + 1 ≤ (sending state packet rest).line.length := long
  obtain ⟨delivered, arrived⟩ := run_arrivals onLine
  have complete := congrArg List.length before.inOrder
  have counted := congrArg List.length after.inOrder
  have queueFits := stored.length_le
  have uartFits := stored.uart
  rw [stored.represents.contents_eq, delivered, arrived] at counted
  rw [drained.represents.contents_eq, drained.noUart] at complete
  simp only [List.length_append, List.length_nil, sending] at complete counted
  rw [sending] at uartFits
  have whole : receiveRoom = rxBufferSize + uartDepth :=
    rfl
  omega

/--
The receive buffer and the UART together never lose a byte, whatever the order
of the steps, exactly when no packet has more than 35 bytes.
-/
theorem reception_intact_iff
    (rxBuffer : Ringbuffer)
    (rxBufferRaw : Memory)
    (packets : List ClientPacket) :
    (∀ events,
        Intact (run (start rxBuffer rxBufferRaw packets) events)) ↔
      ∀ packet ∈ packets, packet.bytes.length ≤ 35 := by
  have stored := stored_start rxBuffer rxBufferRaw packets
  constructor
  · intro always packet among
    by_contra tooLong
    obtain ⟨before, after, split⟩ := List.append_of_mem among
    have drained :
        Drained (before ++ packet :: after)
          (start rxBuffer rxBufferRaw packets) :=
      ⟨stored, rfl, rfl, split⟩
    obtain ⟨first, reached⟩ := drained.skip
    obtain ⟨second, overrun⟩ :=
      reached.overruns (Nat.not_le.mp tooLong)
    apply overrun (always first)
    rw [← run_append]
    exact always (first ++ second)
  · intro short events
    have fitting :
        Fitting [] (start rxBuffer rxBufferRaw packets) :=
      ⟨stored, short, rfl, Nat.zero_le _, Or.inl rfl⟩
    obtain ⟨queue, after⟩ := fitting.run events
    exact after.intact

/-- An echo packet with the longest body. -/
def longestPacket : ClientPacket where
  id := 0
  type := ComType.echo.code
  selector := 0
  body := some fun _ => 0
  bodySize := 32
  craftable := craftable_of_body _ (by decide) (by decide)

/-- A client that sends this packet can overrun the receiver. -/
theorem longestPacket_overruns :
    ¬ ∀ events,
      Intact
        (run (start ⟨fun _ => 0, 0, 0, 0, false⟩ (fun _ => 0)
          [longestPacket]) events) := by
  intro always
  have drained :
      Drained [longestPacket]
        (start ⟨fun _ => 0, 0, 0, 0, false⟩ (fun _ => 0)
          [longestPacket]) :=
    ⟨stored_start _ _ _, rfl, rfl, rfl⟩
  have long : receiveRoom < longestPacket.bytes.length := by
    rw [longestPacket.length_bytes]
    decide
  obtain ⟨events, overrun⟩ := drained.overruns long
  exact overrun (always []) (always events)

end Ammc.Reception
