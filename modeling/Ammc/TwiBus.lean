import Mathlib.Computability.StateTransition
import Ammc.MasterTwi
import Ammc.SlaveBus

namespace Ammc.Bus

open ByteMemory Twi Slave

/-!
# The master's driver on the bus

The hardware of the master carries out what the last write to `TWCR` asks for,
and reports it with a status code to the interrupt handler, while the slaves
take part in the same event.  A transfer runs until nothing is asked for any
more.  It does to the slaves what a transaction of the network does.
-/

/-- The part that the hardware of the master has on the bus. -/
inductive Phase where
  | idle
  | started
  | transmitter
  | receiver
  deriving Repr, DecidableEq

/-- The master with the slaves on its bus. -/
structure State where
  master : Master.TwiDriver
  phase : Phase
  network : Network

/-- What the driver has asked for is done; `TWINT` is to be written again. -/
def done (driver : Master.TwiDriver) : Master.TwiDriver :=
  { driver with
    twcr := { driver.twcr with twint := false } }

/-- A byte from a slave arrives in `TWDR`. -/
def latched
    (byte : UInt8)
    (driver : Master.TwiDriver) : Master.TwiDriver :=
  { driver with twdr := byte }

namespace State

/-- The interrupt handler runs after an event. -/
def report
    (status : Status)
    (phase : Phase)
    (network : Network)
    (state : State) : State where
  master := (done state.master).isr status
  phase := phase
  network := network

/-- `STOP` is sent, which raises no interrupt. -/
def stopped (state : State) : State where
  master :=
    { state.master with
      twcr :=
        { state.master.twcr with
          twint := false
          twsto := false } }
  phase := .idle
  network := state.network.map Node.stop

/-- The byte in `TWDR` is sent as an address. -/
def addressed (state : State) : State :=
  let addr := state.master.twdr >>> 1
  if state.master.twdr &&& 1 = 0 then
    let heard := state.network.hear (Node.addressWrite addr)
    state.report (if heard.1 then .mtSlaAck else .mtSlaNack)
      .transmitter heard.2
  else
    let heard := state.network.hear (Node.addressRead addr)
    state.report (if heard.1 then .mrSlaAck else .mrSlaNack)
      .receiver heard.2

/-- The byte in `TWDR` is sent as data. -/
def transmitted (state : State) : State :=
  let heard := state.network.hear (Node.writeByte state.master.twdr)
  state.report (if heard.1 then .mtDataAck else .mtDataNack)
    .transmitter heard.2

/-- A byte is received into `TWDR`, and acknowledged when `TWEA` is set. -/
def received (state : State) : State :=
  let acked := state.master.twcr.twea
  let heard := state.network.map (Node.readByte acked)
  let byte := Network.driven (heard.map Prod.fst)
  { state with master := latched byte state.master }.report
    (if acked then .mrDataAck else .mrDataNack)
    .receiver (heard.map Prod.snd)

end State

/-- The hardware of the master carries out what it is asked for. -/
def step (state : State) : Option State :=
  if ¬ state.master.twcr.twint then
    none
  else if state.master.twcr.twsto then
    some state.stopped
  else if state.master.twcr.twsta then
    if state.phase = .idle then
      some (state.report .start .started state.network)
    else
      some
        (state.report .repStart .started (state.network.map Node.stop))
  else
    match state.phase with
    | .idle => none
    | .started => some state.addressed
    | .transmitter => some state.transmitted
    | .receiver => some state.received

/-! ## The end of a transfer -/

/-- The transfer is over, with a result in `error`. -/
structure Over
    (network : Network)
    (error : UInt8)
    (state : State) : Prop where
  phase : state.phase = .idle
  network : state.network = network
  mode : state.master.mode = .ready
  error : state.master.error = error

/-- From one state the hardware comes to the same end as from the next. -/
theorem eval_of_step
    {state next final : State}
    (stepped : step state = some next)
    (ended : final ∈ StateTransition.eval step next) :
    final ∈ StateTransition.eval step state := by
  rw [StateTransition.reaches_eval (Relation.ReflTransGen.single stepped)]
  exact ended

/-- A driver that is ready and asks for `STOP` ends the transfer. -/
structure Stopping
    (error : UInt8)
    (driver : Master.TwiDriver) : Prop where
  control : driver.twcr = { allEnabled with twsto := true }
  mode : driver.mode = .ready
  error : driver.error = error

theorem Stopping.closes
    {error : UInt8}
    {driver : Master.TwiDriver}
    (stopping : Stopping error driver)
    (phase : Phase)
    (network : Network) :
    ∃ final ∈ StateTransition.eval step ⟨driver, phase, network⟩,
      Over (network.map Node.stop) error final ∧
        final.master.rxIdx = driver.rxIdx ∧
        final.master.rxBuffer = driver.rxBuffer := by
  have stepped :
      step ⟨driver, phase, network⟩ =
        some (State.stopped ⟨driver, phase, network⟩) := by
    rw [step, stopping.control]
    rfl
  have ended :
      step (State.stopped ⟨driver, phase, network⟩) = none := by
    rfl
  have stays :=
    StateTransition.mem_eval.mpr ⟨Relation.ReflTransGen.refl, ended⟩
  exact
    ⟨_, eval_of_step stepped stays,
      ⟨rfl, rfl, stopping.mode, stopping.error⟩, rfl, rfl⟩

/-! ## Transmitting -/

/-- The bytes of the transmit buffer that have not been sent yet. -/
structure Ahead
    (bytes : List UInt8)
    (driver : Master.TwiDriver) : Prop where
  unlocked : driver.repStart = false
  loaded : driver.txBuffer.bytes driver.txIdx bytes.length = bytes
  size : driver.txIdx + bytes.length = driver.txSize
  short : driver.txSize ≤ Master.twTxMaxLen + 1

/-- The next byte is taken to `TWDR`. -/
theorem Ahead.loadByte
    {byte : UInt8}
    {bytes : List UInt8}
    {driver : Master.TwiDriver}
    (ahead : Ahead (byte :: bytes) driver) :
    Ahead bytes driver.loadByte ∧ driver.loadByte.twdr = byte := by
  have unlocked := ahead.unlocked
  have loaded := ahead.loaded
  have size := ahead.size
  have short := ahead.short
  rw [Master.twTxMaxLen] at short
  rw [List.length_cons] at loaded size
  rw [Memory.bytes_succ, List.cons.injEq] at loaded
  have next : sizeSucc driver.txIdx = driver.txIdx + 1 :=
    sizeSucc_of_lt (by omega)
  refine ⟨⟨unlocked, ?_, ?_, ahead.short⟩, loaded.1⟩
  · change
      driver.txBuffer.bytes (sizeSucc driver.txIdx) bytes.length = bytes
    rw [next]
    exact loaded.2
  · change sizeSucc driver.txIdx + bytes.length = driver.txSize
    rw [next, ← size]
    omega

/-- The next byte is under way. -/
theorem Ahead.transmitNext_cons
    {byte : UInt8}
    {bytes : List UInt8}
    {driver : Master.TwiDriver}
    (ahead : Ahead (byte :: bytes) driver) :
    Ahead bytes driver.transmitNext ∧
      driver.transmitNext.twdr = byte ∧
      driver.transmitNext.twcr = allEnabled := by
  have more : driver.txIdx < driver.txSize := by
    have size := ahead.size
    rw [List.length_cons] at size
    omega
  obtain ⟨further, driving⟩ := ahead.loadByte
  rw [Master.TwiDriver.transmitNext, if_pos more]
  exact
    ⟨⟨further.unlocked, further.loaded, further.size, further.short⟩,
      driving, rfl⟩

/-- After the last byte the driver ends the transfer. -/
theorem Ahead.transmitNext_nil
    {driver : Master.TwiDriver}
    (ahead : Ahead [] driver) :
    Stopping success driver.transmitNext := by
  have noMore : ¬ driver.txIdx < driver.txSize := by
    have size := ahead.size
    rw [List.length_nil] at size
    omega
  rw [Master.TwiDriver.transmitNext, if_neg noMore, ahead.unlocked]
  exact ⟨rfl, rfl, rfl⟩

/-- A transfer that is given up ends as well. -/
theorem stopping_finish
    (error : UInt8)
    {driver : Master.TwiDriver}
    (unlocked : driver.repStart = false) :
    Stopping error ({ driver with error := error }).finish := by
  have same : ({ driver with error := error }).repStart = false :=
    unlocked
  rw [Master.TwiDriver.finish_unlocked same]
  exact ⟨rfl, rfl, rfl⟩

/-- The slaves acknowledge all data bytes of a write. -/
def acksAll : List UInt8 → Network → Bool
  | [], _ => true
  | byte :: bytes, network =>
      (network.hear (Node.writeByte byte)).1 &&
        acksAll bytes (network.hear (Node.writeByte byte)).2

/-- What `twi_status` returns after the data bytes of a write. -/
def dataStatus
    (bytes : List UInt8)
    (network : Network) : UInt8 :=
  if acksAll bytes network then success else Status.mtDataNack.code

/-- What `twi_status` returns after a write. -/
def writeStatus
    (addr : UInt8)
    (data : List UInt8)
    (network : Network) : UInt8 :=
  let heard := network.hear (Node.addressWrite addr)
  if heard.1 then dataStatus data heard.2 else Status.mtSlaNack.code

/-- The driver continues with the same bytes after an event. -/
theorem Ahead.afterDone
    {bytes : List UInt8}
    {driver : Master.TwiDriver}
    (ahead : Ahead bytes driver) :
    Ahead bytes (done driver) :=
  ⟨ahead.unlocked, ahead.loaded, ahead.size, ahead.short⟩

/-- The bytes in front of the driver are written to the slaves. -/
theorem Ahead.transmits
    {bytes : List UInt8}
    {driver : Master.TwiDriver}
    (ahead : Ahead bytes driver)
    (network : Network) :
    ∃ final ∈
        StateTransition.eval step
          ⟨driver.transmitNext, .transmitter, network⟩,
      Over (network.writeBytes bytes) (dataStatus bytes network)
        final := by
  induction bytes generalizing driver network with
  | nil =>
      obtain ⟨final, ended, closed, _⟩ :=
        ahead.transmitNext_nil.closes .transmitter network
      exact ⟨final, ended, closed⟩
  | cons byte bytes inductionHypothesis =>
      obtain ⟨further, driving, control⟩ := ahead.transmitNext_cons
      have stepped :
          step ⟨driver.transmitNext, .transmitter, network⟩ =
            some
              (State.transmitted
                ⟨driver.transmitNext, .transmitter, network⟩) := by
        rw [step, control]
        rfl
      rw [State.transmitted] at stepped
      simp only [driving] at stepped
      have left := further.afterDone
      rw [Network.writeBytes, dataStatus, acksAll]
      rcases heard : network.hear (Node.writeByte byte) with
        ⟨_ | _, after⟩
      · rw [heard] at stepped
        obtain ⟨final, ended, closed, _⟩ :=
          (stopping_finish Status.mtDataNack.code left.unlocked).closes
            .transmitter after
        exact ⟨final, eval_of_step stepped ended, closed⟩
      · rw [heard] at stepped
        obtain ⟨final, ended, closed⟩ := inductionHypothesis left after
        exact ⟨final, eval_of_step stepped ended, closed⟩

/-! ## Receiving -/

/-- The bytes `got` have been received, and `left` and one more are due. -/
structure Fetching
    (buf : Memory)
    (got : List UInt8)
    (left : Nat)
    (driver : Master.TwiDriver) : Prop where
  unlocked : driver.repStart = false
  count : driver.rxIdx = got.length
  stored : driver.rxBuffer = buf.store 0 got
  size : got.length + left + 1 = driver.rxSize
  short : driver.rxSize ≤ Master.twRxMaxLen

/-- The last byte that is due is not acknowledged, all others are. -/
theorem Fetching.receiveNext
    {buf : Memory}
    {got : List UInt8}
    {left : Nat}
    {driver : Master.TwiDriver}
    (fetching : Fetching buf got left driver) :
    driver.receiveNext =
      { driver with
        mode := .receiving
        error := Status.noInfo.code
        twcr := { allEnabled with twea := decide (left ≠ 0) } } := by
  obtain ⟨_, count, _, size, short⟩ := fetching
  rw [Master.twRxMaxLen] at short
  have more : decide (driver.rxIdx < got.length + left) =
      decide (left ≠ 0) := by
    rw [count, decide_eq_decide]
    omega
  rw [Master.TwiDriver.receiveNext_eq size (by omega), more]

/-- The last byte is stored behind the others. -/
theorem Fetching.storeByte
    {buf : Memory}
    {got : List UInt8}
    {left : Nat}
    {driver : Master.TwiDriver}
    (fetching : Fetching buf got left driver) :
    driver.storeByte.rxIdx = got.length + 1 ∧
      driver.storeByte.rxBuffer =
        buf.store 0 (got ++ [driver.twdr]) := by
  obtain ⟨_, count, stored, size, short⟩ := fetching
  rw [Master.twRxMaxLen] at short
  refine ⟨?_, ?_⟩
  · change sizeSucc driver.rxIdx = _
    rw [count]
    exact sizeSucc_of_lt (by omega)
  · change driver.rxBuffer.store driver.rxIdx [driver.twdr] = _
    have concat := buf.store_concat 0 got driver.twdr
    rw [Nat.zero_add] at concat
    rw [stored, count, concat]

/-- With a byte stored, one less is due. -/
theorem Fetching.next
    {buf : Memory}
    {got : List UInt8}
    {left : Nat}
    {driver : Master.TwiDriver}
    (fetching : Fetching buf got (left + 1) driver) :
    Fetching buf (got ++ [driver.twdr]) left driver.storeByte := by
  obtain ⟨count, stored⟩ := fetching.storeByte
  refine ⟨fetching.unlocked, ?_, stored, ?_, fetching.short⟩
  · rw [count, List.length_append, List.length_singleton]
  · rw [List.length_append, List.length_singleton]
    refine Eq.trans ?_ fetching.size
    omega

/-- A receiver that asks for a byte gets it. -/
theorem Fetching.step_received
    {buf : Memory}
    {got : List UInt8}
    {left : Nat}
    {driver : Master.TwiDriver}
    (fetching : Fetching buf got left driver)
    {acked : Bool}
    (more : decide (left ≠ 0) = acked)
    (network : Network) :
    step ⟨driver.receiveNext, .receiver, network⟩ =
      some
        ⟨(done
              (latched
                (Network.driven
                  ((network.map (Node.readByte acked)).map Prod.fst))
                driver.receiveNext)).isr
            (if acked then .mrDataAck else .mrDataNack),
          .receiver,
          (network.map (Node.readByte acked)).map Prod.snd⟩ := by
  have stepped :
      step ⟨driver.receiveNext, .receiver, network⟩ =
        some
          (State.received ⟨driver.receiveNext, .receiver, network⟩) := by
    rw [fetching.receiveNext]
    rfl
  have control : driver.receiveNext.twcr.twea = acked := by
    rw [fetching.receiveNext]
    exact more
  rw [stepped, State.received]
  simp only [control, State.report]

/-- What is due does not change while a byte arrives. -/
theorem Fetching.afterLatch
    {buf : Memory}
    {got : List UInt8}
    {left : Nat}
    {driver : Master.TwiDriver}
    (fetching : Fetching buf got left driver)
    (byte : UInt8) :
    Fetching buf got left (done (latched byte driver.receiveNext)) := by
  rw [fetching.receiveNext]
  exact
    ⟨fetching.unlocked, fetching.count, fetching.stored, fetching.size,
      fetching.short⟩

/-- A byte that is not the last one is read and acknowledged. -/
theorem Fetching.step_more
    {buf : Memory}
    {got : List UInt8}
    {left : Nat}
    {driver : Master.TwiDriver}
    (fetching : Fetching buf got (left + 1) driver)
    (network : Network) :
    ∃ arrived heard,
      Fetching buf got (left + 1) arrived ∧
        step ⟨driver.receiveNext, .receiver, network⟩ =
          some ⟨arrived.storeByte.receiveNext, .receiver, heard⟩ ∧
        network.readBytes (left + 1 + 1) =
          (arrived.twdr :: (heard.readBytes (left + 1)).1,
            (heard.readBytes (left + 1)).2) := by
  have more : decide (left + 1 ≠ 0) = true :=
    decide_eq_true (Nat.succ_ne_zero left)
  have stepped := fetching.step_received more network
  rw [if_pos rfl, Master.TwiDriver.isr_mrDataAck] at stepped
  refine ⟨_, _, fetching.afterLatch _, stepped, ?_⟩
  rw [Network.readBytes]
  simp only [more]
  rfl

/-- The last byte is read and not acknowledged. -/
theorem Fetching.step_last
    {buf : Memory}
    {got : List UInt8}
    {driver : Master.TwiDriver}
    (fetching : Fetching buf got 0 driver)
    (network : Network) :
    ∃ arrived heard,
      Fetching buf got 0 arrived ∧
        step ⟨driver.receiveNext, .receiver, network⟩ =
          some
            ⟨({ arrived.storeByte with error := success } :
                Master.TwiDriver).finish,
              .receiver, heard⟩ ∧
        network.readBytes (0 + 1) =
          ([arrived.twdr], heard.map Node.stop) := by
  have last : decide ((0 : Nat) ≠ 0) = false := by
    decide
  have stepped := fetching.step_received last network
  rw [if_neg Bool.false_ne_true,
    Master.TwiDriver.isr_mrDataNack] at stepped
  refine ⟨_, _, fetching.afterLatch _, stepped, ?_⟩
  rw [Network.readBytes]
  simp only [last]
  rfl

/-- The bytes that are due are read from the slaves. -/
theorem Fetching.receives
    {buf : Memory}
    {got : List UInt8}
    {left : Nat}
    {driver : Master.TwiDriver}
    (fetching : Fetching buf got left driver)
    (network : Network) :
    ∃ final ∈
        StateTransition.eval step
          ⟨driver.receiveNext, .receiver, network⟩,
      Over (network.readBytes (left + 1)).2 success final ∧
        final.master.rxIdx = got.length + (left + 1) ∧
        final.master.rxBuffer =
          buf.store 0 (got ++ (network.readBytes (left + 1)).1) := by
  induction left generalizing got driver network with
  | zero =>
      obtain ⟨arrived, heard, latched, stepped, bytes⟩ :=
        fetching.step_last network
      obtain ⟨count, stored⟩ := latched.storeByte
      have unlocked : arrived.storeByte.repStart = false :=
        latched.unlocked
      obtain ⟨final, ended, closed, total, kept⟩ :=
        (stopping_finish success unlocked).closes .receiver heard
      rw [bytes]
      refine ⟨final, eval_of_step stepped ended, closed, ?_, ?_⟩
      · rw [total, Master.TwiDriver.rxIdx_finish]
        exact count
      · rw [kept, Master.TwiDriver.rxBuffer_finish]
        exact stored
  | succ left inductionHypothesis =>
      obtain ⟨arrived, heard, latched, stepped, bytes⟩ :=
        fetching.step_more network
      obtain ⟨final, ended, closed, total, kept⟩ :=
        inductionHypothesis latched.next heard
      rw [bytes]
      refine ⟨final, eval_of_step stepped ended, closed, ?_, ?_⟩
      · rw [total, List.length_append, List.length_singleton]
        omega
      · rw [kept, List.append_assoc]
        rfl

/-! ## Addressing the slaves -/

/-- An address for a write is followed by the bytes in front of the driver. -/
theorem Ahead.writes
    {data : List UInt8}
    {driver : Master.TwiDriver}
    (ahead : Ahead data driver)
    {addr : UInt8}
    (driving : driver.twdr = Master.twiAddrWrite addr)
    (control : driver.twcr = allEnabled)
    (network : Network) :
    ∃ final ∈ StateTransition.eval step ⟨driver, .started, network⟩,
      Over (network.write (addr &&& 0x7F) data)
        (writeStatus (addr &&& 0x7F) data network) final := by
  obtain ⟨direction, target⟩ := Master.twiAddrWrite_bits addr
  have stepped :
      step ⟨driver, .started, network⟩ =
        some (State.addressed ⟨driver, .started, network⟩) := by
    rw [step, control]
    rfl
  rw [State.addressed] at stepped
  simp only [driving, direction, target, if_true] at stepped
  have left := ahead.afterDone
  rw [Network.write, writeStatus]
  rcases heard : network.hear (Node.addressWrite (addr &&& 0x7F)) with
    ⟨_ | _, after⟩
  · rw [heard] at stepped
    obtain ⟨final, ended, closed, _⟩ :=
      (stopping_finish Status.mtSlaNack.code left.unlocked).closes
        .transmitter after
    exact ⟨final, eval_of_step stepped ended, closed⟩
  · rw [heard] at stepped
    have transmitting :
        Ahead data { done driver with mode := .transmitting } :=
      ⟨left.unlocked, left.loaded, left.size, left.short⟩
    obtain ⟨final, ended, closed⟩ := transmitting.transmits after
    exact ⟨final, eval_of_step stepped ended, closed⟩

/-- What `twi_status` returns after a read. -/
def readStatus
    (addr : UInt8)
    (network : Network) : UInt8 :=
  if (network.hear (Node.addressRead addr)).1 then
    success
  else
    Status.mrSlaNack.code

/-- An address for a read is followed by the bytes that are due. -/
theorem Fetching.reads
    {buf : Memory}
    {left : Nat}
    {driver : Master.TwiDriver}
    (fetching : Fetching buf [] left driver)
    {addr : UInt8}
    (driving : driver.twdr = Master.twiAddrRead addr)
    (control : driver.twcr = allEnabled)
    (network : Network) :
    ∃ final ∈ StateTransition.eval step ⟨driver, .started, network⟩,
      Over (network.read (addr &&& 0x7F) (left + 1)).2
          (readStatus (addr &&& 0x7F) network) final ∧
        final.master.rxIdx =
          (network.read (addr &&& 0x7F) (left + 1)).1.length ∧
        final.master.rxBuffer =
          buf.store 0 (network.read (addr &&& 0x7F) (left + 1)).1 := by
  obtain ⟨direction, target⟩ := Master.twiAddrRead_bits addr
  have stepped :
      step ⟨driver, .started, network⟩ =
        some (State.addressed ⟨driver, .started, network⟩) := by
    rw [step, control]
    rfl
  rw [State.addressed] at stepped
  simp only [driving, direction, target, if_false] at stepped
  rw [Network.read, readStatus]
  rcases heard : network.hear (Node.addressRead (addr &&& 0x7F)) with
    ⟨_ | _, after⟩
  · rw [heard] at stepped
    obtain ⟨final, ended, closed, total, bytes⟩ :=
      (stopping_finish Status.mrSlaNack.code
        (show (done driver).repStart = false from
          fetching.unlocked)).closes .receiver after
    refine ⟨final, eval_of_step stepped ended, closed, ?_, ?_⟩
    · rw [total, Master.TwiDriver.rxIdx_finish]
      exact fetching.count
    · rw [bytes, Master.TwiDriver.rxBuffer_finish]
      exact fetching.stored
  · rw [heard] at stepped
    have receiving : Fetching buf [] left (done driver) :=
      ⟨fetching.unlocked, fetching.count, fetching.stored,
        fetching.size, fetching.short⟩
    obtain ⟨final, ended, closed, total, bytes⟩ :=
      receiving.receives after
    refine ⟨final, eval_of_step stepped ended, closed, ?_, bytes⟩
    rw [total, List.length_nil, Nat.zero_add]
    exact (Network.length_readBytes _ _).symm

/-! ## Whole transfers -/

/-- The driver is ready, and the bus free or kept by the master. -/
def AtRest
    (driver : Master.TwiDriver)
    (phase : Phase) : Prop :=
  (driver.mode = .ready ∧ phase = .idle) ∨
    (driver.mode = .repeatedStart ∧ phase = .started)

/-- The driver has an address in `TWDR`, and has asked for it to be sent. -/
structure Begun
    (byte : UInt8)
    (bytes : List UInt8)
    (driver begun : Master.TwiDriver) : Prop where
  ahead : Ahead bytes begun
  driving : begun.twdr = byte
  control : begun.twcr = allEnabled
  rxBuffer : begun.rxBuffer = driver.rxBuffer
  rxIdx : begun.rxIdx = driver.rxIdx
  rxSize : begun.rxSize = driver.rxSize

/-- A transfer begins with the byte of the address. -/
theorem AtRest.begins
    {driver : Master.TwiDriver}
    {phase : Phase}
    (rest : AtRest driver phase)
    {byte : UInt8}
    {bytes : List UInt8}
    (loaded :
      driver.txBuffer.bytes 0 (bytes.length + 1) = byte :: bytes)
    (short : bytes.length ≤ Master.twTxMaxLen)
    (network : Network) :
    ∃ begun,
      Begun byte bytes driver begun ∧
        StateTransition.eval step
            ⟨driver.sendRaw (bytes.length + 1) false, phase, network⟩ =
          StateTransition.eval step ⟨begun, .started, network⟩ := by
  let prepared : Master.TwiDriver :=
    { driver with
      txSize := bytes.length + 1
      txIdx := 0
      repStart := false }
  have ahead : Ahead (byte :: bytes) prepared :=
    ⟨rfl, loaded, Nat.zero_add _, Nat.succ_le_succ short⟩
  rcases rest with ⟨ready, idle⟩ | ⟨kept, started⟩
  · let asking : Master.TwiDriver :=
      { prepared.start with mode := .initializing }
    have raw : driver.sendRaw (bytes.length + 1) false = asking :=
      Master.TwiDriver.sendRaw_ready ready _ false
    have waiting : Ahead (byte :: bytes) (done asking) :=
      ⟨ahead.unlocked, ahead.loaded, ahead.size, ahead.short⟩
    obtain ⟨further, driving, control⟩ := waiting.transmitNext_cons
    obtain ⟨buffer, idx, size⟩ :=
      Master.TwiDriver.rx_transmitNext (done asking)
    refine
      ⟨(done asking).transmitNext,
        ⟨further, driving, control, buffer, idx, size⟩, ?_⟩
    rw [raw, idle]
    exact
      StateTransition.reaches_eval (Relation.ReflTransGen.single rfl)
  · obtain ⟨further, driving⟩ := ahead.loadByte
    let begun : Master.TwiDriver :=
      { prepared.loadByte.transfer with mode := .initializing }
    have raw : driver.sendRaw (bytes.length + 1) false = begun :=
      Master.TwiDriver.sendRaw_repeatedStart kept _ false
    refine
      ⟨begun,
        ⟨⟨further.unlocked, further.loaded, further.size, further.short⟩,
          driving, rfl, rfl, rfl, rfl⟩, ?_⟩
    rw [raw, started]

/-- `twi_send` without a lock does to the slaves what a write does. -/
theorem AtRest.send
    {driver : Master.TwiDriver}
    {phase : Phase}
    (rest : AtRest driver phase)
    (addr : UInt8)
    {data : List UInt8}
    (short : data.length ≤ Master.twTxMaxLen)
    (network : Network) :
    ∃ begun,
      driver.send addr data false = some begun ∧
        ∃ final ∈ StateTransition.eval step ⟨begun, phase, network⟩,
          Over (network.write (addr &&& 0x7F) data)
            (writeStatus (addr &&& 0x7F) data network) final := by
  let filled : Master.TwiDriver :=
    { driver with
      txBuffer :=
        (driver.txBuffer.store 0 [Master.twiAddrWrite addr]).store 1
          data }
  have loaded :
      filled.txBuffer.bytes 0 (data.length + 1) =
        Master.twiAddrWrite addr :: data := by
    have stored :=
      driver.txBuffer.bytes_store_store [Master.twiAddrWrite addr] data
    rw [List.length_singleton, Nat.add_comm] at stored
    exact stored
  have filledRest : AtRest filled phase := rest
  obtain ⟨begun, begins, same⟩ := filledRest.begins loaded short network
  obtain ⟨final, ended, closed⟩ :=
    begins.ahead.writes begins.driving begins.control network
  rw [← same] at ended
  exact ⟨_, if_neg (Nat.not_lt.mpr short), final, ended, closed⟩

/-- `twi_recv` without a lock does to the slaves what a read does. -/
theorem AtRest.recv
    {driver : Master.TwiDriver}
    {phase : Phase}
    (rest : AtRest driver phase)
    (addr : UInt8)
    (buf : Memory)
    {toRecv : Nat}
    (positive : 1 ≤ toRecv)
    (short : toRecv ≤ Master.twRxMaxLen)
    (network : Network) :
    ∃ begun,
      driver.recv addr buf toRecv false = some begun ∧
        ∃ final ∈ StateTransition.eval step ⟨begun, phase, network⟩,
          Over (network.read (addr &&& 0x7F) toRecv).2
              (readStatus (addr &&& 0x7F) network) final ∧
            final.master.rxIdx =
              (network.read (addr &&& 0x7F) toRecv).1.length ∧
            final.master.rxBuffer =
              buf.store 0 (network.read (addr &&& 0x7F) toRecv).1 := by
  obtain ⟨left, rfl⟩ := Nat.exists_eq_add_of_le' positive
  let filled : Master.TwiDriver :=
    { driver with
      rxBuffer := buf
      rxSize := left + 1
      rxIdx := 0
      txBuffer := driver.txBuffer.store 0 [Master.twiAddrRead addr] }
  have loaded :
      filled.txBuffer.bytes 0 (([] : List UInt8).length + 1) =
        [Master.twiAddrRead addr] :=
    driver.txBuffer.bytes_store_self 0 [Master.twiAddrRead addr]
  have filledRest : AtRest filled phase := rest
  obtain ⟨begun, begins, same⟩ :=
    filledRest.begins loaded (Nat.zero_le _) network
  have fetching : Fetching buf [] left begun := by
    refine ⟨begins.ahead.unlocked, begins.rxIdx, ?_, ?_, ?_⟩
    · rw [begins.rxBuffer, Memory.store_nil]
    · rw [begins.rxSize, List.length_nil, Nat.zero_add]
    · rw [begins.rxSize]
      exact short
  obtain ⟨final, ended, closed⟩ :=
    fetching.reads begins.driving begins.control network
  rw [← same] at ended
  exact ⟨_, if_neg (Nat.not_lt.mpr short), final, ended, closed⟩

end Ammc.Bus
