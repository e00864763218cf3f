import Ammc.TwiBus

namespace Ammc.Bus

open ByteMemory Twi

/-!
# The master's driver on a bus where anything may happen

The slaves may refuse an address, send any bytes, or be disturbed: the master
loses the arbitration to another one, or an illegal condition is seen on the
bus.  What the driver has asked for decides what may happen next, and nothing
else does.

For `twi_recv` this module says which calls store and count exactly the bytes
that a slave has sent, whatever happens.
-/

/-- What the hardware of the master may meet with before its next interrupt. -/
inductive Occurrence where
  | started
  | address (acked : Bool)
  | sent (acked : Bool)
  | received (byte : UInt8)
  | arbitrationLost
  | busError
  deriving Repr, DecidableEq

/--
The master on its bus.  `peer` is the address that was sent last, and `arrived`
holds the bytes received since a transfer began, each with its sender.
-/
structure Wire where
  master : Master.TwiDriver
  phase : Phase
  peer : UInt8
  arrived : List (UInt8 × UInt8)

namespace Wire

/-- The interrupt handler runs; a `STOP` that it asks for frees the bus. -/
def report
    (status : Status)
    (phase : Phase)
    (wire : Wire) : Wire :=
  let master := (done wire.master).isr status
  { wire with
    master := master
    phase := if master.twcr.twsto then .idle else phase }

theorem master_report
    (status : Status)
    (phase : Phase)
    (wire : Wire) :
    (wire.report status phase).master = (done wire.master).isr status :=
  rfl

theorem arrived_report
    (status : Status)
    (phase : Phase)
    (wire : Wire) :
    (wire.report status phase).arrived = wire.arrived :=
  rfl

theorem peer_report
    (status : Status)
    (phase : Phase)
    (wire : Wire) :
    (wire.report status phase).peer = wire.peer :=
  rfl

theorem phase_report
    (status : Status)
    (phase : Phase)
    (wire : Wire) :
    (wire.report status phase).phase =
      if (wire.report status phase).master.twcr.twsto then .idle
      else phase :=
  rfl

/-- Something happens, and the handler is told. -/
def next
    (wire : Wire) : Occurrence → Wire
  | .started =>
      wire.report (if wire.phase = .idle then .start else .repStart)
        .started
  | .address acked =>
      let addressed := { wire with peer := wire.master.twdr >>> 1 }
      if wire.master.twdr &&& 1 = 0 then
        addressed.report (if acked then .mtSlaAck else .mtSlaNack)
          .transmitter
      else
        addressed.report (if acked then .mrSlaAck else .mrSlaNack)
          .receiver
  | .sent acked =>
      wire.report (if acked then .mtDataAck else .mtDataNack)
        .transmitter
  | .received byte =>
      ({ wire with
          master := latched byte wire.master
          arrived := wire.arrived ++ [(wire.peer, byte)] } : Wire).report
        (if wire.master.twcr.twea then .mrDataAck else .mrDataNack)
        .receiver
  | .arbitrationLost => wire.report .arbLost .idle
  | .busError => wire.report .busError .idle

/-- What a conforming bus may do under what the driver asks for. -/
def Possible
    (wire : Wire) : Occurrence → Prop
  | .started => wire.master.twcr.twsta = true
  | .address _ =>
      wire.master.twcr.twsta = false ∧ wire.phase = .started
  | .sent _ =>
      wire.master.twcr.twsta = false ∧ wire.phase = .transmitter
  | .received _ =>
      wire.master.twcr.twsta = false ∧ wire.phase = .receiver
  | .arbitrationLost => wire.phase ≠ .idle
  | .busError => True

instance (wire : Wire) (occurrence : Occurrence) :
    Decidable (wire.Possible occurrence) :=
  match occurrence with
  | .started => inferInstanceAs (Decidable (_ = _))
  | .address _ => inferInstanceAs (Decidable (_ ∧ _))
  | .sent _ => inferInstanceAs (Decidable (_ ∧ _))
  | .received _ => inferInstanceAs (Decidable (_ ∧ _))
  | .arbitrationLost => inferInstanceAs (Decidable (_ ≠ _))
  | .busError => inferInstanceAs (Decidable True)

section Possibilities

variable {wire : Wire}
variable {occurrence : Occurrence}

/-- A master that asks for `START` is not sending or receiving. -/
theorem Possible.asking
    (possible : wire.Possible occurrence)
    (asked : wire.master.twcr.twsta = true) :
    occurrence = .started ∨
      (occurrence = .arbitrationLost ∧ wire.phase ≠ .idle) ∨
      occurrence = .busError := by
  cases occurrence with
  | started => exact Or.inl rfl
  | arbitrationLost => exact Or.inr (Or.inl ⟨rfl, possible⟩)
  | busError => exact Or.inr (Or.inr rfl)
  | _ =>
      rw [Possible, asked] at possible
      exact absurd possible.1 (by decide)

/-- Behind `START` an address is sent. -/
theorem Possible.addressing
    (possible : wire.Possible occurrence)
    (asked : wire.master.twcr.twsta = false)
    (started : wire.phase = .started) :
    (∃ acked, occurrence = .address acked) ∨
      occurrence = .arbitrationLost ∨ occurrence = .busError := by
  cases occurrence with
  | address acked => exact Or.inl ⟨acked, rfl⟩
  | arbitrationLost => exact Or.inr (Or.inl rfl)
  | busError => exact Or.inr (Or.inr rfl)
  | started =>
      rw [Possible, asked] at possible
      exact absurd possible (by decide)
  | _ =>
      rw [Possible, started] at possible
      exact absurd possible.2 (by decide)

/-- A receiver receives. -/
theorem Possible.receiving
    (possible : wire.Possible occurrence)
    (asked : wire.master.twcr.twsta = false)
    (receiver : wire.phase = .receiver) :
    (∃ byte, occurrence = .received byte) ∨
      occurrence = .arbitrationLost ∨ occurrence = .busError := by
  cases occurrence with
  | received byte => exact Or.inl ⟨byte, rfl⟩
  | arbitrationLost => exact Or.inr (Or.inl rfl)
  | busError => exact Or.inr (Or.inr rfl)
  | started =>
      rw [Possible, asked] at possible
      exact absurd possible (by decide)
  | _ =>
      rw [Possible, receiver] at possible
      exact absurd possible.2 (by decide)

end Possibilities

/-- What may happen while a function sleeps until the driver is ready. -/
inductive Runs : Wire → List Occurrence → Wire → Prop where
  | none
      (wire : Wire) :
      Runs wire [] wire
  | interrupt
      {wire final : Wire}
      {occurrence : Occurrence}
      {later : List Occurrence}
      (asleep : wire.master.isReady = false)
      (possible : wire.Possible occurrence)
      (rest : Runs (wire.next occurrence) later final) :
      Runs wire (occurrence :: later) final

/-- What every interrupt keeps holds after a run. -/
theorem Runs.preserves
    {invariant : Wire → Prop}
    (kept :
      ∀ wire occurrence,
        invariant wire → wire.master.isReady = false →
          wire.Possible occurrence → invariant (wire.next occurrence))
    {wire final : Wire}
    {occurrences : List Occurrence}
    (runs : Runs wire occurrences final)
    (holds : invariant wire) :
    invariant final := by
  induction runs with
  | none wire =>
      exact holds
  | interrupt asleep possible rest inductionHypothesis =>
      exact inductionHypothesis (kept _ _ holds asleep possible)

end Wire

/-! ## Calls of `twi_recv` -/

/-- The arguments of a call of `twi_recv`; a null pointer is `none`. -/
structure RecvCall where
  addr : UInt8
  buf : Option Memory
  toRecv : Nat
  busLock : Bool

namespace RecvCall

/-- `twi_recv` up to its second sleep, or `none` when it refuses the call. -/
def begin
    (call : RecvCall)
    (wire : Wire) : Option Wire :=
  call.buf.bind fun buf =>
    (wire.master.recv call.addr buf call.toRecv call.busLock).map
      fun master => { wire with master := master, arrived := [] }

/-- What `twi_recv` returns, and the bus as it is then. -/
inductive Returns
    (call : RecvCall)
    (wire : Wire) : UInt8 → Wire → Prop where
  | refused
      (refusal : call.begin wire = none) :
      Returns call wire 1 { wire with arrived := [] }
  | served
      {begun final : Wire}
      {occurrences : List Occurrence}
      (begins : call.begin wire = some begun)
      (runs : begun.Runs occurrences final)
      (ready : final.master.isReady = true) :
      Returns call wire (UInt8.ofNat final.master.rxIdx) final

/--
The call does what it is for, whatever happens on the bus: the bytes received
fill the buffer from its start on and do not leave it, the last one ends the
transfer, and their number is returned.
-/
structure Correct
    (call : RecvCall)
    (wire : Wire) : Prop where
  stored :
    ∀ buf begun occurrences reached,
      call.buf = some buf →
        call.begin wire = some begun →
          begun.Runs occurrences reached →
            reached.master.rxBuffer =
                buf.store 0 (reached.arrived.map Prod.snd) ∧
              reached.arrived.length ≤ call.toRecv
  ends :
    ∀ begun occurrences reached,
      call.begin wire = some begun →
        begun.Runs occurrences reached →
          reached.arrived.length = call.toRecv →
            reached.master.twcr.twsto = true ∨
              reached.master.twcr.twsta = true
  counted :
    ∀ value final,
      call.Returns wire value final →
        value.toNat = final.arrived.length

end RecvCall

/-! ## What a transfer that fetches bytes goes through -/

/-- What the driver has recorded of a transfer. -/
structure Recorded
    (call : RecvCall)
    (buf : Memory)
    (arrived : List (UInt8 × UInt8))
    (driver : Master.TwiDriver) : Prop where
  count : driver.rxIdx = arrived.length
  stored : driver.rxBuffer = buf.store 0 (arrived.map Prod.snd)
  size : driver.rxSize = call.toRecv
  alone : driver.txSize = 1

/-- A transfer opens with `START`, unless the bus was kept, and the address. -/
inductive Opening
    (call : RecvCall)
    (wire : Wire) : Prop where
  | asking
      (asked : wire.master.twcr.twsta = true)
      (free : wire.phase = .idle)
      (first : wire.master.txIdx = 0)
      (address :
        wire.master.txBuffer 0 = Master.twiAddrRead call.addr) :
      Opening call wire
  | addressing
      (asked : wire.master.twcr.twsta = false)
      (started : wire.phase = .started)
      (loaded : wire.master.txIdx = 1)
      (address : wire.master.twdr = Master.twiAddrRead call.addr) :
      Opening call wire

/-- How far a transfer has come. -/
inductive Stage
    (call : RecvCall)
    (wire : Wire) : Prop where
  | opening
      (nothing : wire.arrived = [])
      (opens : Opening call wire) :
      Stage call wire
  | fetching
      (asked : wire.master.twcr.twsta = false)
      (receiving : wire.phase = .receiver)
      (loaded : wire.master.txIdx = 1)
      (addressed : wire.peer = call.addr &&& 0x7F)
      (more : wire.arrived.length < call.toRecv)
      (acks :
        wire.master.twcr.twea =
          decide (wire.arrived.length + 1 < call.toRecv)) :
      Stage call wire
  | restarting
      (asked : wire.master.twcr.twsta = true)
      (going : wire.master.twcr.twsto = false)
      (kept : wire.master.repStart = true)
      (loaded : wire.master.txIdx = 1)
      (inside : wire.arrived.length ≤ call.toRecv) :
      Stage call wire
  | finished
      (rest : AtRest wire.master wire.phase)
      (asked :
        wire.master.twcr.twsto = true ∨ wire.master.twcr.twsta = true)
      (inside : wire.arrived.length ≤ call.toRecv) :
      Stage call wire

/-- A transfer on its way. -/
structure Underway
    (call : RecvCall)
    (buf : Memory)
    (wire : Wire) : Prop where
  recorded : Recorded call buf wire.arrived wire.master
  senders : ∀ item ∈ wire.arrived, item.1 = call.addr &&& 0x7F
  stage : Stage call wire

section Steps

variable {call : RecvCall}
variable {buf : Memory}

theorem Recorded.finish
    {arrived : List (UInt8 × UInt8)}
    {driver : Master.TwiDriver}
    (recorded : Recorded call buf arrived driver) :
    Recorded call buf arrived driver.finish := by
  obtain ⟨count, stored, size, alone⟩ := recorded
  rw [Master.TwiDriver.finish]
  split
  · exact ⟨count, stored, size, alone⟩
  · exact ⟨count, stored, size, alone⟩

/-- A driver that gives up or is done ends the transfer, or starts again. -/
theorem Stage.of_finish
    {wire : Wire}
    {driver : Master.TwiDriver}
    {phase : Phase}
    (finished : wire.master = driver.finish)
    (released :
      wire.phase = if wire.master.twcr.twsto then .idle else phase)
    (loaded : driver.txIdx = 1)
    (inside : wire.arrived.length ≤ call.toRecv) :
    Stage call wire := by
  cases kept : driver.repStart with
  | true =>
      rw [Master.TwiDriver.finish, kept] at finished
      refine .restarting ?_ ?_ ?_ ?_ inside
      · rw [finished]
        rfl
      · rw [finished]
        rfl
      · rw [finished]
        exact kept
      · rw [finished]
        exact loaded
  | false =>
      rw [Master.TwiDriver.finish_unlocked kept] at finished
      rw [finished] at released
      refine .finished (Or.inl ⟨?_, released⟩) (Or.inl ?_) inside
      · rw [finished]
        rfl
      · rw [finished]
        rfl

namespace Underway

variable {wire : Wire}

/-- No more bytes have been stored than were asked for. -/
theorem inside
    (underway : Underway call buf wire) :
    wire.arrived.length ≤ call.toRecv := by
  cases underway.stage with
  | opening nothing _ =>
      rw [nothing]
      exact Nat.zero_le _
  | fetching _ _ _ _ more _ => exact Nat.le_of_lt more
  | restarting _ _ _ _ inside => exact inside
  | finished _ _ inside => exact inside

/-- Whatever was going on, an illegal condition on the bus ends it. -/
theorem busError
    (underway : Underway call buf wire) :
    Underway call buf (wire.next .busError) := by
  have inside := underway.inside
  obtain ⟨⟨count, stored, size, alone⟩, senders, _⟩ := underway
  exact
    ⟨⟨count, stored, size, alone⟩, senders,
      .finished (Or.inl ⟨rfl, rfl⟩) (Or.inl rfl) inside⟩

/-- A transfer that is given up has stored what it had stored. -/
theorem givenUp
    (underway : Underway call buf wire)
    (loaded : wire.master.txIdx = 1)
    (error : UInt8)
    (phase : Phase)
    {changed : Wire}
    (finished :
      changed.master =
        ({ done wire.master with error := error }).finish)
    (released :
      changed.phase =
        if changed.master.twcr.twsto then .idle else phase)
    (arrived : changed.arrived = wire.arrived) :
    Underway call buf changed := by
  have inside := underway.inside
  obtain ⟨⟨count, stored, size, alone⟩, senders, _⟩ := underway
  have recorded :
      Recorded call buf wire.arrived
        { done wire.master with error := error } :=
    ⟨count, stored, size, alone⟩
  refine ⟨?_, ?_, ?_⟩
  · rw [finished, arrived]
    exact recorded.finish
  · rw [arrived]
    exact senders
  · refine Stage.of_finish finished released loaded ?_
    rw [arrived]
    exact inside

/-- Losing the arbitration gives the transfer up. -/
theorem arbitrationLost
    (underway : Underway call buf wire)
    (loaded : wire.master.txIdx = 1) :
    Underway call buf (wire.next .arbitrationLost) :=
  underway.givenUp loaded Status.arbLost.code .idle rfl rfl rfl

/-- With `START` on the bus, the driver hands over the address. -/
theorem next_started
    (underway : Underway call buf wire)
    (free : wire.phase = .idle)
    (first : wire.master.txIdx = 0) :
    wire.next .started =
      { wire with
        master :=
          ({ (done wire.master).loadByte with
              error := Status.noInfo.code }).transfer
        phase := .started } := by
  have more :
      (done wire.master).txIdx < (done wire.master).txSize := by
    change wire.master.txIdx < wire.master.txSize
    rw [first, underway.recorded.alone]
    exact Nat.one_pos
  have isr :
      (done wire.master).isr .start =
        ({ (done wire.master).loadByte with
            error := Status.noInfo.code }).transfer :=
    if_pos more
  rw [Wire.next, if_pos free, Wire.report, isr]
  rfl

/-- Then the address is under way. -/
theorem next_asking
    (underway : Underway call buf wire)
    (asked : wire.master.twcr.twsta = true)
    (free : wire.phase = .idle)
    (first : wire.master.txIdx = 0)
    (address : wire.master.txBuffer 0 = Master.twiAddrRead call.addr)
    (nothing : wire.arrived = [])
    {occurrence : Occurrence}
    (possible : wire.Possible occurrence) :
    Underway call buf (wire.next occurrence) := by
  rcases possible.asking asked with rfl | ⟨_, held⟩ | rfl
  · obtain ⟨count, stored, size, alone⟩ := underway.recorded
    rw [underway.next_started free first]
    refine
      ⟨⟨count, stored, size, alone⟩, underway.senders,
        .opening nothing (.addressing rfl rfl ?_ ?_)⟩
    · change sizeSucc wire.master.txIdx = 1
      rw [first]
      rfl
    · change wire.master.txBuffer wire.master.txIdx = _
      rw [first]
      exact address
  · exact absurd free held
  · exact underway.busError

/-- The driver acknowledges the next byte unless it is the last one. -/
theorem receiveNext_of_recorded
    {arrived : List (UInt8 × UInt8)}
    {driver : Master.TwiDriver}
    (recorded : Recorded call buf arrived driver)
    (short : call.toRecv ≤ Master.twRxMaxLen)
    {last : Nat}
    (total : call.toRecv = last + 1) :
    driver.receiveNext =
      { driver with
        mode := .receiving
        error := Status.noInfo.code
        twcr :=
          { allEnabled with twea := decide (driver.rxIdx < last) } } := by
  rw [Master.twRxMaxLen] at short
  have due : last + 1 = driver.rxSize :=
    (recorded.size.trans total).symm
  have small : driver.rxSize < 2 ^ 16 := by
    omega
  exact Master.TwiDriver.receiveNext_eq due small

/-- With its address acknowledged, the slave is asked for the first byte. -/
theorem next_addressing
    (underway : Underway call buf wire)
    (positive : 1 ≤ call.toRecv)
    (short : call.toRecv ≤ Master.twRxMaxLen)
    (asked : wire.master.twcr.twsta = false)
    (started : wire.phase = .started)
    (loaded : wire.master.txIdx = 1)
    (address : wire.master.twdr = Master.twiAddrRead call.addr)
    (nothing : wire.arrived = [])
    {occurrence : Occurrence}
    (possible : wire.Possible occurrence) :
    Underway call buf (wire.next occurrence) := by
  rcases possible.addressing asked started with ⟨acked, rfl⟩ | rfl | rfl
  · obtain ⟨reading, peer⟩ := Master.twiAddrRead_bits call.addr
    rw [← address] at reading peer
    rw [Wire.next, if_neg reading]
    cases acked with
    | false =>
        exact
          underway.givenUp loaded Status.mrSlaNack.code .receiver
            rfl rfl rfl
    | true =>
        obtain ⟨count, stored, size, alone⟩ := underway.recorded
        obtain ⟨last, total⟩ := Nat.exists_eq_add_of_le' positive
        have recorded : Recorded call buf wire.arrived (done wire.master) :=
          ⟨count, stored, size, alone⟩
        rw [if_pos rfl, Wire.report, Master.TwiDriver.isr_mrSlaAck,
          receiveNext_of_recorded recorded short total]
        refine
          ⟨⟨count, stored, size, alone⟩, underway.senders,
            .fetching rfl rfl loaded peer ?_ ?_⟩
        · change wire.arrived.length < call.toRecv
          rw [nothing]
          exact positive
        · change
            decide (wire.master.rxIdx < last) =
              decide (wire.arrived.length + 1 < call.toRecv)
          rw [count, total]
          simp
  · exact underway.arbitrationLost loaded
  · exact underway.busError

/-- A received byte is recorded behind the earlier ones. -/
theorem recorded_byte
    (underway : Underway call buf wire)
    (short : call.toRecv ≤ Master.twRxMaxLen)
    (more : wire.arrived.length < call.toRecv)
    (byte : UInt8) :
    Recorded call buf (wire.arrived ++ [(wire.peer, byte)])
      (done (latched byte wire.master)).storeByte := by
  obtain ⟨count, stored, size, alone⟩ := underway.recorded
  rw [Master.twRxMaxLen] at short
  refine ⟨?_, ?_, size, alone⟩
  · change sizeSucc wire.master.rxIdx = _
    rw [count, sizeSucc_of_lt (by omega), List.length_append]
    rfl
  · change wire.master.rxBuffer.store wire.master.rxIdx [byte] = _
    have concat :=
      buf.store_concat 0 (wire.arrived.map Prod.snd) byte
    rw [Nat.zero_add, List.length_map] at concat
    rw [stored, count, concat, List.map_append]
    rfl

/-- All bytes come from the addressed slave. -/
theorem senders_byte
    (underway : Underway call buf wire)
    (addressed : wire.peer = call.addr &&& 0x7F)
    (byte : UInt8) :
    ∀ item ∈ wire.arrived ++ [(wire.peer, byte)],
      item.1 = call.addr &&& 0x7F := by
  intro item member
  rcases List.mem_append.mp member with earlier | last
  · exact underway.senders item earlier
  · rw [List.mem_singleton.mp last]
    exact addressed

/-- A byte is stored, and the next one asked for when one more is due. -/
theorem next_fetching
    (underway : Underway call buf wire)
    (short : call.toRecv ≤ Master.twRxMaxLen)
    (asked : wire.master.twcr.twsta = false)
    (receiving : wire.phase = .receiver)
    (loaded : wire.master.txIdx = 1)
    (addressed : wire.peer = call.addr &&& 0x7F)
    (more : wire.arrived.length < call.toRecv)
    (acks :
      wire.master.twcr.twea =
        decide (wire.arrived.length + 1 < call.toRecv))
    {occurrence : Occurrence}
    (possible : wire.Possible occurrence) :
    Underway call buf (wire.next occurrence) := by
  rcases possible.receiving asked receiving with ⟨byte, rfl⟩ | rfl | rfl
  · have further := underway.recorded_byte short more byte
    have senders := underway.senders_byte addressed byte
    have grown :
        (wire.arrived ++ [(wire.peer, byte)]).length =
          wire.arrived.length + 1 :=
      List.length_append
    by_cases another : wire.arrived.length + 1 < call.toRecv
    · rw [decide_eq_true another] at acks
      obtain ⟨last, total⟩ :=
        Nat.exists_eq_add_of_le' (Nat.one_le_of_lt another)
      rw [Wire.next, if_pos acks, Wire.report,
        Master.TwiDriver.isr_mrDataAck,
        receiveNext_of_recorded further short total]
      obtain ⟨count, stored, size, alone⟩ := further
      refine
        ⟨⟨count, stored, size, alone⟩, senders,
          .fetching rfl rfl loaded addressed ?_ ?_⟩
      · change (wire.arrived ++ [(wire.peer, byte)]).length < _
        rw [grown]
        exact another
      · change
          decide ((done (latched byte wire.master)).storeByte.rxIdx <
              last) =
            decide ((wire.arrived ++ [(wire.peer, byte)]).length + 1 <
              call.toRecv)
        rw [count, total]
        simp
    · rw [decide_eq_false another] at acks
      have noAck : ¬ wire.master.twcr.twea = true := by
        rw [acks]
        exact Bool.false_ne_true
      let ended : Master.TwiDriver :=
        { (done (latched byte wire.master)).storeByte with
          error := success }
      obtain ⟨count, stored, size, alone⟩ := further
      have ending :
          Recorded call buf (wire.arrived ++ [(wire.peer, byte)]) ended :=
        ⟨count, stored, size, alone⟩
      have inside :
          (wire.arrived ++ [(wire.peer, byte)]).length ≤
            call.toRecv := by
        rw [grown]
        exact more
      rw [Wire.next, if_neg noAck]
      exact
        ⟨ending.finish, senders,
          @Stage.of_finish call _ ended .receiver rfl rfl loaded inside⟩
  · exact underway.arbitrationLost loaded
  · exact underway.busError

/-- A kept bus is ready once `START` has been repeated. -/
theorem next_restarting
    (underway : Underway call buf wire)
    (asked : wire.master.twcr.twsta = true)
    (going : wire.master.twcr.twsto = false)
    (kept : wire.master.repStart = true)
    (loaded : wire.master.txIdx = 1)
    (inside : wire.arrived.length ≤ call.toRecv)
    {occurrence : Occurrence}
    (possible : wire.Possible occurrence) :
    Underway call buf (wire.next occurrence) := by
  obtain ⟨count, stored, size, alone⟩ := underway.recorded
  rcases possible.asking asked with rfl | ⟨rfl, _⟩ | rfl
  · by_cases free : wire.phase = .idle
    · have noMore :
          ¬ (done wire.master).txIdx < (done wire.master).txSize := by
        change ¬ wire.master.txIdx < wire.master.txSize
        rw [loaded, alone]
        exact Nat.lt_irrefl 1
      have isr :
          (done wire.master).isr .start =
            ({ done wire.master with error := success }).start := by
        change (done wire.master).transmitNext = _
        rw [Master.TwiDriver.transmitNext, if_neg noMore]
        exact if_pos kept
      rw [Wire.next, if_pos free, Wire.report, isr]
      exact
        ⟨⟨count, stored, size, alone⟩, underway.senders,
          .restarting rfl rfl kept loaded inside⟩
    · rw [Wire.next, if_neg free]
      refine
        ⟨⟨count, stored, size, alone⟩, underway.senders,
          .finished (Or.inr ⟨rfl, ?_⟩) (Or.inr asked) inside⟩
      change
        (if wire.master.twcr.twsto then Phase.idle else .started) =
          .started
      rw [going]
      rfl
  · exact underway.arbitrationLost loaded
  · exact underway.busError

/-- Whatever happens, a transfer stays on its way until it is over. -/
theorem next
    (positive : 1 ≤ call.toRecv)
    (short : call.toRecv ≤ Master.twRxMaxLen)
    (underway : Underway call buf wire)
    (asleep : wire.master.isReady = false)
    {occurrence : Occurrence}
    (possible : wire.Possible occurrence) :
    Underway call buf (wire.next occurrence) := by
  cases underway.stage with
  | opening nothing opens =>
      cases opens with
      | asking asked free first address =>
          exact
            underway.next_asking asked free first address nothing possible
      | addressing asked started loaded address =>
          exact
            underway.next_addressing positive short asked started loaded
              address nothing possible
  | fetching asked receiving loaded addressed more acks =>
      exact
        underway.next_fetching short asked receiving loaded addressed
          more acks possible
  | restarting asked going kept loaded inside =>
      exact
        underway.next_restarting asked going kept loaded inside possible
  | finished rest asked inside =>
      rcases rest with ⟨ready, _⟩ | ⟨kept, _⟩
      · simp [Master.TwiDriver.isReady, ready] at asleep
      · simp [Master.TwiDriver.isReady, kept] at asleep

/-- Whatever happens, a transfer is on its way or over. -/
theorem runs
    (positive : 1 ≤ call.toRecv)
    (short : call.toRecv ≤ Master.twRxMaxLen)
    (underway : Underway call buf wire)
    {occurrences : List Occurrence}
    {reached : Wire}
    (runs : wire.Runs occurrences reached) :
    Underway call buf reached :=
  runs.preserves
    (fun _ _ underway asleep possible =>
      underway.next positive short asleep possible)
    underway

end Underway

end Steps

namespace RecvCall

variable {call : RecvCall}
variable {wire : Wire}

/-- A call that is not refused begins with its address. -/
theorem underway_begin
    (rest : AtRest wire.master wire.phase)
    {buf : Memory}
    (given : call.buf = some buf)
    (short : call.toRecv ≤ Master.twRxMaxLen) :
    ∃ begun,
      call.begin wire = some begun ∧ Underway call buf begun ∧
        begun.arrived = [] ∧ Opening call begun ∧
        begun.master.mode = .initializing := by
  let prepared : Master.TwiDriver :=
    { wire.master with
      rxBuffer := buf
      rxSize := call.toRecv
      rxIdx := 0
      txBuffer :=
        wire.master.txBuffer.store 0 [Master.twiAddrRead call.addr] }
  have begins :
      call.begin wire =
        some
          { wire with
            master := prepared.sendRaw 1 call.busLock
            arrived := [] } := by
    rw [RecvCall.begin, given, Option.bind_some, Master.TwiDriver.recv,
      if_neg (Nat.not_lt.mpr short)]
    rfl
  have empty : buf = buf.store 0 [] :=
    (buf.store_nil 0).symm
  have senders :
      ∀ item ∈ ([] : List (UInt8 × UInt8)),
        item.1 = call.addr &&& 0x7F := by
    intro item member
    exact absurd member List.not_mem_nil
  have addressed :
      prepared.txBuffer 0 = Master.twiAddrRead call.addr :=
    rfl
  rcases rest with ⟨ready, idle⟩ | ⟨kept, started⟩
  · have raw :=
      Master.TwiDriver.sendRaw_ready
        (show prepared.mode = .ready from ready) 1 call.busLock
    rw [raw] at begins
    exact
      ⟨_, begins,
        ⟨⟨rfl, empty, rfl, rfl⟩, senders,
          .opening rfl (.asking rfl idle rfl addressed)⟩,
        rfl, .asking rfl idle rfl addressed, rfl⟩
  · have raw :=
      Master.TwiDriver.sendRaw_repeatedStart
        (show prepared.mode = .repeatedStart from kept) 1 call.busLock
    rw [raw] at begins
    exact
      ⟨_, begins,
        ⟨⟨rfl, empty, rfl, rfl⟩, senders,
          .opening rfl (.addressing rfl started rfl addressed)⟩,
        rfl, .addressing rfl started rfl addressed, rfl⟩

/-- A call of one of the lengths it is made for does what it is for. -/
theorem correct
    (rest : AtRest wire.master wire.phase)
    {buf : Memory}
    (given : call.buf = some buf)
    (positive : 1 ≤ call.toRecv)
    (short : call.toRecv ≤ Master.twRxMaxLen) :
    Correct call wire := by
  obtain ⟨begun, begins, underway, _⟩ :=
    underway_begin rest given short
  have same :
      ∀ other, call.begin wire = some other → other = begun := by
    intro other otherBegins
    rw [begins] at otherBegins
    exact (Option.some.inj otherBegins).symm
  constructor
  · intro object other occurrences reached objectGiven otherBegins runs
    rw [given] at objectGiven
    rw [same other otherBegins] at runs
    have reachedUnderway := underway.runs positive short runs
    rw [← Option.some.inj objectGiven]
    exact
      ⟨reachedUnderway.recorded.stored, reachedUnderway.inside⟩
  · intro other occurrences reached otherBegins runs full
    rw [same other otherBegins] at runs
    have reachedUnderway := underway.runs positive short runs
    cases reachedUnderway.stage with
    | opening nothing _ =>
        rw [nothing, List.length_nil] at full
        omega
    | fetching _ _ _ _ more => exact absurd full (Nat.ne_of_lt more)
    | restarting asked _ _ _ _ => exact Or.inr asked
    | finished _ asked _ => exact asked
  · intro value final returns
    cases returns with
    | refused refusal =>
        rw [begins] at refusal
        cases refusal
    | served otherBegins runs ready =>
        rw [same _ otherBegins] at runs
        have reachedUnderway := underway.runs positive short runs
        have bound := reachedUnderway.inside
        rw [Master.twRxMaxLen] at short
        rw [reachedUnderway.recorded.count, UInt8.toNat_ofNat']
        exact Nat.mod_eq_of_lt (by omega)

end RecvCall

/-- Whatever its limits are, a driver that may receive waits for a byte. -/
theorem waits_receiveNext (driver : Master.TwiDriver) :
    driver.receiveNext.mode = .receiving ∧
      driver.receiveNext.twcr.twsta = false ∧
      driver.receiveNext.twcr.twsto = false := by
  rw [Master.TwiDriver.receiveNext]
  split
  · exact ⟨rfl, rfl, rfl⟩
  · exact ⟨rfl, rfl, rfl⟩

/-- A slave that acknowledges a read may send a byte, even unasked. -/
theorem Wire.runs_received
    {wire : Wire}
    (asleep : wire.master.isReady = false)
    (asked : wire.master.twcr.twsta = false)
    (started : wire.phase = .started)
    (reading : ¬ wire.master.twdr &&& 1 = 0) :
    ∃ reached,
      wire.Runs [.address true, .received 0] reached ∧
        reached.arrived =
          wire.arrived ++ [(wire.master.twdr >>> 1, 0)] := by
  obtain ⟨mode, noStart, noStop⟩ := waits_receiveNext (done wire.master)
  let addressed : Wire :=
    { wire with peer := wire.master.twdr >>> 1 }
  have acknowledged :
      wire.next (.address true) =
        addressed.report .mrSlaAck .receiver := by
    rw [Wire.next, if_neg reading, if_pos rfl]
  have handled :
      (addressed.report .mrSlaAck .receiver).master =
        (done wire.master).receiveNext := by
    rw [Wire.master_report, Master.TwiDriver.isr_mrSlaAck]
  have waiting :
      (wire.next (.address true)).master.isReady = false := by
    rw [acknowledged, handled, Master.TwiDriver.isReady, mode]
    rfl
  have possible :
      (wire.next (.address true)).Possible (.received 0) := by
    rw [acknowledged]
    refine ⟨?_, ?_⟩
    · rw [handled]
      exact noStart
    · rw [Wire.phase_report, handled, noStop]
      rfl
  refine
    ⟨_, .interrupt asleep ⟨asked, started⟩
      (.interrupt waiting possible (.none _)), ?_⟩
  rw [acknowledged, Wire.next, Wire.arrived_report]
  rw [Wire.arrived_report, Wire.peer_report]

namespace RecvCall

variable {call : RecvCall}
variable {wire : Wire}

/-- A call that is not refused may have a byte stored, of whatever length. -/
theorem one_arrives
    (rest : AtRest wire.master wire.phase)
    {buf : Memory}
    (given : call.buf = some buf)
    (short : call.toRecv ≤ Master.twRxMaxLen) :
    ∃ begun occurrences reached,
      call.begin wire = some begun ∧
        begun.Runs occurrences reached ∧
        reached.arrived.length = 1 := by
  obtain ⟨begun, begins, underway, nothing, opens, mode⟩ :=
    underway_begin rest given short
  have reading := (Master.twiAddrRead_bits call.addr).1
  have asleep : begun.master.isReady = false := by
    rw [Master.TwiDriver.isReady, mode]
    rfl
  cases opens with
  | asking asked free first address =>
      have stepped := underway.next_started free first
      have driving :
          (begun.next .started).master.twdr =
            Master.twiAddrRead call.addr := by
        rw [stepped]
        change begun.master.txBuffer begun.master.txIdx = _
        rw [first]
        exact address
      rw [← driving] at reading
      obtain ⟨reached, runs, arrived⟩ :=
        Wire.runs_received
          (by
            rw [stepped]
            exact asleep)
          (by
            rw [stepped]
            rfl)
          (by rw [stepped])
          reading
      have possible : begun.Possible .started := asked
      refine
        ⟨begun, _, reached, begins, .interrupt asleep possible runs, ?_⟩
      rw [arrived, stepped, nothing]
      rfl
  | addressing asked started loaded address =>
      rw [← address] at reading
      obtain ⟨reached, runs, arrived⟩ :=
        Wire.runs_received asleep asked started reading
      refine ⟨begun, _, reached, begins, runs, ?_⟩
      rw [arrived, nothing]
      rfl

/-- A refused call returns 1 for the 0 bytes that it has stored. -/
theorem not_correct_of_refusal
    (refusal : call.begin wire = none) :
    ¬ Correct call wire := by
  intro correct
  have counted : 1 = 0 := correct.counted 1 _ (.refused refusal)
  exact Nat.one_ne_zero counted

/-- No length is below that of the byte that a slave may send. -/
theorem not_correct_of_zero
    (rest : AtRest wire.master wire.phase)
    (zero : call.toRecv = 0) :
    ¬ Correct call wire := by
  intro correct
  cases given : call.buf with
  | none =>
      have refusal : call.begin wire = none := by
        rw [RecvCall.begin, given, Option.bind_none]
      exact not_correct_of_refusal refusal correct
  | some buf =>
      have short : call.toRecv ≤ Master.twRxMaxLen := by
        rw [zero]
        exact Nat.zero_le _
      obtain ⟨begun, occurrences, reached, begins, runs, one⟩ :=
        one_arrives rest given short
      have inside :=
        (correct.stored buf begun occurrences reached given begins
          runs).2
      rw [one, zero] at inside
      exact absurd inside (by decide)

/--
`twi_recv` stores in order, within its buffer and up to its length, and counts
what it has stored, whatever happens on the bus, exactly when it is given a
buffer and a length from 1 to `TW_RX_MAX_LEN`.
-/
theorem correct_iff
    (call : RecvCall)
    (wire : Wire)
    (rest : AtRest wire.master wire.phase) :
    Correct call wire ↔
      call.buf ≠ none ∧ 1 ≤ call.toRecv ∧
        call.toRecv ≤ Master.twRxMaxLen := by
  constructor
  · intro correct
    refine ⟨?_, ?_, ?_⟩
    · intro null
      have refusal : call.begin wire = none := by
        rw [RecvCall.begin, null, Option.bind_none]
      exact not_correct_of_refusal refusal correct
    · by_contra notPositive
      have zero : call.toRecv = 0 := by
        omega
      exact not_correct_of_zero rest zero correct
    · by_contra long
      have refusal : call.begin wire = none := by
        rw [RecvCall.begin]
        cases call.buf with
        | none => rfl
        | some buf =>
            rw [Option.bind_some, Master.TwiDriver.recv,
              if_pos (Nat.not_le.mp long)]
            rfl
      exact not_correct_of_refusal refusal correct
  · rintro ⟨notNull, positive, short⟩
    obtain ⟨buf, given⟩ := Option.ne_none_iff_exists'.mp notNull
    exact RecvCall.correct rest given positive short

end RecvCall

/-- The driver after `twi_init`, on a free bus. -/
def freshWire : Wire where
  master :=
    { mode := .ready
      error := success
      repStart := false
      rxBuffer := fun _ => 0
      txBuffer := fun _ => 0
      rxIdx := 0
      txIdx := 0
      rxSize := 0
      txSize := 0
      twcr :=
        { twint := false
          twea := false
          twsta := false
          twsto := false
          twen := true
          twie := false }
      twdr := 0 }
  phase := .idle
  peer := 0
  arrived := []

/-- A response of two bytes is asked for. -/
theorem twoBytes_correct :
    RecvCall.Correct ⟨5, some fun _ => 0, 2, false⟩ freshWire :=
  (RecvCall.correct_iff ⟨5, some fun _ => 0, 2, false⟩ freshWire
    (Or.inl ⟨rfl, rfl⟩)).mpr ⟨by simp, by decide, by decide⟩

/-- A response of no bytes is asked for, and one is stored. -/
theorem noBytes_overrun :
    ¬ RecvCall.Correct ⟨5, some fun _ => 0, 0, false⟩ freshWire :=
  RecvCall.not_correct_of_zero (Or.inl ⟨rfl, rfl⟩) rfl

end Ammc.Bus
