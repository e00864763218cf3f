import Ammc.MasterServe
import Ammc.TwiOutcomes

namespace Ammc.Bus

open ByteMemory Twi

/-!
# What a request for a speed may come to

`GET_SPEED` makes two transfers, a command to the slave and a read of two bytes.
Either may fail at any point.  The number of bytes that arrived is returned by
`twi_recv` and by `master_recv_response`, and then `dcmotor_get` drops it: the
master answers the client with a speed in any case, while `PING` reports that
the slave was not found.
-/

/-! ## A ready driver is at rest -/

/-- What the driver never gets wrong about the bus. -/
structure Orderly
    (driver : Master.TwiDriver)
    (phase : Phase) : Prop where
  exclusive : driver.twcr.twsta = true → driver.twcr.twsto = false
  rest : driver.isReady = true → AtRest driver phase

/-- A driver that is not ready may be anywhere. -/
theorem Orderly.of_asleep
    {driver : Master.TwiDriver}
    {phase : Phase}
    (exclusive :
      driver.twcr.twsta = true → driver.twcr.twsto = false)
    (asleep : driver.isReady = false) :
    Orderly driver phase := by
  refine ⟨exclusive, fun ready => ?_⟩
  rw [asleep] at ready
  cases ready

/-- The phase of the bus once the driver has had its say. -/
def released
    (driver : Master.TwiDriver)
    (phase : Phase) : Phase :=
  if driver.twcr.twsto then .idle else phase

section Handler

variable {driver : Master.TwiDriver}

theorem orderly_stop
    (driver : Master.TwiDriver)
    (phase : Phase) :
    Orderly ({ driver with mode := .ready }).stop
      (released ({ driver with mode := .ready }).stop phase) where
  exclusive asked := by
    cases asked
  rest _ := Or.inl ⟨rfl, rfl⟩

theorem orderly_transmitNext
    (asleep : driver.isReady = false)
    (phase : Phase) :
    Orderly driver.transmitNext (released driver.transmitNext phase) := by
  rw [Master.TwiDriver.transmitNext]
  split
  · exact .of_asleep (fun _ => rfl) asleep
  split
  · exact .of_asleep (fun _ => rfl) asleep
  · exact orderly_stop { driver with error := success } phase

theorem orderly_receiveNext
    (phase : Phase) :
    Orderly driver.receiveNext (released driver.receiveNext phase) := by
  obtain ⟨mode, noStart, _⟩ := waits_receiveNext driver
  refine .of_asleep (fun asked => ?_) ?_
  · rw [noStart] at asked
    cases asked
  · rw [Master.TwiDriver.isReady, mode]
    rfl

theorem orderly_finish
    (asleep : driver.isReady = false)
    (phase : Phase) :
    Orderly driver.finish (released driver.finish phase) := by
  rw [Master.TwiDriver.finish]
  split
  · exact .of_asleep (fun _ => rfl) asleep
  · exact orderly_stop driver phase

/-- The handler leaves the driver ready only when it gives up the bus. -/
theorem orderly_isr
    (asleep : driver.isReady = false)
    (exclusive :
      driver.twcr.twsta = true → driver.twcr.twsto = false)
    {status : Status}
    (fresh : status ≠ .repStart)
    (phase : Phase) :
    Orderly (driver.isr status) (released (driver.isr status) phase) := by
  cases status with
  | start | mtDataAck => exact orderly_transmitNext asleep phase
  | mtSlaAck =>
      have transmitting :
          ({ driver with mode := .transmitting }).isReady = false :=
        rfl
      exact orderly_transmitNext transmitting phase
  | mrSlaAck =>
      rw [Master.TwiDriver.isr_mrSlaAck]
      exact orderly_receiveNext phase
  | mrDataAck =>
      rw [Master.TwiDriver.isr_mrDataAck]
      exact orderly_receiveNext phase
  | mrDataNack =>
      have storing :
          ({ driver.storeByte with error := success }).isReady = false :=
        asleep
      exact orderly_finish storing phase
  | mrSlaNack =>
      have failing :
          ({ driver with error := Status.mrSlaNack.code }).isReady =
            false :=
        asleep
      exact orderly_finish failing phase
  | mtSlaNack =>
      have failing :
          ({ driver with error := Status.mtSlaNack.code }).isReady =
            false :=
        asleep
      exact orderly_finish failing phase
  | mtDataNack =>
      have failing :
          ({ driver with error := Status.mtDataNack.code }).isReady =
            false :=
        asleep
      exact orderly_finish failing phase
  | arbLost =>
      have failing :
          ({ driver with error := Status.arbLost.code }).isReady =
            false :=
        asleep
      exact orderly_finish failing phase
  | repStart => exact absurd rfl fresh
  | busError =>
      exact
        orderly_stop
          { driver with error := Status.busError.code } phase
  | _ => exact .of_asleep exclusive asleep

end Handler

/-! ## The bytes that slaves have sent -/

/-- The byte that arrives when this happens. -/
def carried : Occurrence → List UInt8
  | .received byte => [byte]
  | _ => []

/-- The bytes that arrive when these things happen. -/
def sentBytes (occurrences : List Occurrence) : List UInt8 :=
  occurrences.flatMap carried

namespace Wire

/-- A wire whose driver never gets the bus wrong. -/
def IsOrderly (wire : Wire) : Prop :=
  Orderly wire.master wire.phase

/-- Telling the handler of anything but a repeated `START` keeps the order. -/
theorem IsOrderly.report
    {wire : Wire}
    (orderly : wire.IsOrderly)
    (asleep : wire.master.isReady = false)
    {status : Status}
    (fresh : status ≠ .repStart)
    (phase : Phase) :
    (wire.report status phase).IsOrderly := by
  have asleepDone : (done wire.master).isReady = false :=
    asleep
  exact orderly_isr asleepDone orderly.exclusive fresh phase

/-- Interrupts keep the order. -/
theorem IsOrderly.next
    {wire : Wire}
    (orderly : wire.IsOrderly)
    (asleep : wire.master.isReady = false)
    {occurrence : Occurrence}
    (possible : wire.Possible occurrence) :
    (wire.next occurrence).IsOrderly := by
  cases occurrence with
  | started =>
      rw [Wire.next]
      split
      · exact orderly.report asleep (by decide) .started
      · have going : wire.master.twcr.twsto = false :=
          orderly.exclusive possible
        refine ⟨fun _ => going, fun _ => Or.inr ⟨rfl, ?_⟩⟩
        rw [phase_report]
        change (if wire.master.twcr.twsto then Phase.idle else _) = _
        rw [going]
        rfl
  | address acked =>
      have addressed :
          ({ wire with peer := wire.master.twdr >>> 1 } : Wire).IsOrderly :=
        orderly
      rw [Wire.next]
      split
      · refine addressed.report asleep ?_ .transmitter
        cases acked
        · decide
        · decide
      · refine addressed.report asleep ?_ .receiver
        cases acked
        · decide
        · decide
  | sent acked =>
      refine orderly.report asleep ?_ .transmitter
      cases acked
      · decide
      · decide
  | received byte =>
      have latchedOrderly :
          ({ wire with
              master := latched byte wire.master
              arrived := wire.arrived ++ [(wire.peer, byte)] } :
            Wire).IsOrderly :=
        ⟨orderly.exclusive, orderly.rest⟩
      refine latchedOrderly.report asleep ?_ .receiver
      split
      · decide
      · decide
  | arbitrationLost => exact orderly.report asleep (by decide) .idle
  | busError => exact orderly.report asleep (by decide) .idle

/-- Once the driver is ready, the bus is free or kept by the master. -/
theorem Runs.atRest
    {wire final : Wire}
    {occurrences : List Occurrence}
    (runs : wire.Runs occurrences final)
    (orderly : wire.IsOrderly)
    (ready : final.master.isReady = true) :
    AtRest final.master final.phase := by
  have ordered : final.IsOrderly :=
    runs.preserves
      (fun _ _ orderly asleep possible => orderly.next asleep possible)
      orderly
  exact ordered.rest ready

theorem arrived_next
    (wire : Wire)
    (occurrence : Occurrence) :
    (wire.next occurrence).arrived.map Prod.snd =
      wire.arrived.map Prod.snd ++ carried occurrence := by
  cases occurrence with
  | received byte =>
      rw [Wire.next, arrived_report, List.map_append]
      rfl
  | address acked =>
      rw [Wire.next]
      split
      · rw [arrived_report]
        exact (List.append_nil _).symm
      · rw [arrived_report]
        exact (List.append_nil _).symm
  | _ =>
      rw [Wire.next, arrived_report]
      exact (List.append_nil _).symm

/-- What has arrived after a run was sent during the run. -/
theorem Runs.arrived
    {wire final : Wire}
    {occurrences : List Occurrence}
    (runs : wire.Runs occurrences final) :
    final.arrived.map Prod.snd =
      wire.arrived.map Prod.snd ++ sentBytes occurrences := by
  induction runs with
  | none wire =>
      exact (List.append_nil _).symm
  | interrupt asleep possible rest inductionHypothesis =>
      rw [inductionHypothesis, arrived_next, List.append_assoc,
        sentBytes, sentBytes, List.flatMap_cons]

/-! ## Sleeping until the driver is ready -/

/-- `sleep_while(!twi_isready())`, and what is left to happen afterwards. -/
def settle
    (wire : Wire) : List Occurrence → Wire × List Occurrence
  | [] => (wire, [])
  | occurrence :: later =>
      if wire.master.isReady then
        (wire, occurrence :: later)
      else
        (wire.next occurrence).settle later

theorem settle_of_ready
    {wire : Wire}
    (ready : wire.master.isReady = true)
    (later : List Occurrence) :
    wire.settle later = (wire, later) := by
  cases later with
  | nil => rfl
  | cons occurrence later => rw [settle, if_pos ready]

/-- A run that ends with the driver ready is slept through. -/
theorem Runs.settle
    {wire final : Wire}
    {occurrences : List Occurrence}
    (runs : wire.Runs occurrences final)
    (ready : final.master.isReady = true)
    (later : List Occurrence) :
    wire.settle (occurrences ++ later) = (final, later) := by
  induction runs with
  | none wire =>
      exact settle_of_ready ready later
  | interrupt asleep possible rest inductionHypothesis =>
      rw [List.cons_append, Wire.settle, asleep]
      exact inductionHypothesis ready

end Wire

/-! ## The firmware on a bus with a script -/

/--
The bus together with everything that is going to happen on it, and what an
uninitialised variable holds.
-/
structure Session where
  wire : Wire
  script : List Occurrence
  stack : Memory

namespace Session

/-- The firmware sleeps until the driver is ready. -/
def sleep (session : Session) : Session :=
  let settled := session.wire.settle session.script
  { session with
    wire := settled.1
    script := settled.2 }

/-- `twi_send_sm` -/
def send
    (addr : UInt8)
    (data : List UInt8)
    (session : Session) : Session :=
  if data.length > Master.twTxMaxLen then
    session
  else
    match session.sleep.wire.master.send addr data false with
    | some master =>
        { session.sleep with
          wire := { session.sleep.wire with master := master } }
    | none => session

/-- The call that `twi_recv_sm` makes. -/
def call
    (session : Session)
    (addr : UInt8)
    (toRecv : Nat) : RecvCall where
  addr := addr
  buf := some session.stack
  toRecv := toRecv
  busLock := false

/-- The bytes that `twi_recv_sm` stores, and the bus when it returns. -/
def recv
    (addr : UInt8)
    (toRecv : Nat)
    (session : Session) :
    { bytes : List UInt8 // bytes.length ≤ toRecv } × Session :=
  match (session.call addr toRecv).begin session.sleep.wire with
  | some begun =>
      let ended := ({ session.sleep with wire := begun } : Session).sleep
      (⟨(ended.wire.arrived.map Prod.snd).take toRecv,
          List.length_take_le toRecv _⟩,
        ended)
  | none => (⟨[], Nat.zero_le _⟩, session)

end Session

/-- The firmware's bus, served by the driver and its interrupt handler. -/
def driverBus : Master.Bus Session where
  twiSend addr data session := session.send addr data
  twiRecv addr toRecv session := session.recv addr toRecv
  uninitialised session := session.stack

/-! ## The two transfers of a request -/

/--
How the two transfers of a request to a motor come out: `written` happens until
the command is over, `read` until the answer is.
-/
structure Transfers
    (motor : UInt8)
    (session : Session)
    (read : List Occurrence)
    (final : Wire) where
  sent : Master.TwiDriver
  written : List Occurrence
  idle : Wire
  begun : Wire
  later : List Occurrence
  rest : AtRest session.wire.master session.wire.phase
  script : session.script = written ++ (read ++ later)
  sends :
    session.wire.master.send motor [Master.CommandId.getSpeed.code]
        false =
      some sent
  writes :
    ({ session.wire with master := sent } : Wire).Runs written idle
  idleReady : idle.master.isReady = true
  begins : (session.call motor 2).begin idle = some begun
  reads : begun.Runs read final
  ready : final.master.isReady = true

section Transfers

variable {motor : UInt8}
variable {session : Session}
variable {read : List Occurrence}
variable {final : Wire}

/-- A driver that begins to send never gets the bus wrong. -/
theorem orderly_send
    {driver sent : Master.TwiDriver}
    {addr : UInt8}
    {data : List UInt8}
    (sends : driver.send addr data false = some sent)
    (phase : Phase) :
    Orderly sent phase := by
  rw [Master.TwiDriver.send] at sends
  split at sends
  · cases sends
  · rw [← Option.some.inj sends, Master.TwiDriver.sendRaw]
    split
    · exact .of_asleep (fun asked => by cases asked) rfl
    · exact .of_asleep (fun _ => rfl) rfl

namespace Transfers

/-- The read begins on a bus that is at rest. -/
theorem underway
    (transfers : Transfers motor session read final) :
    Underway (session.call motor 2) session.stack transfers.begun ∧
      transfers.begun.arrived = [] := by
  have rest : AtRest transfers.idle.master transfers.idle.phase :=
    transfers.writes.atRest
      (orderly_send transfers.sends session.wire.phase)
      transfers.idleReady
  have short : (session.call motor 2).toRecv ≤ Master.twRxMaxLen :=
    Nat.le_of_ble_eq_true rfl
  obtain ⟨begun, begins, underway, nothing, _⟩ :=
    RecvCall.underway_begin rest rfl short
  rw [transfers.begins] at begins
  rw [Option.some.inj begins]
  exact ⟨underway, nothing⟩

/-- What arrives comes from the addressed slave, two bytes at most. -/
theorem arrived
    (transfers : Transfers motor session read final) :
    final.arrived = (sentBytes read).map (motor &&& 0x7F, ·) ∧
      (sentBytes read).length ≤ 2 := by
  obtain ⟨begins, nothing⟩ := transfers.underway
  have positive : 1 ≤ (session.call motor 2).toRecv :=
    Nat.le_of_ble_eq_true rfl
  have short : (session.call motor 2).toRecv ≤ Master.twRxMaxLen :=
    Nat.le_of_ble_eq_true rfl
  have ended := begins.runs positive short transfers.reads
  have bytes := transfers.reads.arrived
  rw [nothing, List.map_nil, List.nil_append] at bytes
  have senders :
      ∀ item ∈ final.arrived, (motor &&& 0x7F, item.2) = item := by
    intro item member
    exact Prod.ext (ended.senders item member).symm rfl
  refine ⟨?_, ?_⟩
  · rw [← bytes, List.map_map]
    exact
      ((List.map_congr_left senders).trans (List.map_id _)).symm
  · rw [← bytes, List.length_map]
    exact ended.inside

/-- The command has been handed to the driver. -/
theorem send
    (transfers : Transfers motor session read final) :
    session.send motor [Master.CommandId.getSpeed.code] =
      { session with
        wire := { session.wire with master := transfers.sent } } := by
  have ready : session.wire.master.isReady = true := by
    rcases transfers.rest with ⟨ready, _⟩ | ⟨kept, _⟩
    · simp [Master.TwiDriver.isReady, ready]
    · simp [Master.TwiDriver.isReady, kept]
  have awake : session.sleep = session := by
    rw [Session.sleep, Wire.settle_of_ready ready]
  have short :
      ¬ [Master.CommandId.getSpeed.code].length >
        Master.twTxMaxLen := by
    decide
  rw [Session.send, if_neg short, awake, transfers.sends]

/-- The firmware gets the bytes that have been sent, and no others. -/
theorem recv
    (transfers : Transfers motor session read final) :
    (driverBus.twiRecv motor 2
        (driverBus.twiSend motor [Master.CommandId.getSpeed.code]
          session)).1.val =
      sentBytes read := by
  let commanded : Session :=
    { session with
      wire := { session.wire with master := transfers.sent } }
  have slept :
      commanded.sleep =
        { commanded with
          wire := transfers.idle
          script := read ++ transfers.later } := by
    have settled :=
      transfers.writes.settle transfers.idleReady
        (read ++ transfers.later)
    rw [← transfers.script] at settled
    rw [Session.sleep]
    change
      ({ commanded with
          wire := (commanded.wire.settle session.script).1
          script := (commanded.wire.settle session.script).2 } :
        Session) = _
    rw [settled]
  have begins :
      (commanded.call motor 2).begin commanded.sleep.wire =
        some transfers.begun := by
    rw [slept]
    exact transfers.begins
  have ended :
      ({ commanded.sleep with wire := transfers.begun } :
          Session).sleep.wire =
        final := by
    have settled :=
      transfers.reads.settle transfers.ready transfers.later
    rw [slept, Session.sleep]
    change (transfers.begun.settle (read ++ transfers.later)).1 = final
    rw [settled]
  have bytes := transfers.arrived
  change
    (Session.recv motor 2
      (session.send motor [Master.CommandId.getSpeed.code])).1.val = _
  rw [transfers.send]
  change (commanded.recv motor 2).1.val = _
  rw [Session.recv, begins]
  change
    ((({ commanded.sleep with wire := transfers.begun } :
      Session).sleep.wire.arrived.map Prod.snd).take 2) = _
  rw [ended, bytes.1, List.map_map]
  have same :
      (sentBytes read).map (Prod.snd ∘ (motor &&& 0x7F, ·)) =
        sentBytes read :=
    List.map_id _
  rw [same]
  exact List.take_of_length_le bytes.2

end Transfers

end Transfers

/-! ## The answer to the client -/

open Serial Packet Master

/--
What the client may be told about a motor after the bytes that arrived: a speed
if it is these two bytes, and otherwise that the slave was not found.
-/
structure Honest
    (globalId motor : UInt8)
    (arrived : List (UInt8 × UInt8))
    (replies : List (List UInt8)) : Prop where
  speed :
    ∀ selector body,
      packetImage globalId ComType.dat.code selector body ∈ replies →
        body.length = 2 →
          arrived = body.map (motor &&& 0x7F, ·)
  missing :
    arrived.length ≠ 2 →
      replies =
        [packetImage globalId ComType.dat.code
          ComError.slaveNotFound.code []]

/-- `_op_get_speed` answers with a speed, whatever has arrived. -/
theorem exec_getSpeed_sent
    (globalId : UInt8)
    {p : Memory}
    (type : packetGetType p = ComType.getSpeed.code)
    (port : Port signature Session)
    {read : List Occurrence}
    {final : Wire}
    (transfers :
      Transfers (packetGetSelector p) port.env read final) :
    (exec driverBus.world (opGetSpeed globalId p) port).2.sent =
      port.sent ++
        [packetImage globalId ComType.dat.code (packetGetSelector p)
          ((port.env.stack.store 0 (sentBytes read)).bytes 0 2)] := by
  rw [exec_opGetSpeed driverBus globalId type port]
  have effects :
      (effect driverBus p port.env).1 =
        some
          (packetGetSelector p,
            (port.env.stack.store 0 (sentBytes read)).bytes 0 2) := by
    have received := transfers.recv
    rw [← received]
    simp [effect, type, ComType.code]
    rfl
  rw [effects]
  rfl

/-- A packet shows its selector and its body. -/
theorem packetImage_inj
    {globalId type selector other : UInt8}
    {body content : List UInt8}
    (same :
      packetImage globalId type selector body =
        packetImage globalId type other content) :
    selector = other ∧ body = content := by
  have lengths := congrArg List.length same
  rw [packetImage, packetImage, length_image, length_image,
    Nat.add_right_cancel_iff] at lengths
  rw [packetImage, packetImage, image, image] at same
  have before := List.append_inj_left' same rfl
  have header := List.append_inj_left before rfl
  refine ⟨?_, List.append_inj_right before rfl⟩
  simp only [List.cons.injEq] at header
  exact header.2.2.1

/-- Two bytes that are stored are the two bytes of the speed. -/
theorem bytes_store_two
    (stack : Memory)
    {bytes : List UInt8}
    (two : bytes.length = 2) :
    (stack.store 0 bytes).bytes 0 2 = bytes := by
  have stored := stack.bytes_store_self 0 bytes
  rw [two] at stored
  exact stored

/-- The answer to a request is what the client may be told. -/
def AnswersHonestly
    (globalId : UInt8)
    (p : Memory)
    (port : Port signature Session)
    (arrived : List (UInt8 × UInt8)) : Prop :=
  ∃ replies,
    (exec driverBus.world (opGetSpeed globalId p) port).2.sent =
        port.sent ++ replies ∧
      Honest globalId (packetGetSelector p) arrived replies

/-- No answer says that a slave was not found. -/
theorem not_answersHonestly
    (globalId : UInt8)
    {p : Memory}
    (type : packetGetType p = ComType.getSpeed.code)
    (port : Port signature Session)
    {read : List Occurrence}
    {final : Wire}
    (transfers :
      Transfers (packetGetSelector p) port.env read final)
    (incomplete : (sentBytes read).length ≠ 2) :
    ¬ AnswersHonestly globalId p port final.arrived := by
  rintro ⟨replies, replied, honest⟩
  rw [exec_getSpeed_sent globalId type port transfers,
    List.append_cancel_left_eq] at replied
  have missing : final.arrived.length ≠ 2 := by
    rw [transfers.arrived.1, List.length_map]
    exact incomplete
  have reported := honest.missing missing
  rw [← replied, List.cons.injEq] at reported
  have empty := (packetImage_inj reported.1).2
  have two := congrArg List.length empty
  rw [Memory.length_bytes] at two
  cases two

/--
The client is told what the bus has come to exactly when both bytes of the
speed have arrived.
-/
theorem getSpeed_honest_iff
    (globalId : UInt8)
    {p : Memory}
    (type : packetGetType p = ComType.getSpeed.code)
    (port : Port signature Session)
    {read : List Occurrence}
    {final : Wire}
    (transfers :
      Transfers (packetGetSelector p) port.env read final) :
    AnswersHonestly globalId p port final.arrived ↔
      (sentBytes read).length = 2 := by
  constructor
  · intro honest
    by_contra incomplete
    exact
      not_answersHonestly globalId type port transfers incomplete honest
  · intro two
    have sent := exec_getSpeed_sent globalId type port transfers
    have arrived := transfers.arrived.1
    refine ⟨_, sent, ?_, ?_⟩
    · intro selector body shown _
      have same := (packetImage_inj (List.mem_singleton.mp shown)).2
      rw [bytes_store_two port.env.stack two] at same
      rw [same]
      exact arrived
    · intro incomplete
      rw [arrived, List.length_map] at incomplete
      exact absurd two incomplete

/-! ## A motor that is not there -/

/-- `START`, and an address that nobody acknowledges. -/
def unanswered : List Occurrence :=
  [.started, .address false]

/-- Neither the command nor the read is acknowledged. -/
def emptyBus : Session where
  wire := freshWire
  script := unanswered ++ (unanswered ++ [])
  stack := fun _ => 0

/-- The wire after a call has been given up. -/
def givenUp
    (wire : Wire)
    (master : TwiDriver) : Wire :=
  (({ wire with master := master, arrived := [] } : Wire).next
    .started).next (.address false)

/-- The command for motor 5 is handed to the driver. -/
def askingFive : TwiDriver :=
  ({ freshWire.master with
      txBuffer :=
        (freshWire.master.txBuffer.store 0 [twiAddrWrite 5]).store 1
          [CommandId.getSpeed.code] }).sendRaw 2 false

/-- The answer of motor 5 is asked for. -/
def readingFive : TwiDriver :=
  ({ (givenUp freshWire askingFive).master with
      rxBuffer := emptyBus.stack
      rxSize := 2
      rxIdx := 0
      txBuffer :=
        (givenUp freshWire askingFive).master.txBuffer.store 0
          [twiAddrRead 5] }).sendRaw 1 false

/-- The wire when motor 5 has not acknowledged the command. -/
def commandOver : Wire :=
  givenUp freshWire askingFive

theorem command_runs :
    ({ freshWire with master := askingFive } : Wire).Runs unanswered
      commandOver :=
  .interrupt (by decide +kernel) (by decide +kernel)
    (.interrupt (by decide +kernel) (by decide +kernel) (.none _))

theorem read_runs :
    ({ commandOver with master := readingFive, arrived := [] } :
      Wire).Runs unanswered (givenUp commandOver readingFive) :=
  .interrupt (by decide +kernel) (by decide +kernel)
    (.interrupt (by decide +kernel) (by decide +kernel) (.none _))

/-- A packet that asks for the speed of motor 5. -/
def askFive : Memory :=
  Memory.store (fun _ => 0) 0 [0, ComType.getSpeed.code, 5, 5]

/-- Neither of the two transfers is answered. -/
def unansweredTransfers :
    Transfers (packetGetSelector askFive)
      (Port.start (S := signature) [] emptyBus).env unanswered
      (givenUp commandOver readingFive) where
  sent := askingFive
  written := unanswered
  idle := commandOver
  begun :=
    { commandOver with
      master := readingFive
      arrived := [] }
  later := []
  rest := Or.inl ⟨rfl, rfl⟩
  script := rfl
  sends := rfl
  writes := command_runs
  idleReady := rfl
  begins := rfl
  reads := read_runs
  ready := rfl

/-- The answer about motor 5 is honest only if two bytes have arrived. -/
theorem unanswered_honest_iff :
    AnswersHonestly 0 askFive (Port.start [] emptyBus)
        (givenUp commandOver readingFive).arrived ↔
      (sentBytes unanswered).length = 2 :=
  getSpeed_honest_iff 0 rfl (Port.start [] emptyBus)
    unansweredTransfers

/-- Motor 5 is not there, and the client is told its speed. -/
theorem unanswered_dishonest :
    ¬ AnswersHonestly 0 askFive (Port.start [] emptyBus)
        (givenUp commandOver readingFive).arrived :=
  not_answersHonestly 0 rfl (Port.start [] emptyBus)
    unansweredTransfers (by decide)

end Ammc.Bus
