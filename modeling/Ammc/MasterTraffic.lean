import Ammc.MasterServe

namespace Ammc.Master

open ByteMemory Serial Packet

/-!
# The master's traffic on the bus

The transactions of the master are recorded in their order.  What the slaves
answer may depend on all transactions before.
-/

/-- A transaction of the master. -/
inductive Transaction where
  | sent (addr : UInt8) (data : List UInt8)
  | received (addr : UInt8) (toRecv : Nat) (bytes : List UInt8)
  deriving Repr, DecidableEq

/-- What the slaves answer to a read after the given transactions. -/
abbrev Answers : Type :=
  List Transaction → UInt8 → (toRecv : Nat) →
    { bytes : List UInt8 // bytes.length ≤ toRecv }

/-- Slaves that never answer. -/
def nobodyAnswers : Answers :=
  fun _ _ _ => ⟨[], Nat.zero_le _⟩

/-- The transactions so far, and the state of the stack memory. -/
structure Recorded (σ : Type) where
  history : List Transaction
  stack : σ

/-- A write is recorded. -/
def Recorded.send
    (recorded : Recorded σ)
    (addr : UInt8)
    (data : List UInt8) : Recorded σ :=
  { recorded with
    history := recorded.history ++ [.sent addr data] }

/-- A read is recorded with its bytes. -/
def Recorded.receive
    (recorded : Recorded σ)
    (addr : UInt8)
    (toRecv : Nat)
    (bytes : List UInt8) : Recorded σ :=
  { recorded with
    history := recorded.history ++ [.received addr toRecv bytes] }

/--
The firmware with its transactions recorded; each variable without a first
assignment gets its contents from `stale`.
-/
def recordingWorld
    (answers : Answers)
    (stale : σ → Memory × σ) : World signature (Recorded σ) where
  answer query recorded :=
    match query with
    | .twiSend addr data => ((), recorded.send addr data)
    | .twiRecv addr toRecv =>
        (answers recorded.history addr toRecv,
          recorded.receive addr toRecv
            (answers recorded.history addr toRecv).val)
    | .uninitialised =>
        ((stale recorded.stack).1,
          { recorded with stack := (stale recorded.stack).2 })
  react _ recorded := some ([], recorded)
  expecting := false
  flushable := false

/-- The bus with its transactions recorded. -/
def recordingBus
    (answers : Answers)
    (uninitialised : Recorded σ → Memory) : Bus (Recorded σ) where
  twiSend addr data recorded := recorded.send addr data
  twiRecv addr toRecv recorded :=
    (answers recorded.history addr toRecv,
      recorded.receive addr toRecv
        (answers recorded.history addr toRecv).val)
  uninitialised := uninitialised

/-- With the same memory at all times, it is a special case of the world. -/
theorem world_recordingBus (answers : Answers) :
    (recordingBus answers Recorded.stack).world =
      recordingWorld answers fun stack => (stack, stack) :=
  rfl

/-- A frame is sent to a slave, and then an answer is read from it. -/
def exchange
    (answers : Answers)
    (history : List Transaction)
    (selector : UInt8)
    (data : List UInt8)
    (toRecv : Nat) : List Transaction :=
  [.sent selector data,
    .received selector toRecv
      (answers (history ++ [.sent selector data]) selector toRecv).val]

/-- The two transactions come one after the other. -/
theorem append_exchange
    (answers : Answers)
    (history : List Transaction)
    (selector : UInt8)
    (data : List UInt8)
    (toRecv : Nat) :
    history ++ [.sent selector data] ++
        [.received selector toRecv
          (answers (history ++ [.sent selector data]) selector
            toRecv).val] =
      history ++ exchange answers history selector data toRecv :=
  List.append_assoc _ _ _

/-- The port of a handler that begins with the bytes of the packet. -/
def startPort
    (frame : Frame)
    (history : List Transaction)
    (stack : σ) : Port signature (Recorded σ) :=
  Port.start frame.bytes ⟨history, stack⟩

/-- The buffer with a packet has the fields of the packet. -/
theorem packetGetType_landed
    (frame : Frame)
    (rx : Memory) :
    packetGetType (frame.landed rx) = frame.type :=
  frame.landed_header rx (by decide)

theorem packetGetSelector_landed
    (frame : Frame)
    (rx : Memory) :
    packetGetSelector (frame.landed rx) = frame.selector :=
  frame.landed_header rx (by decide)

end Ammc.Master
