import Ammc.SlaveStages

namespace Ammc.Slave

open ByteMemory Twi DcMotor

/-!
# Schedules of a master and a slave

The master issues commands to a slave one after the other.  Every event on the
bus, every step of the slave's main loop and every sample of the motor's speed
is a step of its own, and a schedule puts them in any order.  The system keeps a
history of the command frames that the slave acknowledged up to `STOP`, of the
frames that it executed with the replies it gave, and of the bytes that the
master obtained.
-/

/-- A command that the master issues to a slave. -/
inductive Request where
  | getSpeed (addr : UInt8)
  | ping (addr : UInt8)
  | setSpeed (addr : UInt8) (speed : DcRpm)
  | applySpeed
  | setAddr (addr newAddr : UInt8)
  deriving Repr, DecidableEq

namespace Request

/-- The address that the command is written to. -/
def addr : Request → UInt8
  | .getSpeed addr => addr
  | .ping addr => addr
  | .setSpeed addr _ => addr
  | .applySpeed => 0
  | .setAddr addr _ => addr

/-- The bytes that are written. -/
def frame : Request → List UInt8
  | .getSpeed _ => [Master.CommandId.getSpeed.code]
  | .ping addr => [Master.CommandId.ping.code, addr]
  | .setSpeed _ speed => Master.CommandId.setSpeed.code :: rpmBytes speed
  | .applySpeed => [Master.CommandId.applySpeed.code]
  | .setAddr _ newAddr => [Master.CommandId.setAddr.code, newAddr]

/-- The number of bytes that the master reads after the command. -/
def responseSize : Request → Nat
  | .getSpeed _ => 2
  | .ping _ => 1
  | _ => 0

/-- The address on the bus. -/
def busAddr (request : Request) : UInt8 :=
  request.addr &&& 0x7F

end Request

/-- The command that the master's operation issues for a packet. -/
def requestOf (p : Memory) : Option Request :=
  let type := Packet.packetGetType p
  let selector := Packet.packetGetSelector p
  let body := Packet.packetBody p
  if type = Packet.ComType.ping.code then
    if selector = 0 ∨ selector > 127 then none else some (.ping selector)
  else if type = Packet.ComType.getSpeed.code then
    some (.getSpeed selector)
  else if type = Packet.ComType.setSpeed.code then
    some (.setSpeed selector (rpmOfBytes (body 0) (body 1)))
  else if type = Packet.ComType.apply.code then
    some .applySpeed
  else if type = Packet.ComType.setSlaveAddr.code then
    some (.setAddr selector (body 0))
  else
    none

/-- The transfers of a command, one after the other. -/
def Request.perform
    (bus : Master.Bus ε)
    (env : ε)
    (request : Request) : ε :=
  let written := bus.twiSend request.addr request.frame env
  if request.responseSize = 0 then
    written
  else
    (bus.twiRecv request.addr request.responseSize written).2

/-- The operations of the master make these transfers and no others. -/
theorem effect_env
    (bus : Master.Bus ε)
    (p : Memory)
    (env : ε) :
    (Master.effect bus p env).2 =
      (requestOf p).elim env (Request.perform bus env) := by
  simp only [Master.effect, requestOf]
  split
  · rename_i echo
    rw [echo]
    rfl
  split
  · split
    · rfl
    · rfl
  split
  · rfl
  split
  · simp only [Option.elim_some, Request.perform, Request.addr,
      Request.frame, Request.responseSize, rpmBytes_rpmOfBytes,
      ↓reduceIte]
  split
  · rfl
  split
  · rfl
  · rfl

/-- What the master does with its current command. -/
inductive MasterState where
  | idle
  | writing (request : Request) (left : List UInt8)
  | delaying (request : Request)
  | reading (request : Request) (left : Nat)
  deriving Repr, DecidableEq

/-- A byte that the master has read, for which command, and at which place. -/
structure Obtained where
  serial : Nat
  position : Nat
  byte : UInt8
  deriving Repr, DecidableEq

/-- A master with a slave and their history. -/
structure System where
  node : Node
  master : MasterState
  issued : Nat
  acknowledged : List (Nat × List UInt8)
  executed : List (List UInt8 × Option (List UInt8))
  obtained : List Obtained

/-- A step of the master, the bus or the slave. -/
inductive Step where
  | issue (request : Request)
  | bus
  | main
  | sample (speed : DcRpm)
  deriving Repr, DecidableEq

/-- The master after a write: it delays its read, if there is one. -/
def afterWrite (request : Request) : MasterState :=
  if request.responseSize = 0 then .idle else .delaying request

/-- The timer of the motor stores a new speed. -/
def Node.sample
    (speed : DcRpm)
    (node : Node) : Node :=
  { node with
    controller :=
      { node.controller with
        motor := { node.controller.motor with speedActual := speed } } }

namespace System

/-- The master begins a command, if it has finished the one before. -/
def issue
    (request : Request)
    (system : System) : System :=
  match system.master with
  | .idle =>
      match system.node.addressWrite request.busAddr with
      | (true, node) =>
          { system with
            node := node
            master := .writing request request.frame
            issued := system.issued + 1 }
      | (false, node) =>
          { system with
            node := node
            master := afterWrite request
            issued := system.issued + 1 }
  | _ => system

/-- The master goes on with its command. -/
def bus (system : System) : System :=
  match system.master with
  | .idle => system
  | .writing request (byte :: left) =>
      match system.node.writeByte byte with
      | (true, node) =>
          { system with
            node := node
            master := .writing request left }
      | (false, node) =>
          { system with
            node := node
            master := afterWrite request }
  | .writing request [] =>
      { system with
        node := system.node.stop
        master := afterWrite request
        acknowledged :=
          system.acknowledged ++ [(system.issued, request.frame)] }
  | .delaying request =>
      match system.node.addressRead request.busAddr with
      | (true, node) =>
          { system with
            node := node
            master := .reading request request.responseSize }
      | (false, node) =>
          { system with
            node := node
            master := .idle }
  | .reading _ 0 => { system with master := .idle }
  | .reading request (left + 1) =>
      let heard := system.node.readByte (left ≠ 0)
      { system with
        node := heard.2
        master := if left = 0 then .idle else .reading request left
        obtained :=
          system.obtained ++
            [⟨system.issued, request.responseSize - (left + 1),
              heard.1.getD 0xFF⟩] }

/-- The slave's main loop makes a step; `execute_command` is noted. -/
def main (system : System) : System :=
  let node := system.node.mainStep
  match system.node.controller.place with
  | .afterRecv commandSize =>
      { system with
        node := node
        executed :=
          system.executed ++
            [(system.node.controller.driver.rxBuffer.bytes 0
                commandSize.toNat, node.response)] }
  | _ => { system with node := node }

/-- A step of the system. -/
def step (system : System) : Step → System
  | .issue request => system.issue request
  | .bus => system.bus
  | .main => system.main
  | .sample speed => { system with node := system.node.sample speed }

/-- A run of the system. -/
def run
    (schedule : List Step)
    (system : System) : System :=
  schedule.foldl step system

/-- The slave has started, and the master has issued nothing yet. -/
def start
    (ownAddressEeprom : UInt8)
    (command : Memory) : System where
  node :=
    { controller := setup ownAddressEeprom command
      phase := .released }
  master := .idle
  issued := 0
  acknowledged := []
  executed := []
  obtained := []

/-- The slave's main loop has come to rest. -/
def settled (system : System) : System :=
  system.main.main.main

/-- The byte belongs to the reply to its own command. -/
def Answered
    (system : System)
    (obtained : Obtained) : Prop :=
  ∃ (index : Nat) (frame reply : List UInt8),
    system.acknowledged[index]? = some (obtained.serial, frame) ∧
    system.executed[index]? = some (frame, some reply) ∧
    reply[obtained.position]? = some obtained.byte

/--
Once the main loop has come to rest, the executed commands are the acknowledged
ones in their order; and every byte that the master has obtained belongs to the
reply to its own command.
-/
structure Faithful (system : System) : Prop where
  executed :
    system.settled.executed.map Prod.fst =
      system.acknowledged.map Prod.snd
  answered : ∀ obtained ∈ system.obtained, system.Answered obtained

/--
A write is acknowledged only while the slave waits in `twi_recv`, and a read
only while a reply is armed after the acknowledged command of that read.
-/
def Orderly (system : System) : Step → Prop
  | .issue request =>
      system.master = .idle →
        system.node.acksWrite request.busAddr = true →
        system.node.controller.place = .inRecv
  | .bus =>
      match system.master with
      | .delaying request =>
          system.node.acksRead request.busAddr = true →
            system.node.controller.place = .beforeRecv ∧
            system.acknowledged.getLast? =
              some (system.issued, request.frame)
      | _ => True
  | _ => True

/-- Every step of a run is orderly. -/
def OrderlyRun : List Step → System → Prop
  | [], _ => True
  | step :: schedule, system =>
      system.Orderly step ∧ OrderlyRun schedule (system.step step)

end System

/-! ## The situations of an orderly run -/

/-- The master is between two transactions. -/
def Between : MasterState → Prop
  | .idle => True
  | .delaying request => request.responseSize ≠ 0
  | _ => False

/--
The history is in order: but for the commands `pending` the acknowledged ones
have been executed, the commands that want a reply got one of the right size,
and every obtained byte belongs to the reply to its command.
-/
structure Sound
    (system : System)
    (pending : List (List UInt8)) : Prop where
  caught :
    system.executed.map Prod.fst ++ pending =
      system.acknowledged.map Prod.snd
  replies :
    ∀ entry ∈ system.executed,
      ∀ request : Request,
        entry.1 = request.frame → request.responseSize ≠ 0 →
          ∃ reply,
            entry.2 = some reply ∧ reply.length = request.responseSize
  answered : ∀ obtained ∈ system.obtained, system.Answered obtained

/-- The command that was executed last has been given the reply. -/
def Latest
    (system : System)
    (reply : List UInt8) : Prop :=
  ∃ earlier frame, system.executed = earlier ++ [(frame, some reply)]

/-- The situations that an orderly run leads to, one for each stage. -/
inductive Situation (system : System) : Prop where
  | armed
      (stage : Armed system.node)
      (between : Between system.master)
      (sound : Sound system [])
  | receiving
      (general : Bool)
      (got left : List UInt8)
      (request : Request)
      (stage : Receiving general got system.node)
      (master : system.master = .writing request left)
      (frame : got ++ left = request.frame)
      (sound : Sound system [])
  | received
      (frame : List UInt8)
      (stage : Received frame system.node)
      (short : frame.length ≤ 3)
      (between : Between system.master)
      (sound : Sound system [frame])
  | executing
      (frame : List UInt8)
      (stage : Executing frame system.node)
      (short : frame.length ≤ 3)
      (between : Between system.master)
      (sound : Sound system [frame])
  | responding
      (reply : List UInt8)
      (stage : Responding reply system.node)
      (between : Between system.master)
      (latest : Latest system reply)
      (sound : Sound system [])
  | replying
      (reply : List UInt8)
      (stage : Replying reply system.node)
      (between : Between system.master)
      (latest : Latest system reply)
      (sound : Sound system [])
  | transmitting
      (reply : List UInt8)
      (request : Request)
      (left : Nat)
      (stage :
        Transmitting reply (request.responseSize - (left + 1))
          system.node)
      (master : system.master = .reading request (left + 1))
      (inside : left + 1 ≤ request.responseSize)
      (whole : reply.length = request.responseSize)
      (current :
        system.acknowledged.getLast? =
          some (system.issued, request.frame))
      (latest : Latest system reply)
      (sound : Sound system [])
  | resting
      (stage : Resting system.node)
      (between : Between system.master)
      (sound : Sound system [])

theorem Request.length_frame_le (request : Request) :
    request.frame.length ≤ 3 := by
  cases request with
  | _ => simp [Request.frame]

theorem Request.responseSize_le (request : Request) :
    request.responseSize ≤ 2 := by
  cases request with
  | _ => simp [Request.responseSize]

theorem between_afterWrite (request : Request) :
    Between (afterWrite request) := by
  rw [afterWrite]
  split
  · trivial
  · assumption

/-! ## Samples of the motor -/

/-- The motor has no part in the stages. -/
theorem Situation.sample
    {system : System}
    (situation : Situation system)
    (speed : DcRpm) :
    Situation { system with node := system.node.sample speed } := by
  cases situation with
  | armed stage between sound =>
      exact .armed
        ⟨⟨stage.place, stage.phase, stage.mode, stage.twea⟩,
          stage.count⟩
        between ⟨sound.caught, sound.replies, sound.answered⟩
  | receiving general got left request stage master frame sound =>
      exact .receiving general got left request
        ⟨⟨stage.place, stage.phase, stage.mode, stage.twea⟩,
          stage.count, stage.stored⟩
        master frame ⟨sound.caught, sound.replies, sound.answered⟩
  | received frame stage short between sound =>
      exact .received frame
        ⟨⟨stage.place, stage.phase, stage.mode, stage.twea⟩,
          stage.count, stage.stored⟩
        short between ⟨sound.caught, sound.replies, sound.answered⟩
  | executing frame stage short between sound =>
      exact .executing frame
        ⟨⟨stage.place, stage.phase, stage.mode, stage.twea⟩,
          stage.stored⟩
        short between ⟨sound.caught, sound.replies, sound.answered⟩
  | responding reply stage between latest sound =>
      exact .responding reply
        ⟨stage.place, stage.phase, stage.mode, stage.twea⟩
        between latest ⟨sound.caught, sound.replies, sound.answered⟩
  | replying reply stage between latest sound =>
      exact .replying reply
        ⟨⟨stage.place, stage.phase, stage.mode, stage.twea⟩,
          stage.count, stage.loaded⟩
        between latest ⟨sound.caught, sound.replies, sound.answered⟩
  | transmitting reply request left stage master inside whole current
      latest sound =>
      exact .transmitting reply request left
        ⟨⟨stage.place, stage.phase, stage.mode, stage.twea⟩,
          stage.count, stage.loaded, stage.driving⟩
        master inside whole current latest
        ⟨sound.caught, sound.replies, sound.answered⟩
  | resting stage between sound =>
      exact .resting
        ⟨stage.place, stage.phase, stage.mode, stage.twea⟩
        between ⟨sound.caught, sound.replies, sound.answered⟩

/-! ## Steps of the main loop -/

/-- An entry of a history stays where it is when the history grows. -/
theorem getElem?_append_of_some
    {entries more : List α}
    {index : Nat}
    {entry : α}
    (present : entries[index]? = some entry) :
    (entries ++ more)[index]? = some entry := by
  obtain ⟨inside, _⟩ := List.getElem?_eq_some_iff.mp present
  rw [List.getElem?_append_left inside]
  exact present

/-- An answered byte stays answered when the history grows. -/
theorem System.Answered.extend
    {system next : System}
    {obtained : Obtained}
    (answered : system.Answered obtained)
    {acknowledgedLater : List (Nat × List UInt8)}
    {executedLater : List (List UInt8 × Option (List UInt8))}
    (acknowledged :
      next.acknowledged = system.acknowledged ++ acknowledgedLater)
    (executed : next.executed = system.executed ++ executedLater) :
    next.Answered obtained := by
  obtain ⟨index, frame, reply, acked, replied, place⟩ := answered
  refine ⟨index, frame, reply, ?_, ?_, place⟩
  · rw [acknowledged]
    exact getElem?_append_of_some acked
  · rw [executed]
    exact getElem?_append_of_some replied

/-- The history is judged by its three lists alone. -/
theorem Sound.congr
    {system next : System}
    {pending : List (List UInt8)}
    (sound : Sound system pending)
    (acknowledged : next.acknowledged = system.acknowledged)
    (executed : next.executed = system.executed)
    (obtained : next.obtained = system.obtained) :
    Sound next pending where
  caught := by
    rw [acknowledged, executed]
    exact sound.caught
  replies := by
    rw [executed]
    exact sound.replies
  answered byte member := by
    rw [obtained] at member
    exact
      (sound.answered byte member).extend
        (by rw [acknowledged, List.append_nil])
        (by rw [executed, List.append_nil])

/-- An executed command takes its place in the history. -/
theorem Sound.execute
    {system : System}
    {frame : List UInt8}
    (sound : Sound system [frame])
    (executing : Executing frame system.node)
    {next : System}
    (executed :
      next.executed =
        system.executed ++ [(frame, system.node.mainStep.response)])
    (acknowledged : next.acknowledged = system.acknowledged)
    (obtained : next.obtained = system.obtained) :
    Sound next [] where
  caught := by
    rw [executed, acknowledged, List.map_append, List.append_nil]
    exact sound.caught
  replies entry member request same wanted := by
    rw [executed] at member
    rcases List.mem_append.mp member with earlier | now
    · exact sound.replies entry earlier request same wanted
    · rw [List.mem_singleton.mp now] at same ⊢
      simp only at same
      subst same
      cases request with
      | getSpeed addr =>
          exact ⟨_, executing.response_getSpeed, rfl⟩
      | ping addr => exact ⟨_, executing.response_ping, rfl⟩
      | setSpeed addr speed => exact absurd rfl wanted
      | applySpeed => exact absurd rfl wanted
      | setAddr addr newAddr => exact absurd rfl wanted
  answered byte member := by
    rw [obtained] at member
    exact
      (sound.answered byte member).extend
        (by rw [acknowledged, List.append_nil]) executed

/-- A step of the main loop that executes nothing. -/
theorem main_of_waiting
    {system : System}
    (waiting :
      ∀ commandSize,
        system.node.controller.place ≠ .afterRecv commandSize) :
    system.main = { system with node := system.node.mainStep } := by
  rw [System.main]
  split
  · rename_i commandSize executing
    exact absurd executing (waiting commandSize)
  · rfl

/-- A step of the main loop while the slave sleeps. -/
theorem main_of_sleeping
    {system : System}
    (waiting :
      ∀ commandSize,
        system.node.controller.place ≠ .afterRecv commandSize)
    (sleeping : system.node.mainStep = system.node) :
    system.main = system := by
  rw [main_of_waiting waiting, sleeping]

/-- A step of the main loop that executes a command. -/
theorem main_of_executing
    {system : System}
    {frame : List UInt8}
    (executing : Executing frame system.node)
    (short : frame.length ≤ 3) :
    system.main =
      { system with
        node := system.node.mainStep
        executed :=
          system.executed ++
            [(frame, system.node.mainStep.response)] } := by
  have size : (UInt8.ofNat frame.length).toNat = frame.length := by
    rw [UInt8.toNat_ofNat']
    omega
  rw [System.main, executing.place]
  simp only
  rw [size, executing.stored]

/--
What a step of the main loop leads to: a command that is received is executed
next, and then the slave is on its way to the bus again.
-/
theorem Situation.main
    {system : System}
    (situation : Situation system) :
    Situation system.main := by
  cases situation with
  | armed stage between sound =>
      rw [main_of_sleeping
        (fun commandSize => by rw [stage.place]; rintro ⟨⟩)
        stage.mainStep]
      exact .armed stage between sound
  | receiving general got left request stage master frame sound =>
      rw [main_of_sleeping
        (fun commandSize => by rw [stage.place]; rintro ⟨⟩)
        stage.mainStep]
      exact .receiving general got left request stage master frame sound
  | received frame stage short between sound =>
      rw [main_of_waiting
        (fun commandSize => by rw [stage.place]; rintro ⟨⟩)]
      exact .executing frame stage.mainStep short between
        (sound.congr rfl rfl rfl)
  | executing frame stage short between sound =>
      rw [main_of_executing stage short]
      rcases stage.mainStep with
        ⟨reply, response, responding⟩ | ⟨_, resting⟩
      · exact .responding reply responding between
          ⟨system.executed, frame, by simp only [response]⟩
          (sound.execute stage rfl rfl rfl)
      · exact .resting resting between (sound.execute stage rfl rfl rfl)
  | responding reply stage between latest sound =>
      rw [main_of_waiting
        (fun commandSize => by rw [stage.place]; rintro ⟨⟩)]
      exact .replying reply stage.mainStep between latest
        (sound.congr rfl rfl rfl)
  | replying reply stage between latest sound =>
      rw [main_of_sleeping
        (fun commandSize => by rw [stage.place]; rintro ⟨⟩)
        stage.mainStep]
      exact .replying reply stage between latest sound
  | transmitting reply request left stage master inside whole current
      latest sound =>
      rw [main_of_sleeping
        (fun commandSize => by rw [stage.place]; rintro ⟨⟩)
        stage.mainStep]
      exact .transmitting reply request left stage master inside whole
        current latest sound
  | resting stage between sound =>
      rw [main_of_waiting
        (fun commandSize => by rw [stage.place]; rintro ⟨⟩)]
      exact .armed stage.mainStep between (sound.congr rfl rfl rfl)

/-- No command becomes pending in the main loop. -/
theorem Situation.sound_main
    {system : System}
    (situation : Situation system)
    (sound : Sound system []) :
    Sound system.main [] := by
  have nothing :
      ∀ frame, ¬ Sound system [frame] := by
    intro frame pending
    have lists := pending.caught.trans sound.caught.symm
    have same := (List.append_right_inj _).mp lists
    cases same
  have notExecuting :
      ∀ commandSize,
        system.node.controller.place ≠ .afterRecv commandSize := by
    cases situation with
    | armed stage between sound =>
        rw [stage.place]
        rintro _ ⟨⟩
    | receiving general got left request stage master frame sound =>
        rw [stage.place]
        rintro _ ⟨⟩
    | received frame stage short between pending =>
        exact absurd pending (nothing frame)
    | executing frame stage short between pending =>
        exact absurd pending (nothing frame)
    | responding reply stage between latest sound =>
        rw [stage.place]
        rintro _ ⟨⟩
    | replying reply stage between latest sound =>
        rw [stage.place]
        rintro _ ⟨⟩
    | transmitting reply request left stage master inside whole current
        latest sound =>
        rw [stage.place]
        rintro _ ⟨⟩
    | resting stage between sound =>
        rw [stage.place]
        rintro _ ⟨⟩
  rw [main_of_waiting notExecuting]
  exact sound.congr rfl rfl rfl

/-- A pending command is executed within two steps of the main loop. -/
theorem Situation.sound_settled
    {system : System}
    (situation : Situation system) :
    Sound system.settled [] := by
  have again := situation.main
  have thrice := again.main
  have afterExecution :
      ∀ frame,
        Executing frame system.node → frame.length ≤ 3 →
          Sound system [frame] → Sound system.main [] := by
    intro frame stage short sound
    rw [main_of_executing stage short]
    exact sound.execute stage rfl rfl rfl
  have caughtUp :
      Sound system [] → Sound system.settled [] := fun sound =>
    thrice.sound_main (again.sound_main (situation.sound_main sound))
  cases situation with
  | armed stage between sound => exact caughtUp sound
  | receiving general got left request stage master frame sound =>
      exact caughtUp sound
  | received frame stage short between sound =>
      have waiting :
          ∀ commandSize,
            system.node.controller.place ≠ .afterRecv commandSize := by
        rw [stage.place]
        rintro _ ⟨⟩
      refine thrice.sound_main ?_
      rw [main_of_waiting waiting]
      have pending :
          Sound { system with node := system.node.mainStep } [frame] :=
        sound.congr rfl rfl rfl
      rw [main_of_executing stage.mainStep short]
      exact pending.execute stage.mainStep rfl rfl rfl
  | executing frame stage short between sound =>
      exact
        thrice.sound_main
          (again.sound_main (afterExecution frame stage short sound))
  | responding reply stage between latest sound => exact caughtUp sound
  | replying reply stage between latest sound => exact caughtUp sound
  | transmitting reply request left stage master inside whole current
      latest sound =>
      exact caughtUp sound
  | resting stage between sound => exact caughtUp sound

/-! ## Steps of the master -/

/-- The master goes from one pause to another, and the slave is left alone. -/
theorem Situation.between
    {system next : System}
    (situation : Situation system)
    (before : Between system.master)
    (after : Between next.master)
    (node : next.node = system.node)
    (acknowledged : next.acknowledged = system.acknowledged)
    (executed : next.executed = system.executed)
    (obtained : next.obtained = system.obtained) :
    Situation next := by
  have keeps :
      ∀ pending, Sound system pending → Sound next pending :=
    fun pending sound => sound.congr acknowledged executed obtained
  cases situation with
  | armed stage between sound =>
      exact .armed (node ▸ stage) after (keeps _ sound)
  | receiving general got left request stage master frame sound =>
      rw [master] at before
      exact before.elim
  | received frame stage short between sound =>
      exact .received frame (node ▸ stage) short after (keeps _ sound)
  | executing frame stage short between sound =>
      exact .executing frame (node ▸ stage) short after (keeps _ sound)
  | responding reply stage between latest sound =>
      obtain ⟨earlier, frame, last⟩ := latest
      exact .responding reply (node ▸ stage) after
        ⟨earlier, frame, executed.trans last⟩ (keeps _ sound)
  | replying reply stage between latest sound =>
      obtain ⟨earlier, frame, last⟩ := latest
      exact .replying reply (node ▸ stage) after
        ⟨earlier, frame, executed.trans last⟩ (keeps _ sound)
  | transmitting reply request left stage master inside whole current
      latest sound =>
      rw [master] at before
      exact before.elim
  | resting stage between sound =>
      exact .resting (node ▸ stage) after (keeps _ sound)

/-- A slave that does not sleep in `twi_recv` or on its reply hears nothing. -/
theorem Situation.place_of_twea
    {system : System}
    (situation : Situation system)
    (between : Between system.master)
    (twea : system.node.controller.driver.twcr.twea = true) :
    (Armed system.node ∧ Sound system []) ∨
    ∃ reply,
      Replying reply system.node ∧ Latest system reply ∧
        Sound system [] := by
  cases situation with
  | armed stage _ sound => exact Or.inl ⟨stage, sound⟩
  | receiving general got left request stage master frame sound =>
      rw [master] at between
      exact between.elim
  | received frame stage short _ sound =>
      rw [stage.twea] at twea
      cases twea
  | executing frame stage short _ sound =>
      rw [stage.twea] at twea
      cases twea
  | responding reply stage _ latest sound =>
      rw [stage.twea] at twea
      cases twea
  | replying reply stage _ latest sound =>
      exact Or.inr ⟨reply, stage, latest, sound⟩
  | transmitting reply request left stage master inside whole current
      latest sound =>
      rw [master] at between
      exact between.elim
  | resting stage _ sound =>
      rw [stage.twea] at twea
      cases twea

/-- An acknowledged write begins only while the slave waits for a command. -/
theorem Situation.issue
    {system : System}
    (situation : Situation system)
    (request : Request)
    (orderly : system.Orderly (.issue request)) :
    Situation (system.issue request) := by
  rw [System.issue]
  cases master : system.master with
  | idle =>
      have before : Between system.master := by
        rw [master]
        trivial
      by_cases acked : system.node.acksWrite request.busAddr = true
      · have place := orderly master acked
        have twea : system.node.controller.driver.twcr.twea = true :=
          (Bool.and_eq_true_iff.mp acked).1
        rcases situation.place_of_twea before twea with
          ⟨stage, sound⟩ | ⟨reply, stage, _, _⟩
        · obtain ⟨answered, receiving⟩ := stage.addressWrite acked
          rcases step : system.node.addressWrite request.busAddr with
            ⟨_ | _, node⟩
          · rw [step] at answered
            cases answered
          · rw [step] at receiving
            exact .receiving _ [] request.frame request receiving rfl rfl
              (sound.congr rfl rfl rfl)
        · rw [stage.place] at place
          cases place
      · rw [Node.addressWrite, if_neg acked]
        exact situation.between before (between_afterWrite request) rfl
          rfl rfl rfl
  | writing other left => exact situation
  | delaying other => exact situation
  | reading other left => exact situation

/-- A byte of a reply that was given may be added to those obtained. -/
theorem Sound.obtain
    {system next : System}
    (sound : Sound system [])
    {byte : Obtained}
    (answered : system.Answered byte)
    (acknowledged : next.acknowledged = system.acknowledged)
    (executed : next.executed = system.executed)
    (bytes : next.obtained = system.obtained ++ [byte]) :
    Sound next [] where
  caught := by
    rw [acknowledged, executed]
    exact sound.caught
  replies := by
    rw [executed]
    exact sound.replies
  answered other member := by
    have extended :
        ∀ {obtained : Obtained},
          system.Answered obtained → next.Answered obtained :=
      fun before =>
        before.extend (by rw [acknowledged, List.append_nil])
          (by rw [executed, List.append_nil])
    rw [bytes] at member
    rcases List.mem_append.mp member with earlier | now
    · exact extended (sound.answered other earlier)
    · rw [List.mem_singleton.mp now]
      exact extended answered

/-- The command that was executed last is the one acknowledged last. -/
theorem Sound.latest
    {system : System}
    (sound : Sound system [])
    {reply : List UInt8}
    (latest : Latest system reply)
    {serial : Nat}
    {frame : List UInt8}
    (current : system.acknowledged.getLast? = some (serial, frame)) :
    ∃ index : Nat,
      system.acknowledged[index]? = some (serial, frame) ∧
      system.executed[index]? = some (frame, some reply) := by
  obtain ⟨earlier, executedFrame, executed⟩ := latest
  obtain ⟨before, acknowledged⟩ :=
    List.getLast?_eq_some_iff.mp current
  have caught := sound.caught
  rw [executed, acknowledged, List.append_nil, List.map_append,
    List.map_append] at caught
  have lengths := congrArg List.length caught
  simp only [List.length_append, List.length_map, List.length_cons,
    List.length_nil] at lengths
  have same := (List.append_inj caught (by simp; omega)).2
  simp only [List.map_cons, List.map_nil, List.cons.injEq,
    and_true] at same
  subst same
  have together : before.length = earlier.length := by
    omega
  refine ⟨earlier.length, ?_, ?_⟩
  · rw [acknowledged, ← together, List.getElem?_concat_length]
  · rw [executed, List.getElem?_concat_length]

/-- The reply that is read has the size that the master asks for. -/
theorem Sound.length_latest
    {system : System}
    (sound : Sound system [])
    {reply : List UInt8}
    (latest : Latest system reply)
    {serial : Nat}
    {request : Request}
    (current :
      system.acknowledged.getLast? = some (serial, request.frame))
    (wanted : request.responseSize ≠ 0) :
    reply.length = request.responseSize := by
  obtain ⟨index, _, executed⟩ := sound.latest latest current
  have member := List.mem_of_getElem? executed
  obtain ⟨given, same, length⟩ :=
    sound.replies _ member request rfl wanted
  cases same
  exact length

/-- A byte of a write is received, and `STOP` completes the command. -/
theorem Situation.bus_writing
    {system : System}
    (situation : Situation system)
    {request : Request}
    {left : List UInt8}
    (master : system.master = .writing request left) :
    Situation system.bus := by
  have notBetween : ¬ Between system.master := by
    rw [master]
    exact id
  cases situation with
  | receiving general got left' request' stage master' frame sound =>
      rw [master] at master'
      cases master'
      have length := request.length_frame_le
      rw [← frame, List.length_append] at length
      rw [System.bus, master]
      cases left with
      | nil =>
          rw [List.append_nil] at frame
          refine .received got stage.stop (by omega)
            (between_afterWrite request) ?_
          refine ⟨?_, sound.replies, ?_⟩
          · have caught := sound.caught
            rw [List.append_nil] at caught
            rw [frame, caught, List.map_append]
            rfl
          · intro obtained member
            exact
              (sound.answered obtained member).extend rfl
                (List.append_nil _).symm
      | cons byte left =>
          obtain ⟨acked, further⟩ :=
            stage.writeByte (by omega) byte
          rcases step : system.node.writeByte byte with ⟨_ | _, node⟩
          · rw [step] at acked
            cases acked
          · rw [step] at further
            simp only [step]
            refine .receiving general (got ++ [byte]) left request
              further rfl ?_ (sound.congr rfl rfl rfl)
            rw [List.append_assoc]
            exact frame
  | armed stage between sound => exact absurd between notBetween
  | received frame stage short between sound =>
      exact absurd between notBetween
  | executing frame stage short between sound =>
      exact absurd between notBetween
  | responding reply stage between latest sound =>
      exact absurd between notBetween
  | replying reply stage between latest sound =>
      exact absurd between notBetween
  | transmitting reply request' left' stage master' inside whole current
      latest sound =>
      rw [master] at master'
      cases master'
  | resting stage between sound => exact absurd between notBetween

/-- Only a command that wants a reply is followed by a read. -/
theorem Situation.between_of_delaying
    {system : System}
    (situation : Situation system)
    {request : Request}
    (master : system.master = .delaying request) :
    Between system.master := by
  cases situation with
  | armed stage between sound => exact between
  | receiving general got left request' stage master' frame sound =>
      rw [master] at master'
      cases master'
  | received frame stage short between sound => exact between
  | executing frame stage short between sound => exact between
  | responding reply stage between latest sound => exact between
  | replying reply stage between latest sound => exact between
  | transmitting reply request' left stage master' inside whole current
      latest sound =>
      rw [master] at master'
      cases master'
  | resting stage between sound => exact between

/-- A read that is acknowledged reads the reply to its own command. -/
theorem Situation.bus_delaying
    {system : System}
    (situation : Situation system)
    {request : Request}
    (master : system.master = .delaying request)
    (orderly : system.Orderly .bus) :
    Situation system.bus := by
  have between := situation.between_of_delaying master
  have wanted : request.responseSize ≠ 0 := by
    rw [master] at between
    exact between
  simp only [System.Orderly, master] at orderly
  rw [System.bus, master]
  by_cases acked : system.node.acksRead request.busAddr = true
  · obtain ⟨place, current⟩ := orderly acked
    have twea : system.node.controller.driver.twcr.twea = true := by
      simp only [Node.acksRead, Bool.and_eq_true] at acked
      exact acked.1.1
    rcases situation.place_of_twea between twea with
      ⟨stage, _⟩ | ⟨reply, stage, latest, sound⟩
    · rw [stage.place] at place
      cases place
    · obtain ⟨answered, transmitting⟩ := stage.addressRead acked
      have whole := sound.length_latest latest current wanted
      obtain ⟨left, size⟩ := Nat.exists_eq_succ_of_ne_zero wanted
      rcases step : system.node.addressRead request.busAddr with
        ⟨_ | _, node⟩
      · rw [step] at answered
        cases answered
      · rw [step] at transmitting
        have first : request.responseSize - (left + 1) = 0 := by
          omega
        simp only [step]
        refine .transmitting reply request left ?_ ?_ (by omega) whole
          current latest (sound.congr rfl rfl rfl)
        · rw [first]
          exact transmitting
        · rw [size]
  · have refused :
        system.node.addressRead request.busAddr =
          (false, system.node) := by
      rw [Node.addressRead, if_neg acked]
    simp only [refused]
    exact situation.between between trivial rfl rfl rfl rfl

/-- A byte of a read belongs to the reply to the command of that read. -/
theorem Situation.bus_reading
    {system : System}
    (situation : Situation system)
    {request : Request}
    {left : Nat}
    (master : system.master = .reading request left) :
    Situation system.bus := by
  have notBetween : ¬ Between system.master := by
    rw [master]
    exact id
  cases situation with
  | transmitting reply request' left' stage master' inside whole current
      latest sound =>
      rw [master] at master'
      cases master'
      have here :
          request.responseSize - (left' + 1) < reply.length := by
        omega
      have driven := stage.driven here (left' ≠ 0)
      obtain ⟨index, acknowledged, executed⟩ :=
        sound.latest latest current
      have obtained :
          system.Answered
            ⟨system.issued, request.responseSize - (left' + 1),
              reply[request.responseSize - (left' + 1)]⟩ :=
        ⟨index, request.frame, reply, acknowledged, executed,
          List.getElem?_eq_getElem here⟩
      rw [System.bus, master]
      simp only [driven, Option.getD_some]
      cases left' with
      | zero =>
          exact .resting stage.last trivial
            (sound.obtain obtained rfl rfl rfl)
      | succ left =>
          have short := request.responseSize_le
          have next := stage.next (by omega)
          have position :
              request.responseSize - (left + 1 + 1) + 1 =
                request.responseSize - (left + 1) := by
            omega
          rw [position] at next
          have more : decide (left + 1 ≠ 0) = true :=
            decide_eq_true (Nat.succ_ne_zero left)
          simp only [more, Nat.succ_ne_zero, ↓reduceIte]
          exact .transmitting reply request left next rfl (by omega)
            whole current latest (sound.obtain obtained rfl rfl rfl)
  | armed stage between sound => exact absurd between notBetween
  | receiving general got left' request' stage master' frame sound =>
      rw [master] at master'
      cases master'
  | received frame stage short between sound =>
      exact absurd between notBetween
  | executing frame stage short between sound =>
      exact absurd between notBetween
  | responding reply stage between latest sound =>
      exact absurd between notBetween
  | replying reply stage between latest sound =>
      exact absurd between notBetween
  | resting stage between sound => exact absurd between notBetween

/-- The history is in order in every situation. -/
theorem Situation.sound
    {system : System}
    (situation : Situation system) :
    ∃ pending, Sound system pending := by
  cases situation with
  | armed stage between sound => exact ⟨_, sound⟩
  | receiving general got left request stage master frame sound =>
      exact ⟨_, sound⟩
  | received frame stage short between sound => exact ⟨_, sound⟩
  | executing frame stage short between sound => exact ⟨_, sound⟩
  | responding reply stage between latest sound => exact ⟨_, sound⟩
  | replying reply stage between latest sound => exact ⟨_, sound⟩
  | transmitting reply request left stage master inside whole current
      latest sound =>
      exact ⟨_, sound⟩
  | resting stage between sound => exact ⟨_, sound⟩

/-- An orderly step leads from a situation to a situation. -/
theorem Situation.step
    {system : System}
    (situation : Situation system)
    {step : Step}
    (orderly : system.Orderly step) :
    Situation (system.step step) := by
  cases step with
  | issue request => exact situation.issue request orderly
  | bus =>
      rw [System.step]
      cases master : system.master with
      | idle =>
          rw [System.bus, master]
          exact situation
      | writing request left => exact situation.bus_writing master
      | delaying request => exact situation.bus_delaying master orderly
      | reading request left => exact situation.bus_reading master
  | main => exact situation.main
  | sample speed => exact situation.sample speed

/-- A system that has just started rests. -/
theorem situation_start
    (ownAddressEeprom : UInt8)
    (command : Memory) :
    Situation (System.start ownAddressEeprom command) :=
  .resting ⟨rfl, rfl, rfl, rfl⟩ trivial
    ⟨rfl, fun _ member => absurd member List.not_mem_nil,
      fun _ member => absurd member List.not_mem_nil⟩

/-- An orderly run leads from a situation to a situation. -/
theorem Situation.run
    {system : System}
    (situation : Situation system)
    (schedule : List Step)
    (orderly : system.OrderlyRun schedule) :
    Situation (system.run schedule) := by
  induction schedule generalizing system with
  | nil =>
      exact situation
  | cons step schedule inductionHypothesis =>
      exact inductionHypothesis (situation.step orderly.1) orderly.2

/--
In every run in which a write is acknowledged only while the slave waits in
`twi_recv`, and a read only while the reply to its own acknowledged command is
armed, every acknowledged command is executed exactly once and in order, and
every byte that the master obtains belongs to the reply to its own command.
-/
theorem orderlyRun_faithful
    (ownAddressEeprom : UInt8)
    (command : Memory)
    (schedule : List Step)
    (orderly :
      (System.start ownAddressEeprom command).OrderlyRun schedule) :
    ((System.start ownAddressEeprom command).run schedule).Faithful := by
  have situation :=
    (situation_start ownAddressEeprom command).run schedule orderly
  have sound := situation.sound_settled
  have kept :
      ∀ system : System, system.main.acknowledged = system.acknowledged := by
    intro system
    rw [System.main]
    split
    · rfl
    · rfl
  refine ⟨?_, ?_⟩
  · have caught := sound.caught
    rw [List.append_nil] at caught
    rw [caught, System.settled, kept, kept, kept]
  · obtain ⟨pending, history⟩ := situation.sound
    exact history.answered

/-- A ping that is answered in time. -/
def timelyPing : List Step :=
  [.main, .issue (.ping 1), .bus, .bus, .bus, .main, .main, .main, .bus,
    .bus, .main]

theorem timelyPing_faithful :
    ((System.start 1 fun _ => 0).run timelyPing).Faithful :=
  orderlyRun_faithful 1 (fun _ => 0) timelyPing
    ⟨trivial, fun _ _ => rfl, trivial, trivial, trivial, trivial,
      trivial, trivial, fun _ => ⟨rfl, rfl⟩, trivial, trivial, trivial⟩

/--
The slave executes a speed request only after the master has tried to read the
reply, and then waits with its reply while the next command is written.
-/
def lateReply : List Step :=
  [.main, .issue (.getSpeed 1), .bus, .bus, .main, .bus, .main, .main,
    .issue (.setSpeed 1 100), .bus, .bus, .bus, .bus]

/--
The slave is even later: a second speed request is refused, and its read finds
the reply to the first one.
-/
def laterReply : List Step :=
  [.main, .issue (.getSpeed 1), .bus, .bus, .main, .bus,
    .issue (.getSpeed 1), .main, .main, .bus, .bus, .bus]

/--
The command that is written over an armed reply is acknowledged and never
executed; the bytes of the later read belong to another command.
-/
theorem lateReply_unfaithful :
    ((System.start 1 fun _ => 0).run lateReply).acknowledged =
      [(1, [0]), (2, [1, 100, 0])] ∧
    ((System.start 1 fun _ => 0).run lateReply).settled.executed =
      [([0], some [0, 0])] ∧
    ¬ ((System.start 1 fun _ => 0).run lateReply).Faithful ∧
    ((System.start 1 fun _ => 0).run laterReply).acknowledged =
      [(1, [0])] ∧
    ((System.start 1 fun _ => 0).run laterReply).obtained =
      [⟨2, 0, 0⟩, ⟨2, 1, 0⟩] ∧
    ¬ ((System.start 1 fun _ => 0).run laterReply).Faithful := by
  have acknowledged :
      ((System.start 1 fun _ => 0).run lateReply).acknowledged =
        [(1, [0]), (2, [1, 100, 0])] := by
    decide
  have executed :
      ((System.start 1 fun _ => 0).run lateReply).settled.executed =
        [([0], some [0, 0])] := by
    decide
  have acknowledgedOnce :
      ((System.start 1 fun _ => 0).run laterReply).acknowledged =
        [(1, [0])] := by
    decide
  have obtained :
      ((System.start 1 fun _ => 0).run laterReply).obtained =
        [⟨2, 0, 0⟩, ⟨2, 1, 0⟩] := by
    decide
  refine
    ⟨acknowledged, executed, fun faithful => ?_, acknowledgedOnce,
      obtained, fun faithful => ?_⟩
  · have lists := faithful.executed
    rw [acknowledged, executed] at lists
    exact absurd lists (by decide)
  · obtain ⟨index, frame, reply, mine, _, _⟩ :=
      faithful.answered ⟨2, 0, 0⟩ (by rw [obtained]; simp)
    rw [acknowledgedOnce] at mine
    have member := List.mem_of_getElem? mine
    simp at member

end Ammc.Slave
