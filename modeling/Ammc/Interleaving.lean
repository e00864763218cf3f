import Ammc.DrainedSession
import Ammc.MasterLoop

namespace Ammc.Client

open Serial

/-- The shell runs one command after the other. -/
def execAll : List Command → Session → ClientProg Session
  | [], session => return session
  | command :: commands, session => do
      let (_, session) ← command.exec session
      execAll commands session

theorem execAll_cons
    (command : Command)
    (commands : List Command)
    (session : Session) :
    execAll (command :: commands) session =
      command.exec session >>= fun result =>
        execAll commands result.2 :=
  rfl

end Ammc.Client

namespace Ammc.Exchange

open ByteMemory Serial Packet

/-!
# Interleavings of client, master and line

Client and master run call by call, and every byte travels by itself, in any
order that a schedule gives.  The line loses and changes nothing.  Both programs
find only the bytes that have reached them: the client's flush throws away no
others.  The master's receive buffer is taken to be large enough.
-/

/--
The client's computer: its serial device, and what the uninitialised variables
hold after a number of packets.
-/
structure Computer where
  device : Client.Descriptor
  uninitialised : Nat → Memory

/--
The client's surroundings in an interleaving.  They count the packets that the
client hands to the line; replies come by way of the line alone.
-/
def Computer.world (computer : Computer) :
    World Client.signature Nat where
  answer query packets :=
    match query with
    | .isatty _ => (true, packets)
    | .openDevice _ => (computer.device.number, packets)
    | .close _ => (0, packets)
    | .uninitialised => (computer.uninitialised packets, packets)
  react _ packets := some ([], packets + 1)
  expecting := false
  flushable := true

/-- Client and master, and the bytes between them. -/
structure Connection (ε : Type) where
  client : Process Client.signature Client.Session Nat
  up : List UInt8
  down : List UInt8
  master : Master.Machine ε

/-- What a schedule may do next. -/
inductive Action where
  | client
  | master
  | deliverUp
  | deliverDown
  deriving Repr, DecidableEq

/-- The process with one more byte delivered to it. -/
def reached
    (process : Process S α ε)
    (byte : UInt8) : Process S α ε :=
  { process with
    port :=
      { process.port with
        input := process.port.input ++ [byte] } }

namespace Connection

variable {ε : Type}

section Schedules

variable (bus : Master.Bus ε)
variable (computer : Computer)

/-- One action; an action that is not possible changes nothing. -/
def next
    (connection : Connection ε) : Action → Connection ε
  | .client =>
      match connection.client.advance computer.world with
      | none => connection
      | some client =>
          { connection with
            client := client
            up := connection.up ++ connection.client.program.output }
  | .master =>
      match
        connection.master.step bus.world Master.Turn.resume with
      | none => connection
      | some master =>
          { connection with
            master := master
            down := connection.down ++ connection.master.program.output }
  | .deliverUp =>
      match connection.up with
      | [] => connection
      | byte :: rest =>
          { connection with
            up := rest
            master := reached connection.master byte }
  | .deliverDown =>
      match connection.down with
      | [] => connection
      | byte :: rest =>
          { connection with
            down := rest
            client := reached connection.client byte }

/-- The connection after a schedule. -/
def run (connection : Connection ε) (schedule : List Action) :
    Connection ε :=
  schedule.foldl (next bus computer) connection

/--
Nothing is outstanding: no byte is on its way or unread at the master, and the
master sends nothing more before it is given more.
-/
structure Answered (connection : Connection ε) : Prop where
  up : connection.up = []
  down : connection.down = []
  unread : connection.master.port.input = []
  silent :
    ∀ later,
      Relation.ReflTransGen
          (fun before after =>
            before.step bus.world Master.Turn.resume = some after)
          connection.master later →
        later.port.sent = connection.master.port.sent

end Schedules

/-- The program throws away its input before a transmission. -/
def flushesToSend : Client.ClientProg α → Bool
  | .flush (.note .transmitting _) => true
  | _ => false

/--
In every step of the schedule in which the client begins to send a packet, the
connection meets the condition.
-/
def SendsWhen
    (condition : Connection ε → Prop)
    (bus : Master.Bus ε)
    (computer : Computer)
    (connection : Connection ε) : List Action → Prop
  | [] => True
  | action :: schedule =>
      (action = .client → flushesToSend connection.client.program = true →
          condition connection) ∧
        SendsWhen condition bus computer
          (connection.next bus computer action) schedule

/--
The client begins to send a packet only when nothing is outstanding, so that the
flush throws away every reply that is not a reply to this packet.
-/
def Orderly
    (bus : Master.Bus ε)
    (computer : Computer) : Connection ε → List Action → Prop :=
  SendsWhen (Answered bus) bus computer

instance decidableSendsWhen
    (condition : Connection ε → Prop)
    [DecidablePred condition]
    (bus : Master.Bus ε)
    (computer : Computer) :
    (connection : Connection ε) → (schedule : List Action) →
      Decidable (connection.SendsWhen condition bus computer schedule)
  | _, [] => .isTrue trivial
  | connection, action :: schedule =>
      have :=
        decidableSendsWhen condition bus computer
          (connection.next bus computer action) schedule
      inferInstanceAs (Decidable (_ ∧ _))

/-- No byte is on its way, and the master asks in vain for another. -/
def AtRest (connection : Connection ε) : Prop :=
  connection.up = [] ∧ connection.down = [] ∧ connection.master.Idling

instance (connection : Connection ε) : Decidable connection.AtRest :=
  inferInstanceAs (Decidable (_ ∧ _ ∧ _))

/-- A client that is about to connect, and a master that waits for it. -/
def start
    (clientId masterId : UInt8)
    (rx : Memory)
    (env : ε)
    (device : Client.Word)
    (commands : List Client.Command) : Connection ε where
  client :=
    ⟨Client.execAll (.connect device :: commands)
        { globalId := clientId, avrFd := -1 },
      Port.start [] 0⟩
  up := []
  down := []
  master :=
    ⟨Master.communicationHandlerTurn ⟨masterId, .receiving, rx⟩,
      Port.start [] env⟩

end Connection

/--
Every send that has returned reports whether the master has accepted its packet,
and what it took for the answer is the answer to this packet.
-/
structure Faithful
    (client : ClientLog)
    (master : MasterLog) : Prop where
  verdict :
    ∀ send ∈ completedSends client,
      send.code = 0 ↔ ∃ answer, Accepted master send.written answer
  own :
    ∀ send ∈ completedSends client,
      send.code = 0 → Accepted master send.written send.read

end Ammc.Exchange
