import Ammc.ClientBounds
import Ammc.Numerals
import Ammc.SentPackets

namespace Ammc.Client

open ByteMemory Serial Packet DcMotor Numerals

/-!
# The arguments of the addressed commands

Four commands take addresses from the command line.  `ping` uses `atoi`, the
others use `sscanf`; each conversion narrows the value of a numeral to the width
of its object before the range is checked.
-/

/-- What `sscanf` returns when its first conversion finds no numeral. -/
def scanFailure (text : List UInt8) : Int :=
  if text.dropWhile isSpace = [] then -1 else 0

/--
`sscanf` with the format `%hhu`.  Its object is not looked at unless a value was
stored in it.
-/
def sscanfMotor (text : List UInt8) : Int × UInt8 :=
  match scan .decimal text with
  | none => (scanFailure text, 0)
  | some motor => (1, UInt8.ofNat motor.strtoul)

/-- `sscanf` with the format `%hhu=%hd`. -/
def sscanfSpeed (text : List UInt8) : Int × UInt8 × DcRpm :=
  match scan .decimal text with
  | none => (scanFailure text, 0, 0)
  | some motor =>
      if motor.rest.head? ≠ some 61 then
        (1, UInt8.ofNat motor.strtoul, 0)
      else
        match scan .decimal motor.rest.tail with
        | none => (1, UInt8.ofNat motor.strtoul, 0)
        | some speed =>
            (2, UInt8.ofNat motor.strtoul, Int16.ofInt speed.strtol)

/-- `sscanf` with the format `%hhi`, into an object of type `unsigned char`. -/
def sscanfAddress (text : List UInt8) : Int × UInt8 :=
  match scan .constant text with
  | none => (scanFailure text, 0)
  | some addr => (1, (Int8.ofInt addr.strtol).toUInt8)

/-- The message for an argument that `sscanf` does not accept. -/
def badArgument (text : List UInt8) : String :=
  "Bad argument: " ++
    String.ofList (text.map fun c => Char.ofNat c.toNat)

/-- `ping`, from the arguments on. -/
def pingArgs
    (session : Session)
    (args : List (List UInt8)) : ClientProg (Int × Session) :=
  match args with
  | [argument] => ping session (atoi argument).toUInt32
  | _ => return (1, session)

/-- `get_speed`, from the arguments on. -/
def getSpeedArgs
    (session : Session)
    (args : List (List UInt8)) : ClientProg (Int × Session) :=
  match args with
  | [argument] =>
      if session.avrFd < 0 then
        shError session 2 "Device is not connected"
      else
        let (ret, motorId) := sscanfMotor argument
        if ret ≠ 1 ∨ ret ≥ slaveIdLimit then
          shError session 1 (badArgument argument)
        else
          getSpeed session motorId
  | _ => return (1, session)

/-- `set_speed`, from the arguments on. -/
def setSpeedArgs
    (session : Session)
    (args : List (List UInt8)) : ClientProg (Int × Session) :=
  match args with
  | [argument] =>
      if session.avrFd < 0 then
        shError session 2 "Device is not connected"
      else
        let (ret, motorId, speed) := sscanfSpeed argument
        if ret ≠ 2 ∨ ret ≥ slaveIdLimit then
          shError session 1 (badArgument argument)
        else
          setSpeed session motorId speed
  | _ => return (1, session)

/-- `set_slave_addr`, from the arguments on. -/
def setSlaveAddrArgs
    (session : Session)
    (args : List (List UInt8)) : ClientProg (Int × Session) :=
  match args with
  | [first, second] =>
      if session.avrFd < 0 then
        shError session 2 "Device is not connected"
      else
        let (ret, addrActual) := sscanfAddress first
        let (more, addrNew) := sscanfAddress second
        if ret + more ≠ 2 then
          shError session 1
            "Wrong address format. Use (hexa)decimal notation"
        else
          setSlaveAddr session addrActual addrNew
  | _ => return (1, session)

/-- The commands that take addresses. -/
inductive Addressing where
  | ping
  | getSpeed
  | setSpeed
  | setSlaveAddr
  deriving Repr, DecidableEq

/-- The entry of `_shell_commands` for such a command. -/
def Addressing.exec
    (session : Session)
    (args : List (List UInt8)) : Addressing → ClientProg (Int × Session)
  | .ping => pingArgs session args
  | .getSpeed => getSpeedArgs session args
  | .setSpeed => setSpeedArgs session args
  | .setSlaveAddr => setSlaveAddrArgs session args

/-! ## What the arguments ask for -/

/-- The argument is a numeral whose value is an address of a slave. -/
structure IsAddress
    (writing : Notation)
    (argument : List UInt8)
    (addr : UInt8) : Prop where
  denotes : Denotes writing argument addr.toNat
  positive : 1 ≤ addr.toNat
  limited : addr.toNat ≤ slaveIdLimit - 1

/-- The fields of a packet. -/
structure Fields where
  type : UInt8
  selector : UInt8
  body : List UInt8

/-- The arguments are numerals in range, and these are the values they carry. -/
inductive Asks : Addressing → List (List UInt8) → Fields → Prop where
  | ping
      {argument : List UInt8}
      {addr : UInt8}
      (isAddress : IsAddress .decimal argument addr) :
      Asks .ping [argument] ⟨ComType.ping.code, addr, []⟩
  | getSpeed
      {argument : List UInt8}
      {addr : UInt8}
      (isAddress : IsAddress .decimal argument addr) :
      Asks .getSpeed [argument] ⟨ComType.getSpeed.code, addr, []⟩
  | setSpeed
      {motor value : List UInt8}
      {addr : UInt8}
      {speed : DcRpm}
      (isAddress : IsAddress .decimal motor addr)
      (isSpeed : Denotes .decimal value speed.toInt) :
      Asks .setSpeed [motor ++ 61 :: value]
        ⟨ComType.setSpeed.code, addr, rpmBytes speed⟩
  | setSlaveAddr
      {first second : List UInt8}
      {addrActual addrNew : UInt8}
      (isActual : IsAddress .constant first addrActual)
      (isNew : IsAddress .constant second addrNew) :
      Asks .setSlaveAddr [first, second]
        ⟨ComType.setSlaveAddr.code, addrActual, [addrNew]⟩

/-- A packet that a command may send under some id. -/
def Permitted
    (command : Addressing)
    (args : List (List UInt8))
    (id : UInt8)
    (bytes : List UInt8) : Prop :=
  IsAcknowledgement bytes ∨
    ∃ fields,
      Asks command args fields ∧
        bytes = packetImage id fields.type fields.selector fields.body

/--
In every run of the command, apart from acknowledgements, only the packet that
its arguments ask for is sent.
-/
def Honest
    (command : Addressing)
    (args : List (List UInt8)) : Prop :=
  ∀ (session : Session) (ε : Type) (world : World signature ε)
    (port : Port signature ε),
    port.sent = [] →
      ∀ bytes ∈ (exec world (command.exec session args) port).2.sent,
        Permitted command args session.globalId bytes

/-! ## Which arguments are refused -/

/-- `%hhu` stores zero: no overflow, and a low byte of zero. -/
def ZeroByte (value : Int) : Prop :=
  -18446744073709551616 < value ∧ value < 18446744073709551616 ∧
    value % 256 = 0

/-- A value brought into the range of `long`, and then to a smaller width. -/
def narrowed (value modulus : Int) : Int :=
  max (-9223372036854775808) (min value 9223372036854775807) % modulus

/-- `ping` refuses the value. -/
def PingRefuses (value : Int) : Prop :=
  narrowed value 4294967296 = 0 ∨ 127 < narrowed value 4294967296

/-- `set-slave-addr` refuses the value. -/
def AddressRefused (value : Int) : Prop :=
  narrowed value 256 = 0 ∨ 127 ≤ narrowed value 256

/--
Whenever the arguments begin with numerals, either these are refused or the
arguments are what they should be.
-/
def InOrder : Addressing → List (List UInt8) → Prop
  | .ping, [argument] =>
      ∀ reading, scan .decimal argument = some reading →
        PingRefuses reading.value ∨
          ∃ addr, IsAddress .decimal argument addr
  | .getSpeed, [argument] =>
      ∀ reading, scan .decimal argument = some reading →
        ZeroByte reading.value ∨
          ∃ addr, IsAddress .decimal argument addr
  | .setSpeed, [argument] =>
      ∀ motor later speed, scan .decimal argument = some motor →
        motor.rest = 61 :: later → scan .decimal later = some speed →
          ZeroByte motor.value ∨
            ∃ left right addr, ∃ rpm : DcRpm,
              argument = left ++ 61 :: right ∧
                IsAddress .decimal left addr ∧
                  Denotes .decimal right rpm.toInt
  | .setSlaveAddr, [first, second] =>
      ∀ actual new, scan .constant first = some actual →
        scan .constant second = some new →
          (AddressRefused actual.value ∨ AddressRefused new.value ∨
              narrowed actual.value 256 = narrowed new.value 256) ∨
            (∃ addr, IsAddress .constant first addr) ∧
              ∃ addr, IsAddress .constant second addr
  | _, _ => True

/-! ## What the commands send -/

/-- The tests of `set_slave_addr` let two addresses pass. -/
def SendsPacketTo (addrActual addrNew : UInt8) : Prop :=
  ¬ (addrActual = 0 ∨ addrNew = 0 ∨ addrActual.toNat ≥ slaveIdLimit ∨
      addrNew.toNat ≥ slaveIdLimit) ∧
    addrActual ≠ addrNew

section Sends

variable {good : List UInt8 → Prop}

theorem sendsOnly_ping
    (acknowledges : ∀ bytes, IsAcknowledgement bytes → good bytes)
    (session : Session)
    (slaveId : UInt32)
    (sends :
      ¬ (slaveId = 0 ∨ slaveId > 127) →
        good
          (packetImage session.globalId ComType.ping.code
            slaveId.toUInt8 [])) :
    (ping session slaveId).SendsOnly good := by
  rw [ping]
  split
  · exact sendsOnly_shError _ _ _
  split
  · exact sendsOnly_shError _ _ _
  rename_i inRange
  refine
    (sendsOnly_psend session (craftable_of_none (by decide))
      (sends inRange)).bind fun sent => ?_
  dsimp only
  split
  · exact sendsOnly_shError _ _ _
  refine (sendsOnly_ask _).bind fun packRx =>
    (sendsOnly_precv acknowledges _ packRx).bind fun received => ?_
  split
  · exact sendsOnly_shError _ _ _
  split
  · trivial
  split
  · trivial
  · trivial

theorem sendsOnly_getSpeed
    (acknowledges : ∀ bytes, IsAcknowledgement bytes → good bytes)
    (session : Session)
    (motorId : UInt8)
    (sends :
      motorId ≠ 0 →
        good
          (packetImage session.globalId ComType.getSpeed.code motorId
            [])) :
    (getSpeed session motorId).SendsOnly good := by
  rw [getSpeed]
  split
  · exact sendsOnly_shError _ _ _
  split
  · exact sendsOnly_shError _ _ _
  rename_i nonzero
  refine
    (sendsOnly_psend session (craftable_of_none (by decide))
      (sends nonzero)).bind fun sent => ?_
  dsimp only
  split
  · exact sendsOnly_shError _ _ _
  refine (sendsOnly_ask _).bind fun response =>
    (sendsOnly_precv acknowledges _ response).bind fun received => ?_
  split
  · exact sendsOnly_shError _ _ _
  · trivial

/-- The body of a `SET_SPEED` packet. -/
theorem bodyBytes_speed (speed : DcRpm) :
    bodyBytes (some (Memory.store (fun _ => 0) 0 (rpmBytes speed))) 2 =
      rpmBytes speed :=
  Memory.bytes_store_self _ 0 (rpmBytes speed)

theorem sendsOnly_setSpeed
    (session : Session)
    (motorId : UInt8)
    (speed : DcRpm)
    (sends :
      motorId ≠ 0 →
        good
          (packetImage session.globalId ComType.setSpeed.code motorId
            (rpmBytes speed))) :
    (setSpeed session motorId speed).SendsOnly good := by
  rw [setSpeed]
  split
  · exact sendsOnly_shError _ _ _
  split
  · exact sendsOnly_shError _ _ _
  rename_i nonzero
  have permitted := sends nonzero
  rw [← bodyBytes_speed] at permitted
  refine
    (sendsOnly_psend session
      (craftable_of_body _ (by decide) (by decide)) permitted).bind
        fun sent => ?_
  dsimp only
  split
  · exact sendsOnly_shError _ _ _
  · trivial

/-- The body of a `SET_SLAVE_ADDR` packet. -/
theorem bodyBytes_addr (addr : UInt8) :
    bodyBytes (some fun _ => addr) 1 = [addr] :=
  rfl

theorem sendsOnly_setSlaveAddr
    (session : Session)
    (addrActual addrNew : UInt8)
    (sends :
      SendsPacketTo addrActual addrNew →
        good
          (packetImage session.globalId ComType.setSlaveAddr.code
            addrActual [addrNew])) :
    (setSlaveAddr session addrActual addrNew).SendsOnly good := by
  rw [setSlaveAddr]
  split
  · exact sendsOnly_shError _ _ _
  split
  · exact sendsOnly_shError _ _ _
  rename_i inRange
  split
  · trivial
  rename_i different
  have permitted := sends ⟨inRange, different⟩
  rw [← bodyBytes_addr] at permitted
  refine
    (sendsOnly_psend session
      (craftable_of_body _ (by decide) (by decide)) permitted).bind
        fun sent => ?_
  dsimp only
  split
  · exact sendsOnly_shError _ _ _
  · trivial

end Sends

/-! ## A session with a device that never answers -/

/-- The session of a client that is connected to descriptor 3. -/
def connectedSession : Session where
  globalId := 0
  avrFd := 3

/-- A device that takes every packet and says nothing. -/
def silentWorld : World signature Unit :=
  deviceWorld (fun _ => 0) []

theorem silentWorld_connected : Connected silentWorld 3 :=
  deviceWorld_connected (fun _ => 0) [] ⟨3, by decide⟩

/-- What a program has sent to the silent device. -/
def sentInSilence (program : ClientProg α) : List (List UInt8) :=
  (exec silentWorld program (Port.start [] ())).2.sent

/-- Without an answer, `psend` sends its packet and waits. -/
theorem exec_psend_silent
    (selector : UInt8)
    {type dataSize : UInt8}
    {data : Option Memory}
    (craftable : Craftable type data dataSize) :
    ∃ after,
      exec silentWorld
          (psend connectedSession type selector data dataSize)
          (Port.start [] ()) =
        (none, after) ∧
      after.sent =
        [packetImage 0 type selector (bodyBytes data dataSize)] := by
  obtain ⟨crafted, made, size, bytes⟩ :=
    craft_of_craftable crc
      (garbage silentWorld (Port.start (S := signature) [] ()).env) 0
      selector craftable
  have fits : dataSize.toNat ≤ 32 := craftable.fits
  have sendable : Sendable crafted := by
    refine ⟨fun empty => ?_, ?_⟩
    · rw [empty] at size
      cases size
    · rw [size]
      change dataSize.toNat + 5 ≤ 37
      omega
  have blocked :=
    exec_recvAttempt_short silentWorld_connected 0
      (garbage silentWorld ())
      (transmittedPacket (Port.start [] ())
        (crafted.bytes 0 (packetGetSize crafted).toNat) [] ())
      (Nat.succ_pos 3)
  have sent :=
    exec_communicationSend silentWorld_connected 0 sendable
      (Port.start [] ())
      (show
        silentWorld.react (crafted.bytes 0 (packetGetSize crafted).toNat)
          () = some ([], ()) from rfl)
  rw [blocked] at sent
  have whole :=
    (exec_communicationCraftAndSend silentWorld_connected made).trans sent
  exact
    ⟨_, exec_bind_of_stuck whole,
      congrArg (fun sent => [sent]) bytes⟩

/-- A command that waits in its `psend` has sent its packet. -/
theorem sentInSilence_psend
    {type selector dataSize : UInt8}
    {data : Option Memory}
    (craftable : Craftable type data dataSize)
    (next : Int × Session → ClientProg α) :
    sentInSilence
        (psend connectedSession type selector data dataSize >>= next) =
      [packetImage 0 type selector (bodyBytes data dataSize)] := by
  obtain ⟨after, waits, sent⟩ := exec_psend_silent selector craftable
  rw [sentInSilence, exec_bind_of_stuck waits]
  exact sent

/-! ## Values and what the conversions make of them -/

/-- A numeral that is an address is read as that address. -/
theorem IsAddress.value
    {writing : Notation}
    {argument : List UInt8}
    {addr : UInt8}
    (isAddress : IsAddress writing argument addr)
    {reading : Reading}
    (scanned : scan writing argument = some reading) :
    reading.value = addr.toNat := by
  obtain ⟨expected, same, value, _⟩ :=
    scan_append isAddress.denotes stops_nil
  rw [List.append_nil, scanned] at same
  cases same
  exact value

theorem IsAddress.range
    {writing : Notation}
    {argument : List UInt8}
    {addr : UInt8}
    (isAddress : IsAddress writing argument addr) :
    1 ≤ (addr.toNat : Int) ∧ (addr.toNat : Int) ≤ 126 := by
  have positive := isAddress.positive
  have limited : addr.toNat ≤ 126 := isAddress.limited
  omega

/-- `%hhu` stores zero exactly for these values. -/
theorem motorId_eq_zero_iff (reading : Reading) :
    UInt8.ofNat reading.strtoul = 0 ↔ ZeroByte reading.value := by
  rw [ZeroByte, ← strtoul_mod_eq_zero_iff, ← UInt8.toNat_inj,
    UInt8.toNat_ofNat']
  rfl

/-- `%hhu` keeps an address. -/
theorem motorId_of_address
    {reading : Reading}
    {addr : UInt8}
    (value : reading.value = addr.toNat)
    (range : 1 ≤ (addr.toNat : Int) ∧ (addr.toNat : Int) ≤ 126) :
    UInt8.ofNat reading.strtoul = addr := by
  have kept :=
    @strtoul_of_range reading (by omega) (by omega)
  have same : reading.strtoul = addr.toNat := by
    omega
  rw [same, UInt8.ofNat_toNat]

/-- What `ping` makes of a numeral. -/
theorem toNat_slaveId
    {argument : List UInt8}
    {reading : Reading}
    (scanned : scan .decimal argument = some reading) :
    ((atoi argument).toUInt32.toNat : Int) =
      narrowed reading.value 4294967296 := by
  have nonneg :
      0 ≤ narrowed reading.value 4294967296 :=
    Int.emod_nonneg _ (by decide)
  have converted :
      (atoi argument).toUInt32.toNat =
        (narrowed reading.value 4294967296).toNat := by
    rw [atoi, scanned]
    exact BitVec.toNat_ofInt reading.strtol
  rw [converted]
  exact Int.toNat_of_nonneg nonneg

/-- What `%hhi` makes of a numeral. -/
theorem toNat_address (reading : Reading) :
    (((Int8.ofInt reading.strtol).toUInt8).toNat : Int) =
      narrowed reading.value 256 := by
  have nonneg : 0 ≤ narrowed reading.value 256 :=
    Int.emod_nonneg _ (by decide)
  have converted :
      (Int8.ofInt reading.strtol).toUInt8.toNat =
        (narrowed reading.value 256).toNat :=
    BitVec.toNat_ofInt reading.strtol
  rw [converted]
  exact Int.toNat_of_nonneg nonneg

/-- `ping` refuses what its range test refuses. -/
theorem pingRefuses_iff
    {argument : List UInt8}
    {reading : Reading}
    (scanned : scan .decimal argument = some reading) :
    ((atoi argument).toUInt32 = 0 ∨ (atoi argument).toUInt32 > 127) ↔
      PingRefuses reading.value := by
  have value := toNat_slaveId scanned
  have zero : (0 : UInt32).toNat = 0 :=
    rfl
  have limit : (127 : UInt32).toNat = 127 :=
    rfl
  rw [PingRefuses, ← value, ← UInt32.toNat_inj, gt_iff_lt,
    UInt32.lt_iff_toNat_lt, zero, limit]
  omega

/-- `set_slave_addr` refuses what its range test refuses. -/
theorem addressRefused_iff (reading : Reading) :
    ((Int8.ofInt reading.strtol).toUInt8 = 0 ∨
        (Int8.ofInt reading.strtol).toUInt8.toNat ≥ slaveIdLimit) ↔
      AddressRefused reading.value := by
  have value := toNat_address reading
  have zero : (0 : UInt8).toNat = 0 :=
    rfl
  rw [AddressRefused, ← value, ← UInt8.toNat_inj, zero, slaveIdLimit]
  omega

/-! ## When the commands are honest -/

/-- A program that sends only what is permitted is honest. -/
theorem honest_of_sendsOnly
    {command : Addressing}
    {args : List (List UInt8)}
    (sends :
      ∀ session : Session,
        (command.exec session args).SendsOnly
          (Permitted command args session.globalId)) :
    Honest command args := by
  intro session ε world port fresh bytes member
  obtain ⟨added, sent, all⟩ := (sends session).exec world port
  rw [sent, fresh, List.nil_append] at member
  exact all bytes member

/-- An honest command that sends a packet was asked to. -/
theorem asks_of_sent
    {command : Addressing}
    {args : List (List UInt8)}
    (honest : Honest command args)
    {type selector : UInt8}
    {body : List UInt8}
    (sent :
      sentInSilence (command.exec connectedSession args) =
        [packetImage 0 type selector body])
    (ordinary : type ≠ ComType.ack.code ∧ type ≠ ComType.nak.code) :
    ∃ fields, Asks command args fields := by
  have member :
      packetImage 0 type selector body ∈
        (exec silentWorld (command.exec connectedSession args)
          (Port.start [] ())).2.sent := by
    rw [sentInSilence] at sent
    rw [sent]
    exact List.mem_singleton_self _
  rcases
    honest connectedSession Unit silentWorld (Port.start [] ()) rfl _
      member with
    ⟨id, same⟩ | ⟨fields, asks, _⟩
  · have types :
        type = ComType.ack.code ∨ type = ComType.nak.code := by
      simp only [packetImage, image, List.cons_append, List.cons.injEq]
        at same
      rcases same with positive | negative
      · exact Or.inl positive.2.1
      · exact Or.inr negative.2.1
    rcases types with ack | nak
    · exact absurd ack ordinary.1
    · exact absurd nak ordinary.2
  · exact ⟨fields, asks⟩

theorem honestPing_iff (argument : List UInt8) :
    Honest .ping [argument] ↔ InOrder .ping [argument] := by
  constructor
  · intro honest reading scanned
    by_cases refused : PingRefuses reading.value
    · exact Or.inl refused
    · right
      rw [← pingRefuses_iff scanned] at refused
      have opened : ¬ connectedSession.avrFd < 0 := by
        decide
      have sent :
          sentInSilence (Addressing.ping.exec connectedSession [argument]) =
            [packetImage 0 ComType.ping.code
              (atoi argument).toUInt32.toUInt8 []] := by
        rw [Addressing.exec, pingArgs, ping, if_neg opened,
          if_neg refused]
        exact sentInSilence_psend (craftable_of_none (by decide)) _
      obtain ⟨fields, asks⟩ := asks_of_sent honest sent (by decide)
      cases asks with
      | ping isAddress => exact ⟨_, isAddress⟩
  · intro inOrder
    refine honest_of_sendsOnly fun session => ?_
    refine
      sendsOnly_ping (fun _ => Or.inl) session (atoi argument).toUInt32
        fun accepted => ?_
    cases scanned : scan .decimal argument with
    | none =>
        refine absurd (Or.inl ?_) accepted
        rw [atoi, scanned]
        rfl
    | some reading =>
        rcases inOrder reading scanned with refused | ⟨addr, isAddress⟩
        · exact absurd ((pingRefuses_iff scanned).mpr refused) accepted
        · have value := toNat_slaveId scanned
          have range := isAddress.range
          rw [isAddress.value scanned, narrowed] at value
          have same : (atoi argument).toUInt32.toUInt8 = addr := by
            rw [← UInt8.toNat_inj, UInt32.toNat_toUInt8]
            omega
          rw [same]
          exact Or.inr ⟨_, .ping isAddress, rfl⟩

theorem honestGetSpeed_iff (argument : List UInt8) :
    Honest .getSpeed [argument] ↔ InOrder .getSpeed [argument] := by
  have opened : ¬ connectedSession.avrFd < 0 := by
    decide
  constructor
  · intro honest reading scanned
    by_cases refused : ZeroByte reading.value
    · exact Or.inl refused
    · right
      rw [← motorId_eq_zero_iff] at refused
      have sent :
          sentInSilence
              (Addressing.getSpeed.exec connectedSession [argument]) =
            [packetImage 0 ComType.getSpeed.code
              (UInt8.ofNat reading.strtoul) []] := by
        rw [Addressing.exec, getSpeedArgs, if_neg opened, sscanfMotor,
          scanned]
        dsimp only
        rw [if_neg (by decide), getSpeed, if_neg opened, if_neg refused]
        exact sentInSilence_psend (craftable_of_none (by decide)) _
      obtain ⟨fields, asks⟩ := asks_of_sent honest sent (by decide)
      cases asks with
      | getSpeed isAddress => exact ⟨_, isAddress⟩
  · intro inOrder
    refine honest_of_sendsOnly fun session => ?_
    rw [Addressing.exec, getSpeedArgs]
    dsimp only
    split
    · exact sendsOnly_shError _ _ _
    split
    · exact sendsOnly_shError _ _ _
    rename_i converted
    refine sendsOnly_getSpeed (fun _ => Or.inl) session _ fun accepted => ?_
    rw [sscanfMotor] at converted accepted ⊢
    cases scanned : scan .decimal argument with
    | none =>
        rw [scanned] at accepted
        exact absurd rfl accepted
    | some reading =>
        rw [scanned] at accepted
        rcases inOrder reading scanned with refused | ⟨addr, isAddress⟩
        · exact absurd ((motorId_eq_zero_iff reading).mpr refused) accepted
        · have same :=
            motorId_of_address (isAddress.value scanned) isAddress.range
          dsimp only
          rw [same]
          exact Or.inr ⟨_, .getSpeed isAddress, rfl⟩

/-- Both conversions succeed when there are numerals around the `=`. -/
theorem sscanfSpeed_of_numerals
    {argument later : List UInt8}
    {motor speed : Reading}
    (scanned : scan .decimal argument = some motor)
    (separated : motor.rest = 61 :: later)
    (scannedLater : scan .decimal later = some speed) :
    sscanfSpeed argument =
      (2, UInt8.ofNat motor.strtoul, Int16.ofInt speed.strtol) := by
  rw [sscanfSpeed, scanned]
  dsimp only
  rw [separated, List.head?_cons, if_neg (not_not.mpr rfl), List.tail_cons,
    scannedLater]

/-- And only then. -/
theorem numerals_of_sscanfSpeed
    {argument : List UInt8}
    (converted : (sscanfSpeed argument).1 = 2) :
    ∃ motor later speed,
      scan .decimal argument = some motor ∧ motor.rest = 61 :: later ∧
        scan .decimal later = some speed := by
  rw [sscanfSpeed] at converted
  cases scanned : scan .decimal argument with
  | none =>
      rw [scanned] at converted
      dsimp only at converted
      rw [scanFailure] at converted
      split at converted
      · cases converted
      · cases converted
  | some motor =>
      rw [scanned] at converted
      dsimp only at converted
      split at converted
      · cases converted
      rename_i separated
      cases rest : motor.rest with
      | nil =>
          rw [rest] at separated
          exact absurd (by rintro ⟨⟩) separated
      | cons c later =>
          rw [rest, List.head?_cons, not_not, Option.some.injEq]
            at separated
          subst separated
          rw [rest, List.tail_cons] at converted
          cases scannedLater : scan .decimal later with
          | none =>
              rw [scannedLater] at converted
              cases converted
          | some speed =>
              exact ⟨motor, later, speed, rfl, rest, scannedLater⟩

/-- Numerals in range are converted to the values that they stand for. -/
theorem sscanfSpeed_of_asked
    {left right : List UInt8}
    {addr : UInt8}
    {rpm : DcRpm}
    (isAddress : IsAddress .decimal left addr)
    (isSpeed : Denotes .decimal right rpm.toInt) :
    sscanfSpeed (left ++ 61 :: right) = (2, addr, rpm) := by
  have stops : Stops (61 :: right) := by
    rintro c ⟨⟩
    decide
  obtain ⟨motor, scanned, value, rest⟩ :=
    scan_append isAddress.denotes stops
  obtain ⟨speed, scannedLater, rpmValue, _⟩ :=
    scan_append isSpeed stops_nil
  rw [List.append_nil] at scannedLater
  have low := rpm.le_toInt
  have high := rpm.toInt_lt
  have kept : speed.strtol = rpm.toInt := by
    rw [strtol_of_range (by omega) (by omega), rpmValue]
  rw [sscanfSpeed_of_numerals scanned rest scannedLater,
    motorId_of_address value isAddress.range, kept, Int16.ofInt_toInt]

theorem honestSetSpeed_iff (argument : List UInt8) :
    Honest .setSpeed [argument] ↔ InOrder .setSpeed [argument] := by
  have opened : ¬ connectedSession.avrFd < 0 := by
    decide
  constructor
  · intro honest motor later speed scanned separated scannedLater
    by_cases refused : ZeroByte motor.value
    · exact Or.inl refused
    · right
      rw [← motorId_eq_zero_iff] at refused
      have sent :
          sentInSilence
              (Addressing.setSpeed.exec connectedSession [argument]) =
            [packetImage 0 ComType.setSpeed.code
              (UInt8.ofNat motor.strtoul)
              (rpmBytes (Int16.ofInt speed.strtol))] := by
        rw [Addressing.exec, setSpeedArgs, if_neg opened,
          sscanfSpeed_of_numerals scanned separated scannedLater]
        dsimp only
        rw [if_neg (by decide), setSpeed, if_neg opened, if_neg refused,
          ← bodyBytes_speed]
        exact
          sentInSilence_psend
            (craftable_of_body _ (by decide) (by decide)) _
      obtain ⟨fields, asks⟩ := asks_of_sent honest sent (by decide)
      generalize args : [argument] = list at asks
      cases asks with
      | @setSpeed left right addr rpm isAddress isSpeed =>
          cases args
          exact ⟨left, right, addr, rpm, rfl, isAddress, isSpeed⟩
  · intro inOrder
    refine honest_of_sendsOnly fun session => ?_
    rw [Addressing.exec, setSpeedArgs]
    dsimp only
    split
    · exact sendsOnly_shError _ _ _
    split
    · exact sendsOnly_shError _ _ _
    rename_i converted
    rw [not_or, not_not] at converted
    refine sendsOnly_setSpeed session _ _ fun accepted => ?_
    obtain ⟨motor, later, speed, scanned, separated, scannedLater⟩ :=
      numerals_of_sscanfSpeed converted.1
    rcases inOrder motor later speed scanned separated scannedLater with
      refused | ⟨left, right, addr, rpm, rfl, isAddress, isSpeed⟩
    · rw [sscanfSpeed_of_numerals scanned separated scannedLater]
        at accepted
      exact absurd ((motorId_eq_zero_iff motor).mpr refused) accepted
    · rw [sscanfSpeed_of_asked isAddress isSpeed]
      exact Or.inr ⟨_, .setSpeed isAddress isSpeed, rfl⟩

theorem sscanfAddress_of_scan
    {text : List UInt8}
    {addr : Reading}
    (scanned : scan .constant text = some addr) :
    sscanfAddress text = (1, (Int8.ofInt addr.strtol).toUInt8) := by
  rw [sscanfAddress, scanned]

/-- A conversion returns 1 only when there is a numeral. -/
theorem scan_or_nonpositive (text : List UInt8) :
    (∃ addr, scan .constant text = some addr) ∨
      (sscanfAddress text).1 ≤ 0 := by
  rw [sscanfAddress]
  cases scan .constant text with
  | none =>
      right
      dsimp only
      rw [scanFailure]
      split
      · decide
      · decide
  | some addr => exact Or.inl ⟨addr, rfl⟩

/-- Both conversions succeed when the return codes add up to two. -/
theorem addresses_of_sscanf
    {first second : List UInt8}
    (converted : (sscanfAddress first).1 + (sscanfAddress second).1 = 2) :
    ∃ actual new,
      scan .constant first = some actual ∧
        scan .constant second = some new := by
  have most : ∀ text, (sscanfAddress text).1 ≤ 1 := by
    intro text
    rcases scan_or_nonpositive text with ⟨addr, scanned⟩ | nonpositive
    · have one : (sscanfAddress text).1 = 1 :=
        congrArg Prod.fst (sscanfAddress_of_scan scanned)
      exact Int.le_of_eq one
    · omega
  have mostFirst := most first
  have mostSecond := most second
  rcases scan_or_nonpositive first with ⟨actual, scanned⟩ | nonpositive
  · rcases scan_or_nonpositive second with ⟨new, scannedNew⟩ | nonpositive
    · exact ⟨actual, new, scanned, scannedNew⟩
    · omega
  · omega

/-- Two addresses pass the tests exactly when their numerals are not refused. -/
theorem sendsPacketTo_iff (actual new : Reading) :
    SendsPacketTo (Int8.ofInt actual.strtol).toUInt8
        (Int8.ofInt new.strtol).toUInt8 ↔
      ¬ (AddressRefused actual.value ∨ AddressRefused new.value ∨
        narrowed actual.value 256 = narrowed new.value 256) := by
  have equal :
      (Int8.ofInt actual.strtol).toUInt8 =
          (Int8.ofInt new.strtol).toUInt8 ↔
        narrowed actual.value 256 = narrowed new.value 256 := by
    rw [← toNat_address, ← toNat_address, Int.natCast_inj,
      UInt8.toNat_inj]
  rw [SendsPacketTo, ← addressRefused_iff, ← addressRefused_iff, ← equal]
  tauto

/-- `%hhi` keeps an address. -/
theorem converted_of_address
    {writing : Notation}
    {argument : List UInt8}
    {addr : UInt8}
    (isAddress : IsAddress writing argument addr)
    {reading : Reading}
    (scanned : scan writing argument = some reading) :
    (Int8.ofInt reading.strtol).toUInt8 = addr := by
  have value := toNat_address reading
  have range := isAddress.range
  rw [isAddress.value scanned, narrowed] at value
  rw [← UInt8.toNat_inj]
  omega

theorem honestSetSlaveAddr_iff (first second : List UInt8) :
    Honest .setSlaveAddr [first, second] ↔
      InOrder .setSlaveAddr [first, second] := by
  have opened : ¬ connectedSession.avrFd < 0 := by
    decide
  constructor
  · intro honest actual new scanned scannedNew
    by_cases refused :
        AddressRefused actual.value ∨ AddressRefused new.value ∨
          narrowed actual.value 256 = narrowed new.value 256
    · exact Or.inl refused
    · right
      have passes := (sendsPacketTo_iff actual new).mpr refused
      have sent :
          sentInSilence
              (Addressing.setSlaveAddr.exec connectedSession
                [first, second]) =
            [packetImage 0 ComType.setSlaveAddr.code
              (Int8.ofInt actual.strtol).toUInt8
              [(Int8.ofInt new.strtol).toUInt8]] := by
        rw [Addressing.exec, setSlaveAddrArgs, if_neg opened,
          sscanfAddress_of_scan scanned, sscanfAddress_of_scan scannedNew]
        dsimp only
        rw [if_neg (by decide), setSlaveAddr, if_neg opened,
          if_neg passes.1, if_neg passes.2]
        exact
          sentInSilence_psend
            (craftable_of_body _ (by decide) (by decide)) _
      obtain ⟨fields, asks⟩ := asks_of_sent honest sent (by decide)
      cases asks with
      | setSlaveAddr isActual isNew =>
          exact ⟨⟨_, isActual⟩, _, isNew⟩
  · intro inOrder
    refine honest_of_sendsOnly fun session => ?_
    rw [Addressing.exec, setSlaveAddrArgs]
    dsimp only
    split
    · exact sendsOnly_shError _ _ _
    split
    · exact sendsOnly_shError _ _ _
    rename_i converted
    obtain ⟨actual, new, scanned, scannedNew⟩ :=
      addresses_of_sscanf (not_not.mp converted)
    refine sendsOnly_setSlaveAddr session _ _ fun accepted => ?_
    rw [sscanfAddress_of_scan scanned, sscanfAddress_of_scan scannedNew]
      at accepted ⊢
    rcases inOrder actual new scanned scannedNew with
      refused | ⟨⟨addrActual, isActual⟩, addrNew, isNew⟩
    · exact absurd refused ((sendsPacketTo_iff actual new).mp accepted)
    · dsimp only
      rw [converted_of_address isActual scanned,
        converted_of_address isNew scannedNew]
      exact Or.inr ⟨_, .setSlaveAddr isActual isNew, rfl⟩

/-- With another number of arguments the commands send nothing. -/
theorem honest_of_usage
    {command : Addressing}
    {args : List (List UInt8)}
    (usage :
      ∀ session : Session,
        command.exec session args = pure (1, session)) :
    Honest command args := by
  refine honest_of_sendsOnly fun session => ?_
  rw [usage session]
  trivial

/--
A command sends what its arguments ask for, and nothing else, exactly when its
arguments are in order: numerals out of range, or with something around them,
are narrowed to addresses and speeds that nobody asked for.
-/
theorem honest_iff
    (command : Addressing)
    (args : List (List UInt8)) :
    Honest command args ↔ InOrder command args := by
  cases args with
  | nil =>
      cases command with
      | _ => exact iff_of_true (honest_of_usage fun _ => rfl) trivial
  | cons first later =>
      cases later with
      | nil =>
          cases command with
          | ping => exact honestPing_iff first
          | getSpeed => exact honestGetSpeed_iff first
          | setSpeed => exact honestSetSpeed_iff first
          | setSlaveAddr =>
              exact iff_of_true (honest_of_usage fun _ => rfl) trivial
      | cons second others =>
          cases command with
          | setSlaveAddr =>
              cases others with
              | nil => exact honestSetSlaveAddr_iff first second
              | cons third others =>
                  exact iff_of_true (honest_of_usage fun _ => rfl) trivial
          | _ => exact iff_of_true (honest_of_usage fun _ => rfl) trivial

/-- `get-speed 261` asks motor 5 for its speed. -/
theorem getSpeed_261_not_honest :
    ¬ Honest .getSpeed [[50, 54, 49]] := by
  intro honest
  have scanned :
      scan .decimal [50, 54, 49] = some ⟨false, 261, []⟩ := by
    decide
  have inOrder := (honestGetSpeed_iff [50, 54, 49]).mp honest
  rcases inOrder _ scanned with ⟨_, _, zero⟩ | ⟨addr, isAddress⟩
  · exact absurd zero (by decide)
  · have value : (261 : Int) = addr.toNat :=
      isAddress.value scanned
    have range := isAddress.range
    omega

end Ammc.Client
