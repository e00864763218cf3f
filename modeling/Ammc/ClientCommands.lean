import Ammc.ClientCommunication
import Ammc.DcMotorSpeed

namespace Ammc.Client

open ByteMemory Serial Packet DcMotor

/-!
# The client's shell commands

Each command is modelled from the point where its arguments have been turned
into numbers.  Arguments that are used as text are the words of the command
line: the shell never hands over an empty word, and no word contains a NUL.
-/

/-- `SLAVE_ID_LIMIT` -/
def slaveIdLimit : Nat := 127

/-- A word of a command line. -/
structure Word where
  text : List UInt8
  nonempty : text ≠ []
  noNul : 0 ∉ text

/-- What the commands keep: `packet_global_id` and the storage's `avr_fd`. -/
structure Session where
  globalId : UInt8
  avrFd : Int
  deriving Repr, DecidableEq

/-- `sh_error` -/
def shError
    (session : Session)
    (code : Int)
    (message : String) : ClientProg (Int × Session) := do
  record (.failed code message)
  return (code, session)

/-- `psend`, with its return code and the session afterwards. -/
def psend
    (session : Session)
    (type selector : UInt8)
    (data : Option Memory)
    (dataSize : UInt8) : ClientProg (Int × Session) := do
  let sent ←
    communicationCraftAndSend session.globalId session.avrFd type
      selector data dataSize
  return (sent.code, { session with globalId := sent.globalId })

/-- `precv`, with its return code, the session and the packet afterwards. -/
def precv
    (session : Session)
    (p : Memory) : ClientProg (Int × Session × Memory) := do
  let (received, p) ←
    communicationRecv session.globalId session.avrFd p
  return (received.code,
    { session with globalId := received.globalId }, p)

/-- The second half of `connect`: the handshake. -/
def connectOver (session : Session) : ClientProg (Int × Session) := do
  let sent ← communicationConnect session.avrFd
  let session := { session with globalId := sent.globalId }
  if sent.code ≠ 0 then
    shError session 3 "Could not send a handshake packet"
  else
    return (0, session)

/-- `connect` -/
def connect
    (session : Session)
    (device : Word) : ClientProg (Int × Session) := do
  if session.avrFd > 0 then
    record (.warned "Open serial context found; reconnecting\n")
    connectOver session
  else
    let fd ← serialOpen device.text
    let session := { session with avrFd := fd }
    if fd < 0 then
      shError session 2 "Unable to connect to device"
    else
      connectOver session

/-- `disconnect` -/
def disconnect (session : Session) : ClientProg (Int × Session) := do
  if session.avrFd < 0 then
    shError session 2 "device is not connected"
  else
    let ret ← serialClose session.avrFd
    let session := { session with avrFd := -1 }
    if ret ≠ 0 then
      shError session 3 "Could not close device file descriptor"
    else
      return (0, session)

/-- The loop of `_prepare_echo_string`, with `str_len` characters in place. -/
def prepareEchoStringFrom
    (dest : Memory)
    (strLen : Nat) : List (List UInt8) → UInt8 × Memory
  | [] => (UInt8.ofNat strLen, dest.store strLen [0])
  | token :: tokens =>
      if (if strLen ≠ 0 then strLen + 1 else 0) + token.length ≥
          bodyMaxLen - 1 then
        (0xFF, dest)
      else if strLen ≠ 0 then
        prepareEchoStringFrom
          ((dest.store strLen [0x20]).store (strLen + 1) (token ++ [0]))
          (strLen + 1 + token.length) tokens
      else
        prepareEchoStringFrom
          (dest.store strLen (token ++ [0]))
          (strLen + token.length) tokens

/-- `_prepare_echo_string` -/
def prepareEchoString
    (dest : Memory)
    (args : List Word) : UInt8 × Memory :=
  prepareEchoStringFrom dest 0 (args.map Word.text)

/-- The characters of a string of which at most `limit` precede its NUL. -/
def cString
    (text : Memory)
    (limit : Nat) : List UInt8 :=
  (text.bytes 0 limit).takeWhile (· ≠ 0)

/-- `dev_echo` -/
def devEcho
    (session : Session)
    (args : List Word) : ClientProg (Int × Session) := do
  if args = [] then
    return (1, session)
  let str ← ask .uninitialised
  if session.avrFd < 0 then
    shError session 2 "Device is not connected"
  else
    let (strLen, str) := prepareEchoString str args
    if strLen.toNat > bodyMaxLen then
      shError session 2
        "Error: arguments must be at most 31 characters long in total\n"
    else
      let (code, session) ←
        psend session ComType.echo.code 0 (some str) strLen
      if code ≠ 0 then
        shError session 3 "Could not send the string to echo to device"
      else
        let packRx ← ask .uninitialised
        let (code, session, packRx) ← precv session packRx
        if code ≠ 0 then
          shError session 3
            "Could not receive the echo string back from the device"
        else if packetGetSize packRx ≠ 4 + strLen + 1 then
          shError session 2
            ("Error: The received packet is " ++
              toString (packetGetSize packRx) ++
              " bytes long, expected " ++
              toString (4 + strLen + 1) ++ "\n")
        else
          let body := (packetBody packRx).store strLen.toNat [0]
          record (.puts (cString body (strLen.toNat + 1)))
          return (0, session)

/-- `ping` -/
def ping
    (session : Session)
    (slaveId : UInt32) : ClientProg (Int × Session) := do
  if session.avrFd < 0 then
    shError session 2 "Device is not connected"
  else if slaveId = 0 ∨ slaveId > 127 then
    shError session 2 "Invalid Slave id"
  else
    let (code, session) ←
      psend session ComType.ping.code slaveId.toUInt8 none 0
    if code ≠ 0 then
      shError session 3 "Could not send char to Master"
    else
      let packRx ← ask .uninitialised
      let (code, session, packRx) ← precv session packRx
      if code ≠ 0 then
        shError session 3 "Could not receive response from Master"
      else
        let errCode := packetGetSelector packRx
        if errCode = ComError.success.code then
          record (.available slaveId.toUInt8)
          return (0, session)
        else if errCode = ComError.slaveNotFound.code then
          record (.unreachable slaveId.toUInt8)
          return (0, session)
        else
          record (.unexpected errCode)
          return (3, session)

/-- `get_speed` -/
def getSpeed
    (session : Session)
    (motorId : UInt8) : ClientProg (Int × Session) := do
  if session.avrFd < 0 then
    shError session 2 "Device is not connected"
  else if motorId = 0 then
    shError session 1 "Motor ID cannot be 0"
  else
    let (code, session) ←
      psend session ComType.getSpeed.code motorId none 0
    if code ≠ 0 then
      shError session 3 "Could not send GET_SPEED packet to Master"
    else
      let response ← ask .uninitialised
      let (code, session, response) ← precv session response
      if code ≠ 0 then
        shError session 3 "Could not receive Master response"
      else
        -- `*response->body` is one byte
        let speed : DcRpm := Int16.ofNat (packetBody response 0).toNat
        record (.speed motorId speed)
        return (0, session)

/-- `set_speed` -/
def setSpeed
    (session : Session)
    (motorId : UInt8)
    (speed : DcRpm) : ClientProg (Int × Session) := do
  if session.avrFd < 0 then
    shError session 2 "Device is not connected"
  else if motorId = 0 then
    shError session 1 "Motor ID cannot be 0"
  else
    let (code, session) ←
      psend session ComType.setSpeed.code motorId
        (some (Memory.store (fun _ => 0) 0 (rpmBytes speed))) 2
    if code ≠ 0 then
      shError session 3 "Could not send SET_SPEED packet to Master"
    else
      return (0, session)

/-- `apply` -/
def apply (session : Session) : ClientProg (Int × Session) := do
  if session.avrFd < 0 then
    shError session 2 "Device is not connected"
  else
    let (code, session) ← psend session ComType.apply.code 0 none 0
    if code ≠ 0 then
      shError session 3 "Could not send APPLY packet to Master"
    else
      return (0, session)

/-- `set_slave_addr` -/
def setSlaveAddr
    (session : Session)
    (addrActual addrNew : UInt8) : ClientProg (Int × Session) := do
  if session.avrFd < 0 then
    shError session 2 "Device is not connected"
  else if addrActual = 0 ∨ addrNew = 0 ∨
      addrActual.toNat ≥ slaveIdLimit ∨
      addrNew.toNat ≥ slaveIdLimit then
    shError session 1 "Addresses must be between 1 and 126\n"
  else if addrActual = addrNew then
    return (0, session)
  else
    let (code, session) ←
      psend session ComType.setSlaveAddr.code addrActual
        (some fun _ => addrNew) 1
    if code ≠ 0 then
      shError session 3 "Could not send packet to Master"
    else
      return (0, session)

/-- A command of the client's shell with its arguments. -/
inductive Command where
  | connect (device : Word)
  | disconnect
  | devEcho (args : List Word)
  | ping (slaveId : UInt32)
  | getSpeed (motorId : UInt8)
  | setSpeed (motorId : UInt8) (speed : DcRpm)
  | apply
  | setSlaveAddr (addrActual addrNew : UInt8)

/-- The entry of `_shell_commands` for a command. -/
def Command.exec
    (session : Session) : Command → ClientProg (Int × Session)
  | .connect device => Client.connect session device
  | .disconnect => Client.disconnect session
  | .devEcho args => Client.devEcho session args
  | .ping slaveId => Client.ping session slaveId
  | .getSpeed motorId => Client.getSpeed session motorId
  | .setSpeed motorId speed => Client.setSpeed session motorId speed
  | .apply => Client.apply session
  | .setSlaveAddr addrActual addrNew =>
      Client.setSlaveAddr session addrActual addrNew

end Ammc.Client
