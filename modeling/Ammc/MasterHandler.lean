import Ammc.MasterOperations

namespace Ammc.Master

open ByteMemory Serial Packet

/-!
# The master's communication handler

`communication_handler` is a loop over the handler state.  One turn of the loop
is a program of its own, so that the handler can be followed turn by turn as
well as from its call to its return.
-/

/--
The variables of `communication_handler` that outlive a turn of its loop: the
static state, `packet_global_id` and the packet buffer.
-/
structure Handler where
  globalId : UInt8
  state : HandlerState
  rx : Memory

/-- What one turn of the loop leads to. -/
inductive Turn where
  | again (handler : Handler)
  | returned (handler : Handler)

/-- One turn of the `while` loop in `communication_handler`. -/
def communicationHandlerTurn (handler : Handler) : MasterProg Turn :=
  match handler.state with
  | .receiving => do
      if ¬ (← serialRxAvailable) then
        return .returned handler
      record .receiving
      let (error, rx) ← communicationRecv handler.globalId handler.rx
      record (.received error)
      if error ≠ .success then
        return .again { handler with state := .nak error, rx := rx }
      else if packetGetType rx = ComType.hnd.code then
        return .again { handler with state := .hnd, rx := rx }
      else
        return .again { handler with state := .ack, rx := rx }
  | .hnd =>
      return .again { handler with globalId := 0, state := .ack }
  | .ack => do
      communicationSend handler.globalId ComType.ack.code 0 0 none
      return .again
        { handler with
          globalId := packetGlobalIdIncrement handler.globalId
          state := .execute }
  | .nak error => do
      communicationSend handler.globalId ComType.nak.code error.code 0 none
      return .again { handler with globalId := 0, state := .receiving }
  | .execute =>
      match (comOperationTable[(packetGetType handler.rx).toNat]?).join with
      | some action => do
          let state ← action handler.globalId handler.rx
          return .again { handler with state := state }
      | none =>
          return .again { handler with state := .receiving }

/--
`communication_handler`, for at most `turns` turns of its loop.  The result is
the value of `action_performed` and the variables left behind, or `none` when
the turns did not suffice.
-/
def communicationHandler :
    Nat → Bool → Handler → MasterProg (Option (Bool × Handler))
  | 0, _, _ => return none
  | turns + 1, actionPerformed, handler => do
      match ← communicationHandlerTurn handler with
      | .returned handler => return some (actionPerformed, handler)
      | .again next =>
          communicationHandler turns
            (actionPerformed || handler.state = .receiving) next

end Ammc.Master
