import Mathlib.Data.List.Nodup
import Ammc.DrainedSession
import Ammc.SlaveTransfers

namespace Ammc.Exchange

open ByteMemory Serial Packet DcMotor Slave

/-!
# Reading the speed of a motor

A speed passes from the slave's `speed_actual` over the two-wire bus to the
master, and from there in a `DAT` packet to the client.  All four conversions
keep the two bytes of the speed but the last one: the client prints
`*response->body`, which is the low byte alone.
-/

/-- The speeds that the client has printed, with their motor ids. -/
def spoken (log : ClientLog) : List (UInt8 × DcRpm) :=
  log.filterMap fun entry =>
    match entry.event with
    | .speed motorId rpm => some (motorId, rpm)
    | _ => none

/-- What the client makes of the bytes of a speed. -/
def readout (speed : DcRpm) : DcRpm :=
  Int16.ofNat (speed.toUInt16.toNat % 256)

/-- The low byte of a speed is the speed itself from 0 to 255. -/
theorem readout_eq_iff (speed : DcRpm) :
    readout speed = speed ↔ 0 ≤ speed ∧ speed ≤ 255 := by
  have value :
      speed.toInt =
        if 2 * speed.toUInt16.toNat < 2 ^ 16 then
          (speed.toUInt16.toNat : Int)
        else
          speed.toUInt16.toNat - (2 ^ 16 : Nat) :=
    BitVec.toInt_eq_toNat_cond speed.toBitVec
  have low :
      (Int16.ofNat (speed.toUInt16.toNat % 256)).toInt =
        ((speed.toUInt16.toNat % 256 : Nat) : Int) :=
    Int16.toInt_ofNat_of_lt (by omega)
  have zero : (0 : DcRpm).toInt = 0 :=
    rfl
  have largest : (255 : DcRpm).toInt = 255 :=
    rfl
  have bound := speed.toUInt16.toNat_lt
  rw [readout, ← Int16.toInt_inj, Int16.le_iff_toInt_le,
    Int16.le_iff_toInt_le, low, value, zero, largest]
  split
  · omega
  · omega

/--
Slaves that wait for a command, with addresses that differ from each other.
-/
structure Quiet (network : Network) : Prop where
  armed : ∀ node ∈ network, Armed node
  distinct : (network.map Node.address).Nodup

/-- The slaves around the one with a given address take no part. -/
theorem Quiet.allDeaf
    {before after : List Node}
    {node : Node}
    (quiet : Quiet (before ++ node :: after)) :
    AllDeaf node.address before after := by
  have distinct := quiet.distinct
  rw [List.map_append, List.map_cons, List.nodup_middle,
    List.nodup_cons] at distinct
  intro other member
  refine ⟨(quiet.armed other ?_).phase, fun same => distinct.1 ?_⟩
  · rcases List.mem_append.mp member with front | back
    · exact List.mem_append_left _ front
    · exact List.mem_append_right _ (List.mem_cons_of_mem _ back)
  · rw [same, ← List.map_append]
    exact List.mem_map_of_mem member

theorem Quiet.settle
    {before after : List Node}
    {node : Node}
    (quiet : Quiet (before ++ node :: after))
    (next : Node) :
    (before ++ next :: after).map Node.settle =
      before ++ next.settle :: after := by
  refine map_around (fun other member => Armed.settle ?_) next
  refine quiet.armed other ?_
  rcases List.mem_append.mp member with front | back
  · exact List.mem_append_left _ front
  · exact List.mem_append_right _ (List.mem_cons_of_mem _ back)

section Readout

variable (uninitialised : Network → Memory)
variable (host : Host Network)

/-- The slave with the address answers a speed request with its speed. -/
theorem read_speed
    {before after : List Node}
    {node : Node}
    (quiet : Quiet (before ++ node :: after))
    (nonzero : node.address ≠ 0) :
    (Network.read node.address 2
      ((Network.write node.address [Master.CommandId.getSpeed.code]
        (before ++ node :: after)).map Node.settle)).1 =
      rpmBytes node.controller.motor.speedActual := by
  have armed := quiet.armed node (by simp)
  have deaf := quiet.allDeaf
  have acksWrite : node.acksWrite node.address = true := by
    simp [Node.acksWrite, armed.twea, nonzero]
  obtain ⟨received, keptWrite⟩ :=
    armed.write acksWrite [Master.CommandId.getSpeed.code] (by decide)
  obtain ⟨replying, keptSettle⟩ := received.settle_getSpeed
  have kept := keptSettle.trans keptWrite
  have sampled :
      (node.write node.address
        [Master.CommandId.getSpeed.code]).controller.motor =
        node.controller.motor :=
    congrArg Prod.fst keptWrite
  have sameAddress :
      (node.write node.address
        [Master.CommandId.getSpeed.code]).settle.address =
        node.address :=
    congrArg
      (fun state : Motor × UInt8 => state.2 >>> (1 : UInt8)) kept
  rw [sampled] at replying
  have acksRead :
      ((node.write node.address
        [Master.CommandId.getSpeed.code]).settle).acksRead
        node.address = true := by
    simp [Node.acksRead, replying.twea, nonzero, sameAddress]
  rw [deaf.write nonzero, quiet.settle, deaf.read]
  exact (replying.read acksRead (by simp [rpmBytes]) (by simp)).1

/-- The two bytes of the speed arrive at the master. -/
theorem effect_getSpeed_bus
    {network : Network}
    (quiet : Quiet network)
    {node : Node}
    (member : node ∈ network)
    {p : Memory}
    (type : packetGetType p = ComType.getSpeed.code)
    (addressed : packetGetSelector p = node.address)
    (nonzero : node.address ≠ 0)
    (small : node.address ≤ 126) :
    (Master.effect (Network.bus uninitialised) p network).1 =
      some (node.address,
        rpmBytes node.controller.motor.speedActual) := by
  have notEcho : packetGetType p ≠ ComType.echo.code := by
    rw [type]
    decide
  have notPing : packetGetType p ≠ ComType.ping.code := by
    rw [type]
    decide
  obtain ⟨before, after, rfl⟩ := List.append_of_mem member
  have bytes := read_speed quiet nonzero
  rw [Master.effect, if_neg notEcho, if_neg notPing, if_pos type]
  simp only [Network.bus, addressed, and_0x7F small, bytes]
  have stored :=
    (uninitialised (before ++ node :: after)).bytes_store_self 0
      (rpmBytes node.controller.motor.speedActual)
  rw [length_rpmBytes] at stored
  rw [stored]

/-- The client prints the low byte of the speed. -/
theorem exec_getSpeed_bus
    {session : Client.Session}
    {port : Port Client.signature (Station Network)}
    (ready : Ready session.globalId port)
    (connected : session.avrFd = host.device.number)
    (quiet : Quiet port.env.port.env)
    {node : Node}
    (member : node ∈ port.env.port.env)
    (nonzero : node.address ≠ 0)
    (small : node.address ≤ 126) :
    ∃ last after,
      exec (drainedWorld (Network.bus uninitialised) .clear host)
          (Client.getSpeed session node.address) port =
        (some (0, last), after) ∧
      spoken after.log =
        spoken port.log ++
          [(node.address,
            readout node.controller.motor.speedActual)] := by
  have craftable : Craftable ComType.getSpeed.code none 0 :=
    craftable_of_none (by decide)
  have replied :=
    effect_getSpeed_bus uninitialised quiet member
      (sentFrame_type session.globalId node.address craftable
        port.env.handler.rx)
      (sentFrame_selector session.globalId node.address craftable
        port.env.handler.rx)
      nonzero small
  have fits :
      (rpmBytes node.controller.motor.speedActual).length ≤
        bodyMaxLen := by
    rw [length_rpmBytes]
    decide
  rw [Client.getSpeed, if_neg (host.device.opened connected), if_neg nonzero,
    exec_bind_of_done
      (exec_psend_clear (Network.bus uninitialised) host session
        connected node.address craftable port ready.idle
        (ready.agree (by decide)))]
  simp only [ne_eq, not_true_eq_false, ↓reduceIte]
  rw [exec_bind_of_done
      (Client.exec_uninitialised
        (drainedWorld_connected (Network.bus uninitialised) .clear host)
        _),
    exec_bind_of_done
      (exec_exchange (Network.bus uninitialised) host ready connected
        node.address craftable (by decide) fits (by simp [Master.txBufferSize])
        replied _)]
  simp only [not_true_eq_false, ↓reduceIte]
  have body :=
    body_datFrame (advanced session).globalId node.address fits
      (Client.garbage
        (drainedWorld (Network.bus uninitialised) .clear host)
        (portSent (Network.bus uninitialised) port session.globalId
          node.address craftable).env)
  have low := congrArg (fun bytes => bytes.headD 0) body
  change
    packetBody _ 0 =
      UInt8.ofNat
        (node.controller.motor.speedActual.toUInt16.toNat % 256) at low
  have shown :
      Int16.ofNat
          (UInt8.ofNat
            (node.controller.motor.speedActual.toUInt16.toNat %
              256)).toNat =
        readout node.controller.motor.speedActual := by
    rw [readout, UInt8.toNat_ofNat', Nat.mod_mod]
  refine ⟨_, _, rfl, ?_⟩
  rw [low, shown]
  simp [spoken, portAcknowledged, portReceived, portSent, portAnswered,
    Port.noted, Client.portChecked, Client.transmittedPacket,
    Port.transmitted, Port.flushed]

/-- `get-speed` completes and prints the given speed. -/
def SpeedPrinted
    (session : Client.Session)
    (motorId : UInt8)
    (speed : DcRpm)
    (port : Port Client.signature (Station Network)) : Prop :=
  ∃ last after,
    exec (drainedWorld (Network.bus uninitialised) .clear host)
        (Client.getSpeed session motorId) port =
      (some (0, last), after) ∧
    spoken after.log = spoken port.log ++ [(motorId, speed)]

/--
Whatever id both sides have reached: the printed number is the speed that the
slave holds exactly when that speed is a number from 0 to 255.
-/
theorem getSpeed_prints_iff
    {session : Client.Session}
    {port : Port Client.signature (Station Network)}
    (ready : Ready session.globalId port)
    (connected : session.avrFd = host.device.number)
    (quiet : Quiet port.env.port.env)
    {node : Node}
    (member : node ∈ port.env.port.env)
    (nonzero : node.address ≠ 0)
    (small : node.address ≤ 126) :
    SpeedPrinted uninitialised host session node.address
        node.controller.motor.speedActual port ↔
      0 ≤ node.controller.motor.speedActual ∧
        node.controller.motor.speedActual ≤ 255 := by
  obtain ⟨last, after, run, printed⟩ :=
    exec_getSpeed_bus uninitialised host ready connected quiet member
      nonzero small
  rw [← readout_eq_iff]
  constructor
  · rintro ⟨_, _, same, asked⟩
    rw [run] at same
    cases same
    rw [printed] at asked
    have entry := (List.append_inj asked rfl).2
    rw [List.cons.injEq, Prod.mk.injEq] at entry
    exact entry.1.2
  · intro same
    rw [same] at printed
    exact ⟨last, after, run, printed⟩

end Readout

/-- A slave at address 5 that waits for a command, with a sampled speed. -/
def slaveFive (speed : DcRpm) : Node where
  controller :=
    let started := mainStep (setup 5 fun _ => 0)
    { started with
      motor := { started.motor with speedActual := speed } }
  phase := .released

theorem quiet_slaveFive (speed : DcRpm) : Quiet [slaveFive speed] where
  armed node member := by
    rw [List.mem_singleton.mp member]
    exact ⟨⟨rfl, rfl, rfl, rfl⟩, rfl⟩
  distinct := List.nodup_singleton _

theorem address_slaveFive (speed : DcRpm) :
    (slaveFive speed).address = 5 := by
  change (((5 : UInt8) <<< (1 : UInt8)) ||| 1) >>> (1 : UInt8) = 5
  decide

/-- A computer that is connected to a master with slaves. -/
def slaveHost : Host Network where
  device := plainHost.device
  uninitialised _ := fun _ => 0

/-- A speed of 100 is printed as such. -/
theorem getSpeed_prints_hundred :
    SpeedPrinted (fun _ _ => 0) slaveHost ⟨7, 3⟩ 5 100
        (freshPort 7 (fun _ => 0) [slaveFive 100]) ↔
      (0 : DcRpm) ≤ 100 ∧ (100 : DcRpm) ≤ 255 := by
  have printed :=
    getSpeed_prints_iff (fun _ _ => 0) slaveHost
      (show
        Ready (⟨7, 3⟩ : Client.Session).globalId
          (freshPort 7 (fun _ => 0) [slaveFive 100]) from
        ⟨⟨rfl, rfl⟩, rfl⟩)
      rfl (quiet_slaveFive 100)
      (show slaveFive 100 ∈ [slaveFive 100] from
        List.mem_singleton_self _)
      (by rw [address_slaveFive]; decide)
      (by rw [address_slaveFive]; decide)
  rw [address_slaveFive] at printed
  exact printed

/-- A speed of -1 is printed as 255. -/
theorem negativeSpeed_misprinted :
    ¬ SpeedPrinted (fun _ _ => 0) slaveHost ⟨7, 3⟩ 5 (-1)
        (freshPort 7 (fun _ => 0) [slaveFive (-1)]) := by
  rintro ⟨_, _, same, asked⟩
  obtain ⟨last, after, run, printed⟩ :=
    exec_getSpeed_bus (fun _ _ => 0) slaveHost
      (show
        Ready (⟨7, 3⟩ : Client.Session).globalId
          (freshPort 7 (fun _ => 0) [slaveFive (-1)]) from
        ⟨⟨rfl, rfl⟩, rfl⟩)
      rfl (quiet_slaveFive (-1))
      (show slaveFive (-1) ∈ [slaveFive (-1)] from
        List.mem_singleton_self _)
      (by rw [address_slaveFive]; decide)
      (by rw [address_slaveFive]; decide)
  rw [address_slaveFive] at run printed
  rw [run] at same
  cases same
  rw [printed] at asked
  have entry := (List.append_inj asked rfl).2
  rw [List.cons.injEq, Prod.mk.injEq] at entry
  have misread : readout (-1) = 255 := by
    decide
  exact absurd (misread.symm.trans entry.1.2) (by decide)

end Ammc.Exchange
