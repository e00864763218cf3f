import Ammc.FleetCommands
import Ammc.SlaveQueries
import Ammc.SlaveSchedule
import Ammc.SpeedReadout

namespace Ammc.Exchange

open ByteMemory Serial Packet DcMotor Slave WiredLine

/-!
# Reading a fleet

Slaves with the same address answer together.  The replies to a ping are all the
same, so a ping tells whether there is any slave with the address; the speed that
the client is told is what the speeds of all these slaves have in common, bit by
bit.
-/

/-! ## Speeds that are read together -/

instance leftIdentity_speed :
    Std.LawfulLeftIdentity
      (fun first second : DcRpm => first &&& second) (-1 : DcRpm) where
  left_id _ := Int16.neg_one_and

/-- The bits that some speeds have in common. -/
def commonSpeed (speeds : List DcRpm) : DcRpm :=
  common (fun first second => first &&& second) (-1) speeds

theorem lowByte_and (first second : DcRpm) :
    UInt8.ofNat ((first &&& second).toUInt16.toNat % 256) =
      UInt8.ofNat (first.toUInt16.toNat % 256) &&&
        UInt8.ofNat (second.toUInt16.toNat % 256) := by
  rw [Int16.toUInt16_and, UInt16.toNat_and, ← UInt8.ofNat_and]
  exact
    congrArg UInt8.ofNat
      (@Nat.and_mod_two_pow first.toUInt16.toNat second.toUInt16.toNat 8)

theorem highByte_and (first second : DcRpm) :
    UInt8.ofNat ((first &&& second).toUInt16.toNat / 256) =
      UInt8.ofNat (first.toUInt16.toNat / 256) &&&
        UInt8.ofNat (second.toUInt16.toNat / 256) := by
  rw [Int16.toUInt16_and, UInt16.toNat_and, ← UInt8.ofNat_and]
  exact
    congrArg UInt8.ofNat
      (@Nat.and_div_two_pow first.toUInt16.toNat second.toUInt16.toNat 8)

/-- What is read at one place of the replies of those who are concerned. -/
theorem busLevel_replies
    {ι : Type*}
    {concerned : ι → Prop}
    [DecidablePred concerned]
    {reply : ι → List UInt8}
    {byte : ι → UInt8}
    {index : Nat}
    (entry : ∀ driver, (reply driver)[index]? = some (byte driver))
    (drivers : List ι) :
    busLevel
        ((drivers.map fun driver =>
          if concerned driver then reply driver else []).map fun values =>
            values[index]?) =
      common (fun first second => first &&& second) 0xFF
        ((drivers.filter fun driver => concerned driver).map byte) := by
  have shown :
      ((fun values : List UInt8 => values[index]?) ∘ fun driver =>
          if concerned driver then reply driver else []) =
        fun driver =>
          if concerned driver then some (byte driver) else none := by
    funext driver
    rw [Function.comp_apply]
    split
    · exact entry driver
    · rfl
  rw [List.map_map, shown]
  exact
    @level_of_some _ (fun first second : UInt8 => first &&& second) 0xFF _ _
      concerned _ byte drivers

/-- The bytes of speeds that are read together. -/
theorem onBus_rpmBytes
    {ι : Type*}
    (concerned : ι → Prop)
    [DecidablePred concerned]
    (speed : ι → DcRpm)
    (drivers : List ι) :
    onBus 2
        (drivers.map fun driver =>
          if concerned driver then rpmBytes (speed driver) else []) =
      rpmBytes
        (commonSpeed
          ((drivers.filter fun driver => concerned driver).map speed)) := by
  have column :
      ∀ (index : Nat) (byte : DcRpm → UInt8),
        (∀ speed, (rpmBytes speed)[index]? = some (byte speed)) →
        (∀ first second : DcRpm,
          byte (first &&& second) = byte first &&& byte second) →
        byte (-1) = 0xFF →
        busLevel
            ((drivers.map fun driver =>
              if concerned driver then rpmBytes (speed driver)
              else []).map fun values => values[index]?) =
          byte
            (commonSpeed
              ((drivers.filter fun driver => concerned driver).map
                speed)) := by
    intro index byte entry both idle
    rw [commonSpeed, map_common both idle,
      @List.map_map _ _ _ byte speed]
    exact
      @busLevel_replies _ concerned _ (fun driver => rpmBytes (speed driver))
        _ index (fun driver => entry (speed driver)) drivers
  have low :=
    column 0 (fun speed => UInt8.ofNat (speed.toUInt16.toNat % 256))
      (fun _ => rfl) lowByte_and (by decide)
  have high :=
    column 1 (fun speed => UInt8.ofNat (speed.toUInt16.toNat / 256))
      (fun _ => rfl) highByte_and (by decide)
  change [busLevel _, busLevel _] = _
  rw [low, high]
  rfl

/-- The same byte from everybody who is concerned. -/
theorem onBus_same
    {ι : Type*}
    {concerned : ι → Prop}
    [DecidablePred concerned]
    {drivers : List ι}
    (somebody : (drivers.any fun driver => concerned driver) = true)
    (byte : UInt8) :
    onBus 1
        (drivers.map fun driver =>
          if concerned driver then [byte] else []) =
      [byte] := by
  obtain ⟨driver, member, hears⟩ := List.any_eq_true.mp somebody
  have agreed :
      ∀ other ∈
          (drivers.filter fun driver => concerned driver).map fun _ => byte,
        other = byte := by
    intro other inMapped
    obtain ⟨_, _, same⟩ := List.mem_map.mp inMapped
    exact same.symm
  have nonempty :
      ((drivers.filter fun driver => concerned driver).map fun _ => byte) ≠
        [] :=
    List.ne_nil_of_mem
      (List.mem_map_of_mem (List.mem_filter.mpr ⟨member, hears⟩))
  have column :=
    @busLevel_replies _ concerned _ (fun _ => [byte]) (fun _ => byte) 0
      (fun _ => rfl) drivers
  change [busLevel _] = _
  rw [column]
  exact congrArg (fun byte => [byte]) (common_of_agreed agreed nonempty)

/-! ## What the master makes of it -/

/-- An address, and the speed of a slave that has it. -/
abbrev Reading := UInt8 × DcRpm

/-- The address of a slave and its measured speed. -/
def reading (slave : Traced) : Reading :=
  (slave.address, slave.motor.speedActual)

/-- Some slave has the address. -/
def present
    (addr : UInt8)
    (readings : List Reading) : Bool :=
  readings.any fun reading => reading.1 = addr

/-- What the speeds under an address have in common. -/
def speedAt
    (addr : UInt8)
    (readings : List Reading) : DcRpm :=
  commonSpeed
    ((readings.filter fun reading => reading.1 = addr).map Prod.snd)

section Effects

variable (uninitialised : List Traced → Memory)
variable {slaves : List Traced}

/-- The master finds out whether a slave has the address. -/
theorem effect_ping_slaves
    (seated : ∀ slave ∈ slaves, Seated slave.address slave)
    {p : Memory}
    (type : packetGetType p = ComType.ping.code)
    {slaveId : UInt8}
    (addressed : packetGetSelector p = slaveId)
    (positive : 1 ≤ slaveId)
    (low : slaveId ≤ 127) :
    (Master.effect (tracedBus uninitialised) p slaves).1 =
        some
          ((if present slaveId (slaves.map reading) then
              ComError.success
            else
              ComError.slaveNotFound).code, []) ∧
      List.Forall₂ Keeps slaves
        (Master.effect (tracedBus uninitialised) p slaves).2 := by
  have notEcho : packetGetType p ≠ ComType.echo.code := by
    rw [type]
    decide
  have narrow :
      ∀ byte : UInt8, byte ≤ 127 → byte &&& 0x7F = byte :=
    forall_byte (by decide +kernel)
  have notGeneral : slaveId ≠ 0 := by
    rintro rfl
    exact absurd positive (by decide)
  have inRange : ¬ (slaveId = 0 ∨ slaveId > 127) := by
    rintro (zero | large)
    · exact notGeneral zero
    · exact absurd low (UInt8.not_le.mpr large)
  obtain ⟨bytes, keeps⟩ :=
    @query_slaves uninitialised slaves seated slaveId slaveId
      (narrow slaveId low) notGeneral (.ping slaveId)
      (fun _ => [slaveId]) (fun _ => rfl) 1 (fun _ => rfl) (by decide)
      (by decide)
  have known :
      present slaveId (slaves.map reading) =
        slaves.any fun slave => slave.address = slaveId := by
    rw [present, List.any_map]
    rfl
  have request : requestOf p = some (.ping slaveId) := by
    rw [requestOf, if_pos type, addressed, if_neg inRange]
  refine ⟨?_, by rw [effect_env, request]; exact keeps⟩
  rw [Master.effect, if_neg notEcho, if_pos type, addressed,
    if_neg inRange]
  dsimp only at bytes ⊢
  rw [known]
  cases somebody : slaves.any fun slave => slave.address = slaveId with
  | true =>
      rw [somebody, if_pos rfl, onBus_same somebody] at bytes
      exact
        congrArg (fun error : ComError => some (error.code, ([] : List UInt8)))
          (if_pos bytes)
  | false =>
      rw [somebody, if_neg Bool.false_ne_true] at bytes
      refine
        congrArg (fun error : ComError => some (error.code, ([] : List UInt8)))
          (if_neg ?_)
      intro same
      have impossible := bytes.symm.trans same
      cases impossible

/-- The master is told the common speed of the slaves with the address. -/
theorem effect_getSpeed_slaves
    (seated : ∀ slave ∈ slaves, Seated slave.address slave)
    {p : Memory}
    (type : packetGetType p = ComType.getSpeed.code)
    {motorId : UInt8}
    (addressed : packetGetSelector p = motorId)
    (notGeneral : motorId &&& 0x7F ≠ 0) :
    (∃ speed,
      (Master.effect (tracedBus uninitialised) p slaves).1 =
          some (motorId, rpmBytes speed) ∧
        (present (motorId &&& 0x7F) (slaves.map reading) = true →
          speed = speedAt (motorId &&& 0x7F) (slaves.map reading))) ∧
      List.Forall₂ Keeps slaves
        (Master.effect (tracedBus uninitialised) p slaves).2 := by
  have notEcho : packetGetType p ≠ ComType.echo.code := by
    rw [type]
    decide
  have notPing : packetGetType p ≠ ComType.ping.code := by
    rw [type]
    decide
  obtain ⟨bytes, keeps⟩ :=
    @query_slaves uninitialised slaves seated motorId _ rfl notGeneral
      .getSpeed (fun motor => rpmBytes motor.speedActual) (fun _ => rfl) 2
      (fun _ => rfl) (by decide) (by decide)
  have known :
      present (motorId &&& 0x7F) (slaves.map reading) =
        slaves.any fun slave => slave.address = motorId &&& 0x7F := by
    rw [present, List.any_map]
    rfl
  have common :
      speedAt (motorId &&& 0x7F) (slaves.map reading) =
        commonSpeed
          ((slaves.filter fun slave =>
            slave.address = motorId &&& 0x7F).map fun slave =>
              slave.motor.speedActual) := by
    rw [speedAt, List.filter_map, List.map_map]
    rfl
  have request : requestOf p = some (.getSpeed motorId) := by
    rw [requestOf, if_neg notPing, if_pos type, addressed]
  refine ⟨?_, by rw [effect_env, request]; exact keeps⟩
  rw [Master.effect, if_neg notEcho, if_neg notPing, if_pos type,
    addressed]
  dsimp only at bytes ⊢
  rw [known, common]
  cases somebody :
      slaves.any fun slave => slave.address = motorId &&& 0x7F with
  | true =>
      have together :=
        onBus_rpmBytes
          (fun slave : Traced => slave.address = motorId &&& 0x7F)
          (fun slave => slave.motor.speedActual) slaves
      rw [somebody, if_pos rfl, together] at bytes
      refine ⟨_, ?_, fun _ => rfl⟩
      refine congrArg (fun body => some (motorId, body)) ?_
      exact
        (congrArg
            (fun answer =>
              ((uninitialised slaves).store 0 answer).bytes 0 2) bytes).trans
          ((uninitialised slaves).bytes_store_self 0 _)
  | false =>
      rw [somebody, if_neg Bool.false_ne_true] at bytes
      refine
        ⟨rpmOfBytes (uninitialised slaves 0) (uninitialised slaves 1), ?_,
          fun missing => Bool.noConfusion missing⟩
      refine congrArg (fun body => some (motorId, body)) ?_
      rw [rpmBytes_rpmOfBytes]
      exact
        congrArg
          (fun answer =>
            ((uninitialised slaves).store 0 answer).bytes 0 2) bytes

end Effects

end Ammc.Exchange
