import Mathlib.Algebra.Group.Nat.Defs
import Mathlib.Data.List.Basic

namespace Ammc.Twi

/-!
# The two-wire interface of the microcontrollers

Status codes and control bits that the drivers of master and slaves share.
-/

/-- The status codes of the two-wire interface. -/
inductive Status where
  | start
  | repStart
  | mtSlaAck
  | mtSlaNack
  | mtDataAck
  | mtDataNack
  | arbLost
  | mrSlaAck
  | mrSlaNack
  | mrDataAck
  | mrDataNack
  | stSlaAck
  | stArbLostSlaAck
  | stDataAck
  | stDataNack
  | stLastData
  | srSlaAck
  | srArbLostSlaAck
  | srGcallAck
  | srArbLostGcallAck
  | srDataAck
  | srDataNack
  | srGcallDataAck
  | srGcallDataNack
  | srStop
  | noInfo
  | busError
  deriving Repr, DecidableEq

/-- The byte that stands for a status code. -/
def Status.code : Status → UInt8
  | .start => 0x08
  | .repStart => 0x10
  | .mtSlaAck => 0x18
  | .mtSlaNack => 0x20
  | .mtDataAck => 0x28
  | .mtDataNack => 0x30
  | .arbLost => 0x38
  | .mrSlaAck => 0x40
  | .mrSlaNack => 0x48
  | .mrDataAck => 0x50
  | .mrDataNack => 0x58
  | .stSlaAck => 0xA8
  | .stArbLostSlaAck => 0xB0
  | .stDataAck => 0xB8
  | .stDataNack => 0xC0
  | .stLastData => 0xC8
  | .srSlaAck => 0x60
  | .srArbLostSlaAck => 0x68
  | .srGcallAck => 0x70
  | .srArbLostGcallAck => 0x78
  | .srDataAck => 0x80
  | .srDataNack => 0x88
  | .srGcallDataAck => 0x90
  | .srGcallDataNack => 0x98
  | .srStop => 0xA0
  | .noInfo => 0xF8
  | .busError => 0x00

/-- `TW_SUCCESS`, which is no status code. -/
def success : UInt8 := 0xFF

/-- The bits of `TWCR` that the drivers write. -/
structure Control where
  twint : Bool
  twea : Bool
  twsta : Bool
  twsto : Bool
  twen : Bool
  twie : Bool
  deriving Repr, DecidableEq

/-- `_TW_ALL_ENABLED` -/
def allEnabled : Control where
  twint := true
  twea := false
  twsta := false
  twsto := false
  twen := true
  twie := true

/-- The value after the increment of a `size_t` of 16 bits. -/
def sizeSucc (size : Nat) : Nat :=
  (size + 1) % 2 ^ 16

@[simp] theorem sizeSucc_of_lt
    {size : Nat}
    (small : size < 2 ^ 16 - 1) :
    sizeSucc size = size + 1 :=
  Nat.mod_eq_of_lt (by omega)

end Ammc.Twi
