import Mathlib.Data.List.Basic

namespace Ammc.DcMotor

/-!
# Speed values on the wire

`dc_rpm_t` is a signed 16-bit number.  Client, master and slave are
little-endian, so the low byte of a speed travels first.
-/

/-- `dc_rpm_t` -/
abbrev DcRpm := Int16

/-- The speed whose low and high bytes are given. -/
def rpmOfBytes (low high : UInt8) : DcRpm :=
  (UInt16.ofNat (low.toNat + 256 * high.toNat)).toInt16

/-- The bytes of a speed in memory. -/
def rpmBytes (speed : DcRpm) : List UInt8 :=
  [UInt8.ofNat (speed.toUInt16.toNat % 256),
    UInt8.ofNat (speed.toUInt16.toNat / 256)]

@[simp] theorem length_rpmBytes (speed : DcRpm) :
    (rpmBytes speed).length = 2 :=
  rfl

/-- A speed is determined by its two bytes. -/
theorem rpmOfBytes_rpmBytes (speed : DcRpm) :
    rpmOfBytes (UInt8.ofNat (speed.toUInt16.toNat % 256))
        (UInt8.ofNat (speed.toUInt16.toNat / 256)) =
      speed := by
  have bound := speed.toUInt16.toNat_lt
  have whole :
      (UInt8.ofNat (speed.toUInt16.toNat % 256)).toNat +
          256 * (UInt8.ofNat (speed.toUInt16.toNat / 256)).toNat =
        speed.toUInt16.toNat := by
    simp only [UInt8.toNat_ofNat']
    omega
  rw [rpmOfBytes, whole, UInt16.ofNat_toNat, Int16.toInt16_toUInt16]

/-- Any two bytes are the bytes of the speed they stand for. -/
theorem rpmBytes_rpmOfBytes (low high : UInt8) :
    rpmBytes (rpmOfBytes low high) = [low, high] := by
  have lowBound := low.toNat_lt
  have highBound := high.toNat_lt
  have whole :
      (UInt16.ofNat (low.toNat + 256 * high.toNat)).toNat =
        low.toNat + 256 * high.toNat := by
    simp only [UInt16.toNat_ofNat']
    omega
  have lowPart : (low.toNat + 256 * high.toNat) % 256 = low.toNat := by
    omega
  have highPart : (low.toNat + 256 * high.toNat) / 256 = high.toNat := by
    omega
  simp only [rpmBytes, rpmOfBytes, UInt16.toUInt16_toInt16, whole,
    lowPart, highPart, UInt8.ofNat_toNat]

end Ammc.DcMotor
