import Likeness.Decimal.Numeral
import Likeness.Proofs.Decimal.Doubles
import Mathlib

/-! # Doubles and their bits

    A double is known by its bits, and of those that are not a number there is one
    only.  So the reading of a double says which double it is. -/

namespace Likeness.Decimal

/-- A finite double is made of the bits of its magnitude and its sign. -/
theorem Reading.ofFloat_finite {x : Float} {negative : Bool} {m : Binary}
    (h : Reading.ofFloat x = .finite negative m) :
    (m.mantissa = 0 ∧ m.bits = 0 ∨ m.Valid) ∧
      Float.ofBits (UInt64.ofNat (if negative then m.bits + twoTo 63 else m.bits)) = x := by
  obtain ⟨hvalid, hbits⟩ := Reading.ofBits_finite x.toBits.toNat_lt h
  refine ⟨hvalid, ?_⟩
  rw [← hbits, UInt64.ofNat_toNat, Float.ofBits_toBits]

/-- Doubles are equal when their bits, as a natural, are. -/
theorem eq_of_toNat_toBits {x y : Float} (h : x.toBits.toNat = y.toBits.toNat) : x = y :=
  Float.toBits_inj.mp (UInt64.toNat_inj.mp h)

theorem Reading.ofBits_infinite {bits : Nat} (hbits : bits < 2 ^ 64) {negative : Bool}
    (h : Reading.ofBits bits = .infinite negative) :
    bits = if negative then 0xFFF0000000000000 else 0x7FF0000000000000 := by
  have h52 : twoTo 52 = 4503599627370496 := rfl
  have h63 : twoTo 63 = 9223372036854775808 := rfl
  have h11 : twoTo 11 = 2048 := rfl
  unfold Reading.ofBits at h
  rw [h52, h63, h11] at h
  dsimp only at h
  split_ifs at h with hspecial hinfinite
  obtain rfl := Reading.infinite.inj h
  split_ifs with hnegative
  · have := of_decide_eq_true hnegative
    omega
  · have := mt decide_eq_true hnegative
    omega

/-- An infinite double is one of two. -/
theorem Reading.ofFloat_infinite {x : Float} {negative : Bool}
    (h : Reading.ofFloat x = .infinite negative) :
    x = if negative then -infinity else infinity := by
  have hbits := Reading.ofBits_infinite x.toBits.toNat_lt h
  refine eq_of_toNat_toBits (hbits.trans ?_)
  cases negative with
  | true => decide +kernel
  | false => decide +kernel

theorem Reading.ofBits_nan {bits : Nat} (h : Reading.ofBits bits = .nan) :
    bits / 4503599627370496 % 2048 = 2047 ∧ bits % 4503599627370496 ≠ 0 := by
  unfold Reading.ofBits at h
  dsimp only at h
  split_ifs at h with hspecial hinfinite
  exact ⟨hspecial, hinfinite⟩

/-- There is one double that is not a number. -/
theorem Reading.ofFloat_nan {x : Float} (h : Reading.ofFloat x = .nan) : x = 0 / 0 := by
  obtain ⟨hfield, hfraction⟩ := Reading.ofBits_nan h
  have hexponent : @Float.Model.UnpackedFloat.unpackExponent Float.Model.Format.binary64
      x.toBits.toBitVec = -1#11 := by
    rw [Float.Model.UnpackedFloat.unpackExponent_def]
    refine BitVec.eq_of_toNat_eq ?_
    rw [BitVec.extractLsb'_toNat, Nat.shiftRight_eq_div_pow]
    exact hfield
  have hmantissa : @Float.Model.UnpackedFloat.unpackMantissa Float.Model.Format.binary64
      x.toBits.toBitVec ≠ 0#52 := by
    rw [Float.Model.UnpackedFloat.unpackMantissa_def]
    intro hzero
    have hnat := congrArg BitVec.toNat hzero
    rw [BitVec.extractLsb'_toNat] at hnat
    exact hfraction hnat
  have hbits := x.toModel.valid.eq_packedNaN hexponent hmantissa
  have hnat : x.toBits.toNat = 0x7FF8000000000000 := congrArg BitVec.toNat hbits
  exact eq_of_toNat_toBits (hnat.trans (by decide +kernel))

end Likeness.Decimal
