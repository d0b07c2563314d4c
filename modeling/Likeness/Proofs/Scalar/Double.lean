import Likeness.Scalar
import Mathlib.Algebra.Order.Ring.Int

/-! # Quotients as doubles

    A quotient has a double nearest to it unless it is beyond the largest one.
    The bound that is proved here is far below that, and far above any count
    of characters. -/

namespace Likeness.Decimal

/-- Rounding adds at most one. -/
theorem roundHalfEven_le (num den : Nat) : roundHalfEven num den ≤ num / den + 1 := by
  unfold roundHalfEven
  dsimp only
  split_ifs <;> omega

/-- The exponent of a quotient below a power of two is at least 53 below the places of the
    leading bits, and it is below the power. -/
theorem exponentFor_bounds {num den : Nat} (hlog : Nat.log2 num ≤ Nat.log2 den + 200) :
    (Nat.log2 num : Int) - Nat.log2 den - 53 ≤ Binary.exponentFor num den ∧
      Binary.exponentFor num den ≤ 148 := by
  unfold Binary.exponentFor
  dsimp only
  split_ifs <;> omega

/-- At that exponent the mantissa has at most 54 bits before it is rounded. -/
theorem mantissa_lt {num den : Nat} (hden : 0 < den) {q : Int}
    (hq : (Nat.log2 num : Int) - Nat.log2 den - 53 ≤ q) :
    num * twoTo (-q).toNat / (den * twoTo q.toNat) < twoTo 54 := by
  have hnum : num < 2 ^ (Nat.log2 num + 1) := Nat.lt_log2_self
  have hlog : 2 ^ Nat.log2 den ≤ den := Nat.log2_self_le hden.ne'
  refine (Nat.div_lt_iff_lt_mul (Nat.mul_pos hden (Nat.pow_pos (by decide)))).mpr ?_
  have hexponent : Nat.log2 num + 1 + (-q).toNat ≤ 54 + (Nat.log2 den + q.toNat) := by omega
  calc num * twoTo (-q).toNat
      < 2 ^ (Nat.log2 num + 1) * 2 ^ (-q).toNat :=
        Nat.mul_lt_mul_of_pos_right hnum (Nat.pow_pos (by decide))
    _ = 2 ^ (Nat.log2 num + 1 + (-q).toNat) := (Nat.pow_add _ _ _).symm
    _ ≤ 2 ^ (54 + (Nat.log2 den + q.toNat)) := Nat.pow_le_pow_right (by decide) hexponent
    _ = 2 ^ 54 * (2 ^ Nat.log2 den * 2 ^ q.toNat) := by rw [Nat.pow_add, Nat.pow_add]
    _ ≤ twoTo 54 * (den * twoTo q.toNat) :=
        Nat.mul_le_mul_left _ (Nat.mul_le_mul_right _ hlog)

/-- A quotient below a power of two has a nearest double. -/
theorem bitsOfRatio?_isSome {num den : Nat} (hden : 0 < den) (h : num < den * twoTo 200) :
    (Binary.bitsOfRatio? num den).isSome = true := by
  unfold Binary.bitsOfRatio?
  by_cases hzero : num = 0
  · simp [hzero]
  · have hlog : Nat.log2 num ≤ Nat.log2 den + 200 := by
      refine Nat.lt_succ_iff.mp ((Nat.log2_lt hzero).mpr ?_)
      calc num < den * 2 ^ 200 := h
        _ ≤ 2 ^ (Nat.log2 den + 1) * 2 ^ 200 := Nat.mul_le_mul_right _ Nat.lt_log2_self.le
        _ = 2 ^ (Nat.log2 den + 200 + 1) := by rw [← Nat.pow_add, Nat.add_right_comm]
    generalize hq : Binary.exponentFor num den = q
    have hbounds := exponentFor_bounds hlog
    rw [hq] at hbounds
    have hmantissa := mantissa_lt hden hbounds.1
    have hround := roundHalfEven_le (num * twoTo (-q).toNat) (den * twoTo q.toNat)
    have hexponent : ((q + 1074) * (twoTo 52 : Nat)).toNat ≤ 1222 * twoTo 52 := by
      have hle : (q + 1074) * (twoTo 52 : Nat) ≤ 1222 * (twoTo 52 : Nat) :=
        mul_le_mul_of_nonneg_right (by omega) (Int.natCast_nonneg _)
      omega
    have hfits : ((q + 1074) * (twoTo 52 : Nat)).toNat
        + roundHalfEven (num * twoTo (-q).toNat) (den * twoTo q.toNat) < 2047 * twoTo 52 := by
      have hsize : twoTo 54 = 4 * twoTo 52 := by decide
      have hpos : 1 ≤ twoTo 52 := by decide
      omega
    rw [if_neg hzero, if_pos hfits]
    rfl

end Likeness.Decimal

namespace Likeness.Scalar

/-- A quotient below a power of two is a number of the formulas. -/
theorem nearest?_double {num : Int} {den : Nat} (hden : 0 < den)
    (h : num.natAbs < den * twoTo 200) : ∃ x : Float, nearest? num den = some x := by
  have hsome : (nearest? num den : Option Float).isSome = true := by
    show ((Decimal.Binary.bitsOfRatio? num.natAbs den).map _).isSome = true
    rw [Option.isSome_map]
    exact Decimal.bitsOfRatio?_isSome hden h
  exact Option.isSome_iff_exists.mp hsome

/-- An integer of at most 200 bits is a number of the formulas. -/
theorem ofInt?_double {n : Int} (hn : n.natAbs < twoTo 200) :
    ∃ x : Float, ofInt? n = some x :=
  nearest?_double Nat.one_pos (by rwa [Nat.one_mul])

end Likeness.Scalar
