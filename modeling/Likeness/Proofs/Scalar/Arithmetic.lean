import Likeness.Proofs.Scalar.Rounding
import Mathlib.Tactic.FieldSimp

/-! # The operations on doubles

    Sums, differences, products and quotients are found exactly, as a mantissa with
    an exponent, and then rounded.  A sum is an integer at the smaller exponent; a
    product is long enough for 53 bits; and a quotient is made long enough, with
    what is left over behind it. -/

namespace Likeness.Double

open Float.Model Float.Model.UnpackedFloat

/-- Parts that denote a fraction are rounded to it. -/
theorem RoundedTo.refl {u : UnpackedFloat} {a : ℚ} (hu : Canonical u) (ha : Denotes u a) :
    RoundedTo u a := by
  refine ⟨hu, a, ha, fun b _ => ?_⟩
  rw [sub_self, abs_zero]
  exact abs_nonneg _

theorem RoundedTo.zero (s : Sign) : RoundedTo (.zero s) 0 := .refl trivial (.zero s)

/-! ## Integers at an exponent -/

theorem decreaseExponent_eq {m : Nat} {e t : Int} (ht : t ≤ e) :
    ((decreaseExponent m e t).1 : ℚ) * 2 ^ t = m * 2 ^ e ∧ (decreaseExponent m e t).2 = t := by
  constructor
  · show ((m <<< (e - t).toNat : Nat) : ℚ) * 2 ^ t = m * 2 ^ e
    rw [Nat.shiftLeft_eq, Nat.cast_mul, Nat.cast_pow, Nat.cast_two, mul_assoc, ← zpow_natCast,
      ← zpow_add₀ two_ne_zero]
    congr 2
    omega
  · show e - ((e - t).toNat : Int) = t
    omega

theorem log2_shiftLeft {m : Nat} (hm : 0 < m) (n : Nat) : (m <<< n).log2 = m.log2 + n := by
  have hpos : 0 < 2 ^ n := Nat.pow_pos two_pos
  rw [Nat.shiftLeft_eq, Nat.log2_eq_iff (Nat.mul_pos hm hpos).ne', Nat.add_right_comm,
    Nat.pow_add, Nat.pow_add]
  exact ⟨Nat.mul_le_mul_right _ (Nat.log2_self_le hm.ne'),
    Nat.mul_lt_mul_of_pos_right Nat.lt_log2_self hpos⟩

/-- A mantissa is made longer until it can be made shorter to the exponent that is aimed at. -/
theorem round_rounded (s : Sign) {m : Nat} (hm : 0 < m) (e : Int) :
    RoundedTo (UnpackedFloat.round Format.binary64 s m e) (signed s (m * 2 ^ e)) := by
  obtain ⟨n, hn⟩ : ∃ n, n = (e - max ((m.log2 : Int) + e - 52) (-1074)).toNat := ⟨_, rfl⟩
  have hround : UnpackedFloat.round Format.binary64 s m e
      = roundWithAccuracy Format.binary64 s (m <<< n) (e - n) .exact := by
    rw [hn, ← targetExponent_eq]
    rfl
  have hvalue : ((m <<< n : Nat) : ℚ) * 2 ^ (e - n) = m * 2 ^ e := by
    rw [Nat.shiftLeft_eq, Nat.cast_mul, Nat.cast_pow, Nat.cast_two, mul_assoc, ← zpow_natCast,
      ← zpow_add₀ two_ne_zero, add_sub_cancel]
  rw [hround, ← hvalue]
  refine roundWithAccuracy_rounded s (holds_exact _) ?_
  rw [targetExponent_eq, log2_shiftLeft hm]
  omega

theorem normalize_rounded (n : Int) (e : Int) (s : Sign) :
    RoundedTo (UnpackedFloat.normalize Format.binary64 n e s) (n * 2 ^ e) := by
  unfold UnpackedFloat.normalize
  rcases lt_trichotomy n 0 with hneg | hzero | hpos
  · have hcast : (n : ℚ) * 2 ^ e = signed .negative (((-n).toNat : Nat) * 2 ^ e) := by
      have hnat : (((-n).toNat : Nat) : ℚ) = -(n : ℚ) := by
        exact_mod_cast Int.toNat_of_nonneg (by omega : 0 ≤ -n)
      rw [hnat, neg_mul]
      exact (neg_neg _).symm
    rw [Int.compare_eq_lt.mpr hneg, hcast]
    exact round_rounded .negative (by omega) e
  · rw [Int.compare_eq_eq.mpr hzero, hzero, Int.cast_zero, zero_mul]
    exact .zero s
  · have hcast : (n : ℚ) * 2 ^ e = signed .positive ((n.toNat : Nat) * 2 ^ e) := by
      have hnat : ((n.toNat : Nat) : ℚ) = (n : ℚ) := by
        exact_mod_cast Int.toNat_of_nonneg hpos.le
      rw [hnat]
      rfl
    rw [Int.compare_eq_gt.mpr hpos, hcast]
    exact round_rounded .positive (by omega) e

/-! ## Sums and differences -/

theorem cast_apply (s : Sign) (n : Int) : ((s.apply n : Int) : ℚ) = signed s n := by
  cases s with
  | negative => exact Int.cast_neg n
  | positive => rfl

theorem signed_mul_right (s : Sign) (v c : ℚ) : signed s v * c = signed s (v * c) := by
  cases s with
  | negative => exact neg_mul v c
  | positive => rfl

/-- A mantissa with its sign, brought to a smaller exponent. -/
theorem apply_decreaseExponent (s : Sign) {m : Nat} {e t : Int} (ht : t ≤ e) :
    ((s.apply ((decreaseExponent m e t).1 : Nat) : Int) : ℚ) * 2 ^ t = signed s (m * 2 ^ e) := by
  rw [cast_apply, signed_mul_right, Int.cast_natCast, (decreaseExponent_eq ht).1]

section Operations

variable {u v : UnpackedFloat} {a b : ℚ}

theorem add_rounded (hu : Canonical u) (hv : Canonical v) (ha : Denotes u a) (hb : Denotes v b) :
    RoundedTo (UnpackedFloat.add Format.binary64 u v) (a + b) := by
  cases ha with
  | zero s =>
      cases hb with
      | zero t =>
          rw [add_zero]
          show RoundedTo (if s == t then .zero s else .zero .positive) 0
          split_ifs
          · exact .zero s
          · exact .zero .positive
      | finite t m e hm =>
          rw [zero_add]
          exact .refl hv (.finite t m e hm)
  | finite s m e hm =>
      cases hb with
      | zero t =>
          rw [add_zero]
          exact .refl hu (.finite s m e hm)
      | finite t m' e' hm' =>
          rw [← apply_decreaseExponent s (min_le_left e e'),
            ← apply_decreaseExponent t (min_le_right e e'), ← add_mul, ← Int.cast_add]
          exact normalize_rounded _ _ _

theorem sub_rounded (hu : Canonical u) (hv : Canonical v) (ha : Denotes u a) (hb : Denotes v b) :
    RoundedTo (UnpackedFloat.sub Format.binary64 u v) (a - b) := by
  cases ha with
  | zero s =>
      cases hb with
      | zero t =>
          rw [sub_zero]
          show RoundedTo (if s == -t then .zero s else .zero .positive) 0
          split_ifs
          · exact .zero s
          · exact .zero .positive
      | finite t m e hm =>
          have hopposite : 0 - signed t (m * 2 ^ e) = signed (-t) (m * 2 ^ e) := by
            rw [zero_sub]
            cases t with
            | negative => exact neg_neg _
            | positive => rfl
          rw [hopposite]
          exact .refl hv (.finite (-t) m e hm)
  | finite s m e hm =>
      cases hb with
      | zero t =>
          rw [sub_zero]
          exact .refl hu (.finite s m e hm)
      | finite t m' e' hm' =>
          rw [← apply_decreaseExponent s (min_le_left e e'),
            ← apply_decreaseExponent t (min_le_right e e'), ← sub_mul, ← Int.cast_sub]
          exact normalize_rounded _ _ _

/-! ## Products -/

theorem signed_mul (s t : Sign) (v w : ℚ) : signed s v * signed t w = signed (s * t) (v * w) := by
  cases s with
  | negative =>
      cases t with
      | negative => exact neg_mul_neg v w
      | positive => exact neg_mul v w
  | positive =>
      cases t with
      | negative => exact mul_neg v w
      | positive => rfl

/-- A product of mantissas is not shorter than the exponent that is aimed at allows. -/
theorem product_exponent_le {m m' : Nat} {e e' : Int} (hm : 0 < m) (hm' : 0 < m')
    (hu : Normal m e) (hv : Normal m' e') :
    e + e' ≤ Format.binary64.targetExponent (totalExponent (m * m') (e + e')) := by
  have hlog : m.log2 ≤ (m * m').log2 ∧ m'.log2 ≤ (m * m').log2 := by
    rw [Nat.le_log2 (Nat.mul_pos hm hm').ne', Nat.le_log2 (Nat.mul_pos hm hm').ne']
    exact ⟨(Nat.log2_self_le hm.ne').trans (Nat.le_mul_of_pos_right m hm'),
      (Nat.log2_self_le hm'.ne').trans (Nat.le_mul_of_pos_left m' hm)⟩
  have hfull : ∀ {k : Nat}, 0 < k → 2 ^ 52 ≤ k → 52 ≤ k.log2 :=
    fun hk hle => (Nat.le_log2 hk.ne').mpr hle
  rw [targetExponent_eq]
  rcases hu.full with he | hlarge
  · rcases hv.full with he' | hlarge'
    · omega
    · have := hfull hm' hlarge'
      omega
  · have := hfull hm hlarge
    omega

theorem mul_rounded (hu : Canonical u) (hv : Canonical v) (ha : Denotes u a) (hb : Denotes v b) :
    RoundedTo (UnpackedFloat.mul Format.binary64 u v) (a * b) := by
  cases ha with
  | zero s =>
      rw [zero_mul]
      cases hb with
      | zero t => exact .zero (s * t)
      | finite t m e hm => exact .zero (s * t)
  | finite s m e hm =>
      cases hb with
      | zero t =>
          rw [mul_zero]
          exact .zero (s * t)
      | finite t m' e' hm' =>
          have hvalue : signed s (m * 2 ^ e) * signed t (m' * 2 ^ e')
              = signed (s * t) (((m * m' : Nat) : ℚ) * 2 ^ (e + e')) := by
            rw [signed_mul, zpow_add₀ two_ne_zero, Nat.cast_mul]
            congr 1
            ring
          rw [hvalue]
          exact roundWithAccuracy_rounded (s * t) (holds_exact _)
            (product_exponent_le hm hm' hu hv)

/-! ## Quotients -/

theorem signed_div (s t : Sign) (v w : ℚ) : signed s v / signed t w = signed (s / t) (v / w) := by
  cases s with
  | negative =>
      cases t with
      | negative => exact neg_div_neg_eq v w
      | positive => exact neg_div w v
  | positive =>
      cases t with
      | negative => exact div_neg v
      | positive => rfl

/-- What is left over by a division is behind its quotient. -/
theorem holds_fraction {m num den : Nat} (hlt : num < den) :
    Holds (.ofMantissaAndAccuracy m (accuracyOfFraction num den)) (m + num / den) := by
  have hden : (0 : ℚ) < den := by exact_mod_cast Nat.zero_lt_of_lt hlt
  have hone : (num : ℚ) / den < 1 := (div_lt_one hden).mpr (by exact_mod_cast hlt)
  by_cases hzero : num = 0
  · rw [accuracyOfFraction, if_pos hzero, hzero, Nat.cast_zero, zero_div, add_zero]
    exact holds_exact m
  · have hpos : (0 : ℚ) < num / den := div_pos (by exact_mod_cast Nat.pos_of_ne_zero hzero) hden
    have hhalf : ∀ x : ℚ, (num : ℚ) / den - 1 / 2 = x / den ↔ 2 * (num : ℚ) - den = 2 * x := by
      intro x
      rw [sub_eq_iff_eq_add, div_eq_iff hden.ne', add_mul, div_mul_cancel₀ x hden.ne']
      constructor <;> intro h <;> linarith
    rw [accuracyOfFraction, if_neg hzero]
    rcases lt_trichotomy (2 * num) den with hless | heq | hmore
    · have hcast : (2 * num : ℚ) < den := by exact_mod_cast hless
      rw [Nat.compare_eq_lt.mpr hless]
      refine ⟨num / den, hpos.le, ?_, ⟨fun _ => hpos, fun _ => rfl⟩, ?_⟩
      · rw [div_lt_iff₀ hden]
        linarith
      · show _ = (m : ℚ) + half false + _
        rw [half, if_neg Bool.false_ne_true, add_zero]
    · have hcast : (2 * num : ℚ) = den := by exact_mod_cast heq
      rw [Nat.compare_eq_eq.mpr heq]
      refine ⟨0, le_rfl, by norm_num, by simp [ExtendedMantissa.ofMantissaAndAccuracy], ?_⟩
      show _ = (m : ℚ) + half true + 0
      rw [half, if_pos rfl, add_zero, ← hcast]
      field_simp
    · have hcast : (den : ℚ) < 2 * num := by exact_mod_cast hmore
      have hbehind : 1 / 2 < (num : ℚ) / den := by
        rw [lt_div_iff₀ hden]
        linarith
      rw [Nat.compare_eq_gt.mpr hmore]
      refine ⟨num / den - 1 / 2, by linarith, by linarith,
        ⟨fun _ => by linarith, fun _ => rfl⟩, ?_⟩
      show _ = (m : ℚ) + half true + _
      rw [half, if_pos rfl]
      ring

/-- A quotient is made long enough before it is found. -/
theorem quotient_exponent_le {m m' : Nat} {e e' t : Int} (hm : 0 < m) (hm' : 0 < m')
    (ht : t = min (e - e') (max ((m.log2 : Int) + e - (m'.log2 + e') - 53) (-1074))) {n : Nat}
    (hn : e - e' = t + n) :
    t ≤ Format.binary64.targetExponent (totalExponent ((m <<< n) / m') t) := by
  rw [targetExponent_eq]
  by_cases hleast : t ≤ -1074
  · exact hleast.trans (le_max_right _ _)
  · have hshift : 53 + m'.log2 ≤ m.log2 + n := by omega
    have hlong : 2 ^ 52 ≤ (m <<< n) / m' := by
      rw [Nat.le_div_iff_mul_le hm', Nat.shiftLeft_eq]
      calc 2 ^ 52 * m' ≤ 2 ^ 52 * 2 ^ (m'.log2 + 1) :=
            Nat.mul_le_mul_left _ Nat.lt_log2_self.le
        _ = 2 ^ (53 + m'.log2) := by
            rw [← Nat.pow_add]
            congr 1
            omega
        _ ≤ 2 ^ (m.log2 + n) := Nat.pow_le_pow_right two_pos hshift
        _ = 2 ^ m.log2 * 2 ^ n := Nat.pow_add _ _ _
        _ ≤ m * 2 ^ n := Nat.mul_le_mul_right _ (Nat.log2_self_le hm.ne')
    have hlog : 52 ≤ ((m <<< n) / m').log2 :=
      (Nat.le_log2 (Nat.ne_of_gt (lt_of_lt_of_le (by norm_num) hlong))).mpr hlong
    omega

theorem divCore_eq {m m' : Nat} {e e' t : Int}
    (ht : t = min (e - e') (max ((m.log2 : Int) + e - (m'.log2 + e') - 53) (-1074))) {n : Nat}
    (hn : e - e' = t + n) :
    divCore Format.binary64 m e m' e'
      = ((m <<< n) / m', t, accuracyOfFraction ((m <<< n) % m') m') := by
  have htarget : min (e - e')
      (Format.binary64.targetExponent (totalExponent m e - totalExponent m' e')) = t := by
    rw [ht]
    show min (e - e') (max (((m.log2 : Int) + 1 + e) - (m'.log2 + 1 + e') - 53) (-1074)) = _
    congr 2
    omega
  unfold divCore
  rw [htarget, hn]
  dsimp only
  rw [add_sub_cancel_left, Int.toNat_natCast]

/-- The quotient of the longer mantissa, with what is left over, is the exact quotient. -/
theorem quotient_value {m m' : Nat} (hm' : 0 < m') {e e' t : Int} {n : Nat}
    (hn : e - e' = t + n) :
    (((m <<< n) / m' : Nat) + ((m <<< n) % m' : Nat) / m' : ℚ) * 2 ^ t
      = m * 2 ^ e / (m' * 2 ^ e') := by
  have hd : (m' : ℚ) ≠ 0 := by exact_mod_cast hm'.ne'
  have hparts : (((m <<< n) / m' : Nat) : ℚ) + ((m <<< n) % m' : Nat) / m'
      = (m * 2 ^ n : Nat) / m' := by
    rw [eq_div_iff hd, add_mul, div_mul_cancel₀ _ hd, Nat.shiftLeft_eq]
    exact_mod_cast Nat.div_add_mod' (m * 2 ^ n) m'
  have hscale : (2 : ℚ) ^ e = 2 ^ e' * (2 ^ t * 2 ^ n) := by
    rw [← zpow_natCast, ← zpow_add₀ two_ne_zero, ← zpow_add₀ two_ne_zero, ← hn]
    congr 1
    omega
  rw [hparts, hscale]
  push_cast
  field_simp

theorem div_rounded (ha : Denotes u a) (hb : Denotes v b) (hne : b ≠ 0) :
    RoundedTo (UnpackedFloat.div Format.binary64 u v) (a / b) := by
  cases hb with
  | zero t => exact absurd rfl hne
  | finite t m' e' hm' =>
      cases ha with
      | zero s =>
          rw [zero_div]
          exact .zero (s / t)
      | finite s m e hm =>
          obtain ⟨r, hr⟩ : ∃ r, r
              = min (e - e') (max ((m.log2 : Int) + e - (m'.log2 + e') - 53) (-1074)) := ⟨_, rfl⟩
          obtain ⟨n, hn⟩ : ∃ n : Nat, e - e' = r + n := ⟨(e - e' - r).toNat, by omega⟩
          rw [signed_div, ← quotient_value hm' hn]
          show RoundedTo (roundWithAccuracy Format.binary64 (s / t)
            (divCore Format.binary64 m e m' e').1 (divCore Format.binary64 m e m' e').2.1
            (divCore Format.binary64 m e m' e').2.2) _
          rw [divCore_eq hr hn]
          exact roundWithAccuracy_rounded (s / t) (holds_fraction (Nat.mod_lt _ hm'))
            (quotient_exponent_le hm hm' hr hn)

end Operations

end Likeness.Double
