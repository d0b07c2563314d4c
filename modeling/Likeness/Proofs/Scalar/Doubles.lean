import Likeness.Proofs.Scalar.Arithmetic
import Likeness.Proofs.Scalar.Values

/-! # What doubles denote

    A double denotes what its parts denote (`denotes_iff`), which lies on the grid.
    What the model rounds to the nearest on the grid is therefore nearest among all
    doubles, or it is infinite (`ofParts_rounded`).  The order of doubles, which the
    model finds from exponents and mantissas, is that of what they denote
    (`atMost_eq`). -/

namespace Likeness.Double

open Decimal (Reading)
open Float.Model Float.Model.UnpackedFloat

/-! ## What doubles denote -/

/-- What parts stand for, as an exact number. -/
inductive Stands : Decimal.Exact → UnpackedFloat → Prop where
  | nan : Stands .nan .notANumber
  | infinite (s : Sign) : Stands (.infinite (isNegative s)) (.infinity s)
  | ratio {num : Int} {den : Nat} {u : UnpackedFloat} {a : ℚ} (hden : 0 < den)
      (hvalue : (num : ℚ) / den = a) (ha : Denotes u a) : Stands (.ratio num den) u

theorem binary_value (negative : Bool) (m : Decimal.Binary) :
    ((Decimal.Exact.signed negative m.ratio.1 : Int) : ℚ) / (m.ratio.2 : Nat)
      = (if negative then -1 else 1) * (m.mantissa * 2 ^ m.exponent) := by
  have hscale := Decimal.zpow_mul_toNat two_ne_zero m.exponent
  have hden : (2 : ℚ) ^ (-m.exponent).toNat ≠ 0 := pow_ne_zero _ two_ne_zero
  rw [Decimal.Binary.ratio, Decimal.Exact.signed]
  dsimp only
  rw [Decimal.cast_twoTo, div_eq_iff hden, mul_assoc, mul_assoc, hscale]
  split_ifs
  · push_cast
    rw [Decimal.cast_twoTo]
    ring
  · push_cast
    rw [Decimal.cast_twoTo]
    ring

/-- A double stands for what its parts stand for. -/
theorem stands (x : Float) : Stands (Scalar.exact x) x.toModel.unpack := by
  obtain ⟨hx, -⟩ := unpacks x
  show Stands (Decimal.Exact.ofFloat x) _
  unfold Decimal.Exact.ofFloat
  generalize Reading.ofFloat x = r at hx ⊢
  generalize x.toModel.unpack = u at hx ⊢
  cases hx with
  | nan => exact .nan
  | infinite s => exact .infinite s
  | zero s e narrow =>
      refine .ratio (Nat.pow_pos two_pos) ?_ (.zero s)
      rw [binary_value, Nat.cast_zero, zero_mul, mul_zero]
  | finite s m e hm narrow =>
      refine .ratio (Nat.pow_pos two_pos) ?_ (.finite s m e hm)
      rw [binary_value]
      cases s with
      | negative => exact neg_one_mul _
      | positive => exact one_mul _

theorem Denotes.unique {u : UnpackedFloat} {a b : ℚ} (ha : Denotes u a) (hb : Denotes u b) :
    a = b := by
  cases ha with
  | zero s => cases hb with | zero => rfl
  | finite s m e hm => cases hb with | finite => rfl

theorem denotes_iff {x : Float} {a : ℚ} :
    Scalar.Denotes x a ↔ Denotes x.toModel.unpack a := by
  have hx := stands x
  rw [Scalar.Denotes]
  generalize Scalar.exact x = exact at hx ⊢
  generalize x.toModel.unpack = u at hx ⊢
  cases hx with
  | nan =>
      constructor
      · rintro ⟨_, _, ⟨⟩, -⟩
      · rintro ⟨⟩
  | infinite s =>
      constructor
      · rintro ⟨_, _, ⟨⟩, -⟩
      · rintro ⟨⟩
  | ratio hden hvalue ha =>
      constructor
      · rintro ⟨_, _, hratio, -, rfl⟩
        obtain ⟨rfl, rfl⟩ := Decimal.Exact.ratio.inj hratio
        exact hvalue ▸ ha
      · intro hb
        exact ⟨_, _, rfl, hden, hvalue.trans (ha.unique hb)⟩

/-- What a double denotes lies on the grid. -/
theorem onGrid {x : Float} {a : ℚ} (h : Scalar.Denotes x a) : OnGrid a := by
  obtain ⟨-, hcanonical⟩ := unpacks x
  rw [denotes_iff] at h
  generalize x.toModel.unpack = u at h hcanonical
  cases h with
  | zero s => exact ⟨0, 0, by norm_num, by norm_num, by norm_num⟩
  | finite s m e hm =>
      refine ⟨m, e, hcanonical.mantissa_lt, hcanonical.exponent_ge, ?_⟩
      have hnonneg : (0 : ℚ) ≤ m * 2 ^ e := by positivity
      cases s with
      | negative => exact (abs_neg _).trans (abs_of_nonneg hnonneg)
      | positive => exact abs_of_nonneg hnonneg

/-! ## Rounded results -/

theorem denotes_ofParts {u : UnpackedFloat} (hu : Canonical u) (hpacked : packed u = u) {a : ℚ}
    (ha : Denotes u a) : Scalar.Denotes (ofParts u) a := by
  rw [denotes_iff, unpack_pack hu, hpacked]
  exact ha

theorem exact_infinity {x : Float} {s : Sign} (h : x.toModel.unpack = .infinity s) :
    Scalar.exact x = .infinite (isNegative s) := by
  have hx := stands x
  rw [h] at hx
  generalize Scalar.exact x = exact at hx ⊢
  cases hx with
  | infinite => rfl
  | ratio _ _ ha => cases ha

theorem exact_nan {x : Float} (h : x.toModel.unpack = .notANumber) : Scalar.exact x = .nan := by
  have hx := stands x
  rw [h] at hx
  generalize Scalar.exact x = exact at hx ⊢
  cases hx with
  | nan => rfl
  | ratio _ _ ha => cases ha

/-- Parts that do not fit into bits have a very large exponent. -/
theorem packed_cases {u : UnpackedFloat} (hu : Canonical u) :
    packed u = u ∨ ∃ s m e hm, u = .finite s m e hm ∧ packed u = .infinity s ∧
      (2 : ℚ) ^ (1024 : ℤ) ≤ m * 2 ^ e := by
  cases u with
  | infinity s => exact .inl rfl
  | notANumber => exact .inl rfl
  | zero s => exact .inl rfl
  | finite s m e hm =>
      by_cases hlarge : 971 < e
      · refine .inr ⟨s, m, e, hm, rfl, if_pos hlarge, ?_⟩
        have hfull : 2 ^ 52 ≤ m := hu.full.resolve_left (by omega)
        calc (2 : ℚ) ^ (1024 : ℤ) = 2 ^ (52 : ℤ) * 2 ^ (972 : ℤ) := zpow_add₀ two_ne_zero 52 972
          _ ≤ 2 ^ (52 : ℤ) * 2 ^ e :=
              mul_le_mul_of_nonneg_left (zpow_le_zpow_right₀ one_le_two (by omega))
                (zpow_pos two_pos 52).le
          _ ≤ m * 2 ^ e := by
              refine mul_le_mul_of_nonneg_right ?_ (zpow_pos two_pos e).le
              exact_mod_cast hfull
      · exact .inl (if_neg hlarge)

/-- What the model rounds to is nearest among all doubles, or it is infinite. -/
theorem ofParts_rounded {u : UnpackedFloat} {q : ℚ} (h : RoundedTo u q) :
    Scalar.Rounded (ofParts u) q := by
  obtain ⟨hcanonical, a, ha, hnearest⟩ := h
  rcases packed_cases hcanonical with hpacked | ⟨s, m, e, hm, rfl, hpacked, hlarge⟩
  · exact .inl ⟨a, denotes_ofParts hcanonical hpacked ha, fun y b hb => hnearest b (onGrid hb)⟩
  · right
    obtain rfl := ha.unique (.finite s m e hm)
    -- Zero is on the grid too, so the exact result is on the side of what it is rounded to.
    have hzero := hnearest 0 ⟨0, 0, by norm_num, by norm_num, by norm_num⟩
    rw [zero_sub, abs_neg] at hzero
    have hpos : (0 : ℚ) < m * 2 ^ e := lt_of_lt_of_le (zpow_pos two_pos 1024) hlarge
    have hrange : 2 * Scalar.range < m * 2 ^ e := by
      calc 2 * Scalar.range = 2 ^ (1001 : ℤ) := (zpow_one_add₀ two_ne_zero 1000).symm
        _ < 2 ^ (1024 : ℤ) := zpow_lt_zpow_right₀ one_lt_two (by norm_num)
        _ ≤ m * 2 ^ e := hlarge
    rw [exact_infinity ((unpack_pack hcanonical).trans hpacked)]
    clear hlarge
    generalize (m : ℚ) * 2 ^ e = v at *
    cases s with
    | negative =>
        have hq : q < 0 := by
          by_contra hq
          rw [not_lt] at hq
          rw [show signed .negative v = -v from rfl, abs_of_nonneg hq,
            abs_of_nonpos (by linarith)] at hzero
          linarith
        rw [show signed .negative v = -v from rfl, abs_of_neg hq] at hzero
        have := neg_abs_le (-v - q)
        refine ⟨?_, by rw [decide_eq_true hq]; rfl⟩
        rw [abs_of_neg hq]
        linarith
    | positive =>
        have hq : 0 < q := by
          by_contra hq
          rw [not_lt] at hq
          rw [show signed .positive v = v from rfl, abs_of_nonpos hq,
            abs_of_nonneg (by linarith)] at hzero
          linarith
        rw [show signed .positive v = v from rfl, abs_of_pos hq] at hzero
        have := le_abs_self (v - q)
        refine ⟨?_, by rw [decide_eq_false (not_lt.mpr hq.le)]; rfl⟩
        rw [abs_of_pos hq]
        linarith

/-! ## The order -/

theorem value_lt_of_exponent_lt {m m' : Nat} {e e' : Int} (h : Normal m e) (h' : Normal m' e')
    (hlt : e < e') : (m : ℚ) * 2 ^ e < m' * 2 ^ e' := by
  have hfull : 2 ^ 52 ≤ m' := h'.full.resolve_left (by have := h.exponent_ge; omega)
  calc (m : ℚ) * 2 ^ e < 2 ^ 53 * 2 ^ e :=
        mul_lt_mul_of_pos_right (by exact_mod_cast h.mantissa_lt) (zpow_pos two_pos e)
    _ = 2 ^ (53 + e) := (zpow_add₀ two_ne_zero 53 e).symm
    _ ≤ 2 ^ (52 + e') := zpow_le_zpow_right₀ one_le_two (by omega)
    _ = 2 ^ 52 * 2 ^ e' := zpow_add₀ two_ne_zero 52 e'
    _ ≤ m' * 2 ^ e' := mul_le_mul_of_nonneg_right (by exact_mod_cast hfull) (zpow_pos two_pos e').le

/-- A magnitude has one mantissa and one exponent. -/
theorem eq_of_value_eq {m m' : Nat} {e e' : Int} (h : Normal m e) (h' : Normal m' e')
    (heq : (m : ℚ) * 2 ^ e = m' * 2 ^ e') : m = m' ∧ e = e' := by
  rcases lt_trichotomy e e' with hlt | rfl | hgt
  · exact absurd heq (value_lt_of_exponent_lt h h' hlt).ne
  · exact ⟨by exact_mod_cast mul_right_cancel₀ (zpow_pos two_pos e).ne' heq, rfl⟩
  · exact absurd heq (value_lt_of_exponent_lt h' h hgt).ne'

/-- Magnitudes are ordered by their exponents, and then by their mantissas. -/
theorem compare_magnitudes {m m' : Nat} {e e' : Int} (h : Normal m e) (h' : Normal m' e') :
    ((compare e e').then (compare m m')).isLE = decide ((m : ℚ) * 2 ^ e ≤ m' * 2 ^ e') := by
  rcases lt_trichotomy e e' with hlt | rfl | hgt
  · rw [Int.compare_eq_lt.mpr hlt, decide_eq_true (value_lt_of_exponent_lt h h' hlt).le]
    rfl
  · rw [Int.compare_eq_eq.mpr rfl]
    show (compare m m').isLE = _
    rw [Bool.eq_iff_iff, Nat.isLE_compare, decide_eq_true_iff,
      mul_le_mul_iff_left₀ (zpow_pos two_pos e), Nat.cast_le]
  · rw [Int.compare_eq_gt.mpr hgt,
      decide_eq_false (not_le.mpr (value_lt_of_exponent_lt h' h hgt))]
    rfl

theorem swap_compare (m m' : Nat) (e e' : Int) :
    ((compare e e').then (compare m m')).swap = (compare e' e).then (compare m' m) := by
  rw [Ordering.swap_then, Int.compare_swap, Nat.compare_swap]

theorem le_eq {u v : UnpackedFloat} {a b : ℚ} (hu : Canonical u) (hv : Canonical v)
    (ha : Denotes u a) (hb : Denotes v b) : UnpackedFloat.le u v = decide (a ≤ b) := by
  have hpos : ∀ {m : Nat} {e : Int}, 0 < m → (0 : ℚ) < m * 2 ^ e :=
    fun hm => mul_pos (by exact_mod_cast hm) (zpow_pos two_pos _)
  cases ha with
  | zero s =>
      cases hb with
      | zero t => rfl
      | finite t m e hm =>
          cases t with
          | negative => exact (decide_eq_false (not_le.mpr (neg_neg_of_pos (hpos hm)))).symm
          | positive => exact (decide_eq_true (hpos hm).le).symm
  | finite s m e hm =>
      cases hb with
      | zero t =>
          cases s with
          | negative => exact (decide_eq_true (neg_neg_of_pos (hpos hm)).le).symm
          | positive => exact (decide_eq_false (not_le.mpr (hpos hm))).symm
      | finite t m' e' hm' =>
          cases s with
          | negative =>
              cases t with
              | negative =>
                  show ((compare e e').then (compare m m')).swap.isLE = _
                  rw [swap_compare, compare_magnitudes hv hu]
                  exact decide_eq_decide.mpr neg_le_neg_iff.symm
              | positive =>
                  exact (decide_eq_true
                    ((neg_neg_of_pos (hpos hm)).trans (hpos hm')).le).symm
          | positive =>
              cases t with
              | negative =>
                  exact (decide_eq_false
                    (not_le.mpr ((neg_neg_of_pos (hpos hm')).trans (hpos hm)))).symm
              | positive => exact compare_magnitudes hu hv

theorem le_infinity {u : UnpackedFloat} {b : ℚ} (hb : Denotes u b) (s : Sign) :
    UnpackedFloat.le (.infinity s) u = isNegative s ∧
      UnpackedFloat.le u (.infinity s) = !isNegative s := by
  cases hb with
  | zero t =>
      cases s with
      | negative => exact ⟨rfl, rfl⟩
      | positive => exact ⟨rfl, rfl⟩
  | finite t m e hm =>
      cases s with
      | negative => exact ⟨rfl, rfl⟩
      | positive => exact ⟨rfl, rfl⟩

/-- **THE ORDER OF DOUBLES** is that of what they denote. -/
theorem atMost_eq (x y : Float) :
    Scalar.atMost x y = ((Scalar.exact x).below (Scalar.exact y)
      || (Scalar.exact x).equal (Scalar.exact y)) := by
  have hle : Scalar.atMost x y = UnpackedFloat.le x.toModel.unpack y.toModel.unpack := by
    show decide (decide (Float.Model.le x.toModel y.toModel = true) = true) = _
    rw [Bool.decide_eq_true, Bool.decide_eq_true]
    rfl
  rw [hle]
  have hx := stands x
  have hy := stands y
  obtain ⟨-, hcx⟩ := unpacks x
  obtain ⟨-, hcy⟩ := unpacks y
  generalize Scalar.exact x = ex at hx ⊢
  generalize Scalar.exact y = ey at hy ⊢
  generalize x.toModel.unpack = u at hx hcx ⊢
  generalize y.toModel.unpack = v at hy hcy ⊢
  cases hx with
  | nan =>
      cases hy with
      | nan => rfl
      | infinite t => rfl
      | ratio hden' hvalue' hb => rfl
  | infinite s =>
      cases hy with
      | nan =>
          cases s with
          | negative => rfl
          | positive => rfl
      | infinite t =>
          cases s with
          | negative =>
              cases t with
              | negative => rfl
              | positive => rfl
          | positive =>
              cases t with
              | negative => rfl
              | positive => rfl
      | ratio hden' hvalue' hb =>
          rw [(le_infinity hb s).1]
          exact (Bool.or_false _).symm
  | ratio hden hvalue ha =>
      cases hy with
      | nan =>
          cases ha with
          | zero s => rfl
          | finite s m e hm =>
              cases s with
              | negative => rfl
              | positive => rfl
      | infinite t =>
          rw [(le_infinity ha t).2]
          exact (Bool.or_false _).symm
      | ratio hden' hvalue' hb =>
          rw [le_eq hcx hcy ha hb, Scalar.ratio_order hden hden', hvalue, hvalue']

end Likeness.Double
