import Likeness.Proofs.Decimal.Doubles
import Likeness.Proofs.Scalar.Bits
import Likeness.Proofs.Scalar.Double
import Likeness.Proofs.Scalar.Doubles
import Mathlib.Algebra.Order.Floor.Defs
import Mathlib.Data.Rat.Floor

/-! # Doubles round

    Doubles are one of the arithmetics of `Scalar.Rounds`.  For the operations this
    is what the model does.  Integers are brought to doubles in two ways, as counts
    and as the nearest double to a quotient, and both round to the nearest.

    A part of one and the rest of it are at most one together: above a half the
    rest needs no rounding, and below it is off by less than what a sum has to be
    off to be rounded to more than one (`complement_le`). -/

namespace Likeness.Double

open Decimal (Binary Reading)
open Float.Model Float.Model.UnpackedFloat

/-! ## The operations -/

theorem mul_comm_parts (u v : UnpackedFloat) :
    UnpackedFloat.mul Format.binary64 u v = UnpackedFloat.mul Format.binary64 v u := by
  have hsign : ∀ s t : Sign, s * t = t * s := by
    intro s t
    cases s with
    | negative =>
        cases t with
        | negative => rfl
        | positive => rfl
    | positive =>
        cases t with
        | negative => rfl
        | positive => rfl
  cases u with
  | notANumber => cases v <;> rfl
  | infinity s =>
      cases v with
      | notANumber => rfl
      | infinity t => exact congrArg _ (hsign s t)
      | zero t => rfl
      | finite t m e hm => exact congrArg _ (hsign s t)
  | zero s =>
      cases v with
      | notANumber => rfl
      | infinity t => rfl
      | zero t => exact congrArg _ (hsign s t)
      | finite t m e hm => exact congrArg _ (hsign s t)
  | finite s m e hm =>
      cases v with
      | notANumber => rfl
      | infinity t => exact congrArg _ (hsign s t)
      | zero t => exact congrArg _ (hsign s t)
      | finite t m' e' hm' =>
          show roundWithAccuracy _ (s * t) (m * m') (e + e') .exact
            = roundWithAccuracy _ (t * s) (m' * m) (e' + e) .exact
          rw [hsign s t, Nat.mul_comm m m', Int.add_comm e e']

theorem add_comm_parts (u v : UnpackedFloat) :
    UnpackedFloat.add Format.binary64 u v = UnpackedFloat.add Format.binary64 v u := by
  cases u with
  | notANumber => cases v <;> rfl
  | infinity s =>
      cases v with
      | infinity t => cases s <;> cases t <;> rfl
      | _ => rfl
  | zero s =>
      cases v with
      | zero t => cases s <;> cases t <;> rfl
      | _ => rfl
  | finite s m e hm =>
      cases v with
      | finite t m' e' hm' =>
          show normalize _ (s.apply (decreaseExponent m e (min e e')).1
              + t.apply (decreaseExponent m' e' (min e e')).1) (min e e') .positive
            = normalize _ (t.apply (decreaseExponent m' e' (min e' e)).1
              + s.apply (decreaseExponent m e (min e' e)).1) (min e' e) .positive
          rw [Int.min_comm, Int.add_comm]
      | _ => rfl

/-- A sum of doubles does not depend on the order of its terms. -/
theorem add_comm (x y : Float) : x + y = y + x :=
  congrArg ofParts (add_comm_parts x.toModel.unpack y.toModel.unpack)

theorem parts_denote {x : Float} {a : ℚ} (h : Scalar.Denotes x a) :
    Canonical x.toModel.unpack ∧ Denotes x.toModel.unpack a :=
  ⟨(unpacks x).2, denotes_iff.mp h⟩

section Operations

variable {x y : Float} {a b : ℚ}

theorem float_add_rounded (ha : Scalar.Denotes x a) (hb : Scalar.Denotes y b) :
    Scalar.Rounded (x + y) (a + b) := by
  obtain ⟨hu, ha⟩ := parts_denote ha
  obtain ⟨hv, hb⟩ := parts_denote hb
  exact ofParts_rounded (add_rounded hu hv ha hb)

theorem float_sub_rounded (ha : Scalar.Denotes x a) (hb : Scalar.Denotes y b) :
    Scalar.Rounded (x - y) (a - b) := by
  obtain ⟨hu, ha⟩ := parts_denote ha
  obtain ⟨hv, hb⟩ := parts_denote hb
  exact ofParts_rounded (sub_rounded hu hv ha hb)

theorem float_mul_rounded (ha : Scalar.Denotes x a) (hb : Scalar.Denotes y b) :
    Scalar.Rounded (x * y) (a * b) := by
  obtain ⟨hu, ha⟩ := parts_denote ha
  obtain ⟨hv, hb⟩ := parts_denote hb
  exact ofParts_rounded (mul_rounded hu hv ha hb)

theorem float_div_rounded (ha : Scalar.Denotes x a) (hb : Scalar.Denotes y b) (hne : b ≠ 0) :
    Scalar.Rounded (x / y) (a / b) := by
  obtain ⟨-, ha⟩ := parts_denote ha
  obtain ⟨-, hb⟩ := parts_denote hb
  exact ofParts_rounded (div_rounded ha hb hne)

end Operations

/-! ## Fractions that are doubles -/

theorem RoundedTo.exact {u : UnpackedFloat} {q : ℚ} (h : RoundedTo u q) (hq : OnGrid q) :
    Denotes u q := by
  obtain ⟨-, a, ha, hnearest⟩ := h
  have hself := hnearest q hq
  rw [sub_self, abs_zero, abs_nonpos_iff, sub_eq_zero] at hself
  exact hself ▸ ha

/-- What lies on the grid is a double, unless it is very large. -/
theorem exists_double {q : ℚ} (h : OnGrid q) (hq : |q| ≤ Scalar.range) :
    ∃ x : Float, Scalar.Denotes x q := by
  obtain ⟨m, e, -, -, habs⟩ := id h
  obtain ⟨k, hk⟩ : ∃ k : ℤ, q = k * 2 ^ e := by
    rcases abs_choice q with hsign | hsign
    · exact ⟨m, by rw [Int.cast_natCast, ← habs, hsign]⟩
    · exact ⟨-m, by rw [Int.cast_neg, Int.cast_natCast, neg_mul, ← habs, hsign, neg_neg]⟩
  have hrounded : RoundedTo (UnpackedFloat.normalize Format.binary64 k e .positive) q :=
    hk ▸ normalize_rounded k e .positive
  have hexact := hrounded.exact h
  rcases packed_cases hrounded.canonical with hpacked | ⟨s, m', e', hm', hu, -, hlarge⟩
  · exact ⟨_, denotes_ofParts hrounded.canonical hpacked hexact⟩
  · exfalso
    rw [hu] at hexact
    obtain rfl := hexact.unique (.finite s m' e' hm')
    have hnonneg : (0 : ℚ) ≤ m' * 2 ^ e' := le_trans (zpow_pos two_pos 1024).le hlarge
    have hmagnitude : |signed s (m' * 2 ^ e')| = m' * 2 ^ e' := by
      cases s with
      | negative => exact (abs_neg _).trans (abs_of_nonneg hnonneg)
      | positive => exact abs_of_nonneg hnonneg
    have hrange : Scalar.range < 2 ^ (1024 : ℤ) := zpow_lt_zpow_right₀ one_lt_two (by norm_num)
    rw [hmagnitude] at hq
    exact absurd (hlarge.trans hq) (not_le.mpr hrange)

theorem denotes_of_nearest {x : Float} {q : ℚ} (h : Scalar.Nearest x q) (hgrid : OnGrid q)
    (hq : |q| ≤ Scalar.range) : Scalar.Denotes x q := by
  obtain ⟨y, hy⟩ := exists_double hgrid hq
  exact h.eq hy

/-! ## Counts -/

theorem natural_le_range {n : Nat} (hn : n < 2 ^ 64) : |(n : ℚ)| ≤ Scalar.range := by
  rw [abs_of_nonneg (Nat.cast_nonneg n)]
  calc (n : ℚ) ≤ 2 ^ 64 := by exact_mod_cast hn.le
    _ = 2 ^ (64 : ℤ) := rfl
    _ ≤ Scalar.range := zpow_le_zpow_right₀ one_le_two (by norm_num)

theorem natural_onGrid {n : Nat} (hn : n < 2 ^ 53) : OnGrid n :=
  ⟨n, 0, hn, by norm_num, by rw [zpow_zero, mul_one, abs_of_nonneg (Nat.cast_nonneg n)]⟩

theorem one_denotes : Scalar.Denotes (Float.ofBits 0x3FF0000000000000) 1 := by
  have hexact : Scalar.exact (Float.ofBits 0x3FF0000000000000)
      = .ratio 4503599627370496 4503599627370496 := by decide +kernel
  exact ⟨_, _, hexact, by norm_num, by norm_num⟩

theorem word_denotes {n : Nat} (hn : n < 2 ^ 53) : Scalar.Denotes n.toUInt64.toFloat n := by
  have hword : n.toUInt64.toNat = n := by
    rw [Nat.toUInt64, UInt64.toNat_ofNat']
    omega
  have hrounded : RoundedTo (UnpackedFloat.normalize Format.binary64 n 0 .positive) n := by
    have := normalize_rounded (n : Int) 0 .positive
    rwa [zpow_zero, mul_one, Int.cast_natCast] at this
  have hfloat : n.toUInt64.toFloat
      = ofParts (UnpackedFloat.normalize Format.binary64 n 0 .positive) := by
    show ofParts (UnpackedFloat.normalize Format.binary64 (n.toUInt64.toNat : Int) 0 .positive) = _
    rw [hword]
  rw [hfloat]
  exact denotes_of_nearest ((ofParts_rounded hrounded).nearest (natural_le_range (by omega)))
    (natural_onGrid hn) (natural_le_range (by omega))

/-- A count below 2^53 is a double. -/
theorem ofNat_denotes {n : Nat} (hn : n < 2 ^ 53) : Scalar.Denotes (Float.ofNat n) n := by
  have hproduct : Float.ofNat n = n.toUInt64.toFloat * Float.ofBits 0x3FF0000000000000 := by
    show Float.ofScientific n false 0 = _
    unfold Float.ofScientific
    rw [dif_pos ⟨hn, by decide⟩]
    rfl
  have hrounded := float_mul_rounded (word_denotes hn) one_denotes
  rw [mul_one] at hrounded
  rw [hproduct]
  exact denotes_of_nearest (hrounded.nearest (natural_le_range (by omega))) (natural_onGrid hn)
    (natural_le_range (by omega))

/-- Any count is rounded to the nearest double. -/
theorem ofNat_rounded (n : Nat) : Scalar.Rounded (Float.ofNat n) n := by
  by_cases hn : n < 2 ^ 53
  · exact .inl (ofNat_denotes hn).nearest
  · have hpos : n ≠ 0 := by omega
    have hfloat : Float.ofNat n = ofParts (UnpackedFloat.ofScientific Format.binary64 n 0) := by
      show Float.ofScientific n false 0 = _
      unfold Float.ofScientific
      rw [dif_neg fun h => hn h.1]
      rfl
    have hparts : UnpackedFloat.ofScientific Format.binary64 n 0
        = roundWithAccuracy Format.binary64 .positive ((n <<< 53) * 1) (-53) .exact := by
      unfold UnpackedFloat.ofScientific
      rw [dif_neg hpos, if_neg (by norm_num), if_neg (by norm_num), if_pos le_rfl]
      rfl
    have hvalue : signed .positive ((((n <<< 53) * 1 : Nat) : ℚ) * 2 ^ (-53 : ℤ)) = n := by
      show (((n <<< 53) * 1 : Nat) : ℚ) * 2 ^ (-53 : ℤ) = n
      rw [Nat.mul_one, Nat.shiftLeft_eq]
      push_cast
      rw [zpow_neg]
      field_simp
      norm_num
    rw [hfloat, hparts, ← hvalue]
    refine ofParts_rounded (roundWithAccuracy_rounded .positive (holds_exact _) ?_)
    rw [Nat.mul_one, targetExponent_eq, log2_shiftLeft (Nat.pos_of_ne_zero hpos)]
    omega

/-! ## The double nearest to a quotient -/

/-- What bits denote is what they are read as. -/
theorem denotes_ofBits {n : Nat} (hn : n < 2 ^ 64) {negative : Bool} {m : Binary}
    (h : Reading.ofBits n = .finite negative m) :
    Scalar.Denotes (Float.ofBits (UInt64.ofNat n))
      ((if negative then -1 else 1) * (m.mantissa * 2 ^ m.exponent)) := by
  have hnat : (UInt64.ofNat n).toBitVec.toNat = n := by
    rw [UInt64.toBitVec_ofNat', BitVec.toNat_ofNat]
    omega
  obtain ⟨hunpacks, hcanonical, hpacked⟩ := unpacks_bits (UInt64.ofNat n).toBitVec
  have hparts : (Float.ofBits (UInt64.ofNat n)).toModel.unpack
      = UnpackedFloat.unpack Format.binary64 (UInt64.ofNat n).toBitVec :=
    (unpack_pack hcanonical).trans hpacked
  rw [denotes_iff, hparts]
  rw [hnat, h] at hunpacks
  generalize UnpackedFloat.unpack Format.binary64 (UInt64.ofNat n).toBitVec = u at hunpacks ⊢
  cases hunpacks with
  | zero s e narrow =>
      rw [Nat.cast_zero, zero_mul, mul_zero]
      exact .zero s
  | finite s m e hm narrow =>
      have hsigned : (if isNegative s = true then (-1 : ℚ) else 1) * (m * 2 ^ e)
          = signed s (m * 2 ^ e) := by
        cases s with
        | negative => exact neg_one_mul _
        | positive => exact one_mul _
      rw [hsigned]
      exact .finite s m e hm

/-- Bits below those of the infinite are read as a finite number, with either sign. -/
theorem ofBits_signed {b : Nat} (hb : b < 2047 * twoTo 52) (negative : Bool) :
    ∃ m : Binary, Reading.ofBits (if negative then b + twoTo 63 else b) = .finite negative m ∧
      m.bits = b ∧ (m.mantissa = 0 ∧ m.bits = 0 ∨ m.Valid) := by
  have h52 : twoTo 52 = 4503599627370496 := rfl
  have h63 : twoTo 63 = 9223372036854775808 := rfl
  have h11 : twoTo 11 = 2048 := rfl
  obtain ⟨n, hn⟩ : ∃ n, n = if negative then b + twoTo 63 else b := ⟨_, rfl⟩
  have hlt : n < 2 ^ 64 := by
    rw [h52] at hb
    rw [hn, h63]
    split_ifs <;> omega
  have hfield : ¬ n / twoTo 52 % twoTo 11 = 2047 := by
    rw [h52] at hb
    rw [hn, h52, h63, h11]
    split_ifs <;> omega
  rw [← hn]
  cases hr : Reading.ofBits n with
  | nan =>
      rw [Reading.ofBits] at hr
      rw [if_neg hfield] at hr
      split_ifs at hr
  | infinite s =>
      rw [Reading.ofBits] at hr
      rw [if_neg hfield] at hr
      split_ifs at hr
  | finite s m =>
      obtain ⟨hvalid, hbits⟩ := Decimal.Reading.ofBits_finite hlt hr
      have hsmall : m.bits < 2047 * twoTo 52 := by
        rcases hvalid with ⟨-, hzero⟩ | hvalid
        · rw [hzero]
          decide
        · exact Decimal.Binary.bits_lt hvalid
      rw [hn, h63] at hbits
      rw [h52] at hb hsmall
      have hsame : s = negative ∧ m.bits = b := by
        cases s with
        | false =>
            cases negative with
            | false => exact ⟨rfl, hbits.symm⟩
            | true =>
                simp at hbits
                omega
        | true =>
            cases negative with
            | false =>
                simp at hbits
                omega
            | true =>
                simp at hbits
                exact ⟨rfl, hbits.symm⟩
      exact ⟨m, by rw [hsame.1], hsame.2, hvalid⟩

/-- The bits that a rounded mantissa at its exponent gives denote it; when it has got a bit too
    much, the bit runs into the exponent. -/
theorem value_of_bits {m : Binary} (hm : m.mantissa = 0 ∧ m.bits = 0 ∨ m.Valid) {k : Nat}
    {q : Int} (hk : k ≤ 2 ^ 53) (hq : -1074 ≤ q) (hfull : q = -1074 ∨ 2 ^ 52 ≤ k)
    (hbits : m.bits = ((q + 1074) * (twoTo 52 : Nat)).toNat + k) :
    (m.mantissa : ℚ) * 2 ^ m.exponent = k * 2 ^ q := by
  have h52 : twoTo 52 = 4503599627370496 := rfl
  rcases hm with ⟨hzero, hnone⟩ | hvalid
  · have hk0 : k = 0 := by omega
    rw [hzero, hk0, Nat.cast_zero, zero_mul, zero_mul]
  · have hlt := hvalid.mantissa_lt
    have hge := hvalid.exponent_ge
    have hnormal := hvalid.normal
    rw [Binary.bits, h52] at hbits
    rcases hk.lt_or_eq with hless | rfl
    · have hexponent : m.exponent = q := by omega
      have hmantissa : m.mantissa = k := by
        rw [hexponent] at hbits
        omega
      rw [hexponent, hmantissa]
    · have hexponent : m.exponent = q + 1 := by omega
      have hmantissa : m.mantissa = 2 ^ 52 := by
        rw [hexponent] at hbits
        omega
      rw [hexponent, hmantissa, zpow_add₀ two_ne_zero]
      norm_num
      ring

/-- The bits that are found for a quotient are those of a mantissa that is off by at most a
    half, at the exponent that gives it 53 bits. -/
theorem bitsOfRatio?_eq_some {num den bits : Nat} (hden : 0 < den)
    (h : Binary.bitsOfRatio? num den = some bits) :
    ∃ (k : Nat) (q : Int), k ≤ 2 ^ 53 ∧ -1074 ≤ q ∧ (q = -1074 ∨ 2 ^ 52 ≤ k) ∧
      bits = ((q + 1074) * (twoTo 52 : Nat)).toNat + k ∧ bits < 2047 * twoTo 52 ∧
      |(k : ℚ) - num / den / 2 ^ q| ≤ 1 / 2 ∧
      (q = -1074 ∨ (2 : ℚ) ^ 52 ≤ num / den / 2 ^ q) := by
  rw [Binary.bitsOfRatio?] at h
  by_cases hzero : num = 0
  · rw [if_pos hzero] at h
    obtain rfl := Option.some.inj h
    refine ⟨0, -1074, by norm_num, le_rfl, .inl rfl, by decide, by decide, ?_, .inl rfl⟩
    rw [hzero, Nat.cast_zero, zero_div, zero_div, sub_zero, abs_zero]
    norm_num
  · rw [if_neg hzero] at h
    obtain ⟨hq, hlt, hfull⟩ := Decimal.exponentFor_spec (Nat.pos_of_ne_zero hzero) hden
    dsimp only at h
    generalize Binary.exponentFor num den = q at *
    have hden' : 0 < den * twoTo q.toNat := Nat.mul_pos hden (Nat.pow_pos two_pos)
    have hhalf : |(Decimal.roundHalfEven (num * twoTo (-q).toNat) (den * twoTo q.toNat) : ℚ)
        - ((num * twoTo (-q).toNat : Nat) : ℚ) / ((den * twoTo q.toNat : Nat) : ℚ)| ≤ 1 / 2 :=
      Decimal.roundHalfEven_half hden'
    rw [Decimal.scaled_quotient hden] at hhalf
    generalize Decimal.roundHalfEven (num * twoTo (-q).toNat) (den * twoTo q.toNat) = k at *
    split_ifs at h with hfits
    obtain rfl := Option.some.inj h
    obtain ⟨hlow, hhigh⟩ := abs_le.mp hhalf
    refine ⟨k, q, ?_, hq, ?_, rfl, hfits, hhalf, hfull⟩
    · have hless : (k : ℚ) < 2 ^ 53 + 1 := by linarith
      exact Nat.le_of_lt_succ (by exact_mod_cast hless)
    · refine hfull.imp_right fun hfull => ?_
      have hmore : (2 : ℚ) ^ 52 < k + 1 := by linarith
      exact Nat.le_of_lt_succ (by exact_mod_cast hmore)

/-- **THE NEAREST DOUBLE TO A QUOTIENT** is nearest to it among all doubles. -/
theorem ofQuotient?_nearest {num : Int} {den : Nat} (hden : 0 < den) {x : Float}
    (h : Binary.ofQuotient? num den = some x) : Scalar.Nearest x (num / den) := by
  obtain ⟨bits, hbits, rfl⟩ := Option.map_eq_some_iff.mp h
  obtain ⟨k, q, hk, hq, hfull, hsum, hfits, hhalf, hfull'⟩ := bitsOfRatio?_eq_some hden hbits
  obtain ⟨m, hread, hm, hvalid⟩ := ofBits_signed hfits (decide (num < 0))
  have hvalue := value_of_bits hvalid hk hq hfull (hm.trans hsum)
  have hlt : (if decide (num < 0) = true then bits + twoTo 63 else bits) < 2 ^ 64 := by
    have h52 : twoTo 52 = 4503599627370496 := rfl
    have h63 : twoTo 63 = 9223372036854775808 := rfl
    rw [h52] at hfits
    rw [h63]
    split_ifs <;> omega
  have hdenotes := denotes_ofBits hlt hread
  rw [hvalue] at hdenotes
  obtain ⟨s, hs, hnum⟩ : ∃ s, isNegative s = decide (num < 0) ∧
      (num : ℚ) / den = signed s (num.natAbs / den) := by
    rcases lt_or_ge num 0 with hneg | hnonneg
    · refine ⟨.negative, (decide_eq_true hneg).symm, ?_⟩
      show _ = -((num.natAbs : ℚ) / den)
      rw [← Int.cast_natCast num.natAbs, Int.ofNat_natAbs_of_nonpos hneg.le, Int.cast_neg,
        neg_div, neg_neg]
    · refine ⟨.positive, (decide_eq_false (not_lt.mpr hnonneg)).symm, ?_⟩
      show _ = (num.natAbs : ℚ) / den
      rw [← Int.cast_natCast num.natAbs, Int.natAbs_of_nonneg hnonneg]
  have hsign : (if decide (num < 0) = true then (-1 : ℚ) else 1) * (k * 2 ^ q)
      = signed s (k * 2 ^ q) := by
    rw [← hs]
    cases s with
    | negative => exact neg_one_mul _
    | positive => exact one_mul _
  rw [hsign] at hdenotes
  refine ⟨_, hdenotes, fun y b hb => ?_⟩
  rw [hnum]
  exact signed_nearest (fun b hb => nearest_of_half hhalf hfull' hb) s b (onGrid hb)

/-! ## A part of one and the rest of it -/

/-- Above one the grid has no finer step than 2^-52. -/
theorem next_above_one {c : ℚ} (hc : OnGrid c) (hone : 1 < c) : 1 + 1 / 2 ^ 52 ≤ c := by
  obtain ⟨m, e, hm, -, habs⟩ := hc
  rw [abs_of_pos (by linarith)] at habs
  have he : -52 ≤ e := by
    by_contra hsmall
    have hle : c ≤ 1 := by
      calc c = m * 2 ^ e := habs
        _ ≤ 2 ^ (53 : ℤ) * 2 ^ (-53 : ℤ) := by
            refine mul_le_mul ?_ (zpow_le_zpow_right₀ one_le_two (by omega))
              (zpow_pos two_pos e).le (by norm_num)
            exact_mod_cast hm.le
        _ = 1 := by norm_num
    linarith
  obtain ⟨n, rfl⟩ : ∃ n : Nat, e = n - 52 := ⟨(e + 52).toNat, by omega⟩
  have hsteps : c = ((m * 2 ^ n : Nat) : ℚ) / 2 ^ 52 := by
    rw [habs, zpow_sub₀ two_ne_zero, zpow_natCast]
    push_cast
    rw [mul_div_assoc]
    norm_num
  rw [hsteps, lt_div_iff₀ (by norm_num), one_mul] at hone
  have hnext : 2 ^ 52 + 1 ≤ m * 2 ^ n := by exact_mod_cast hone
  have hnext' : (2 : ℚ) ^ 52 + 1 ≤ ((m * 2 ^ n : Nat) : ℚ) := by exact_mod_cast hnext
  rw [hsteps, le_div_iff₀ (by norm_num), add_mul, one_div_mul_cancel (by norm_num), one_mul]
  exact hnext'

theorem small_le_range {q : ℚ} (h0 : 0 ≤ q) (h1 : q ≤ 1) : |q| ≤ Scalar.range := by
  rw [abs_of_nonneg h0]
  exact h1.trans (one_le_zpow₀ one_le_two (by norm_num))

/-- Above a half, the rest of one is on the grid of the part. -/
theorem rest_onGrid {a : ℚ} (ha : OnGrid a) (hhalf : 1 / 2 ≤ a) (hone : a ≤ 1) :
    OnGrid (1 - a) := by
  obtain ⟨m, e, hm, he, habs⟩ := ha
  rw [abs_of_nonneg (by linarith)] at habs
  rcases le_or_gt 0 e with hlarge | hsmall
  · -- At such an exponent the part is an integer, so it is one.
    obtain ⟨n, rfl⟩ := Int.eq_ofNat_of_zero_le hlarge
    have hint : a = ((m * 2 ^ n : Nat) : ℚ) := by
      rw [habs, zpow_natCast]
      push_cast
      rfl
    have hcount : m * 2 ^ n = 1 := by
      have hle : m * 2 ^ n ≤ 1 := by exact_mod_cast hint ▸ hone
      have hpos : 0 < m * 2 ^ n := by
        have : (0 : ℚ) < ((m * 2 ^ n : Nat) : ℚ) := by
          rw [← hint]
          linarith
        exact_mod_cast this
      omega
    rw [hint, hcount, Nat.cast_one, sub_self]
    exact ⟨0, 0, by norm_num, by norm_num, by norm_num⟩
  · obtain ⟨n, rfl⟩ : ∃ n : Nat, e = -n := ⟨(-e).toNat, by omega⟩
    have hpow : (0 : ℚ) < 2 ^ n := pow_pos two_pos n
    rw [zpow_neg, zpow_natCast, ← div_eq_mul_inv] at habs
    have hle : m ≤ 2 ^ n := by
      rw [habs, div_le_one hpow] at hone
      exact_mod_cast hone
    have hge : 2 ^ n ≤ 2 * m := by
      rw [habs, le_div_iff₀ hpow] at hhalf
      have : (2 : ℚ) ^ n ≤ 2 * m := by linarith
      exact_mod_cast this
    refine ⟨2 ^ n - m, -n, by omega, he, ?_⟩
    rw [abs_of_nonneg (by linarith), zpow_neg, zpow_natCast, ← div_eq_mul_inv, Nat.cast_sub hle,
      Nat.cast_pow, Nat.cast_two, sub_div, div_self hpow.ne', habs]

/-- Any rest of one is next to a multiple of 2^-53. -/
theorem exists_near_rest {a : ℚ} (h0 : 0 ≤ a) (h1 : a ≤ 1) :
    ∃ w, OnGrid w ∧ 0 ≤ w ∧ w ≤ 1 ∧ |w - (1 - a)| ≤ 1 / 2 ^ 54 := by
  obtain ⟨k, hk⟩ : ∃ k : ℤ, k = ⌊(1 - a) * 2 ^ 53 + 1 / 2⌋ := ⟨_, rfl⟩
  have hlow := Int.floor_le ((1 - a) * 2 ^ 53 + 1 / 2)
  have hhigh := Int.lt_floor_add_one ((1 - a) * 2 ^ 53 + 1 / 2)
  rw [← hk] at hlow hhigh
  have hpositive : (0 : ℚ) ≤ (1 - a) * 2 ^ 53 := mul_nonneg (by linarith) (by norm_num)
  have hsmall : (1 - a) * 2 ^ 53 ≤ (2 : ℚ) ^ 53 := mul_le_of_le_one_left (by norm_num) (by linarith)
  have hk0 : 0 ≤ k := by
    have : (-1 : ℚ) < k := by linarith
    have : (-1 : ℤ) < k := by exact_mod_cast this
    omega
  have hk1 : k ≤ 2 ^ 53 := by
    have : (k : ℚ) < 2 ^ 53 + 1 := by linarith
    have : k < 2 ^ 53 + 1 := by exact_mod_cast this
    omega
  obtain ⟨n, rfl⟩ := Int.eq_ofNat_of_zero_le hk0
  have hn : n ≤ 2 ^ 53 := by exact_mod_cast hk1
  rw [Int.cast_natCast] at hlow hhigh
  refine ⟨n / 2 ^ 53, ?_, by positivity, ?_, ?_⟩
  · rcases hn.lt_or_eq with hless | rfl
    · refine ⟨n, -53, hless, by norm_num, ?_⟩
      rw [abs_of_nonneg (by positivity), zpow_neg, div_eq_mul_inv]
      rfl
    · exact ⟨1, 0, by norm_num, by norm_num, by norm_num⟩
  · rw [div_le_one (by norm_num)]
    exact_mod_cast hn
  · rw [abs_le]
    constructor
    · rw [neg_le_sub_iff_le_add, ← sub_le_iff_le_add', le_div_iff₀ (by norm_num)]
      linarith
    · rw [sub_le_iff_le_add, div_le_iff₀ (by norm_num)]
      linarith

/-- **A PART OF ONE AND ITS REST** are together at most one, also when the rest and the sum
    are rounded. -/
theorem complement_le {x y z : Float} {a b c : ℚ} (ha0 : 0 ≤ a) (ha1 : a ≤ 1)
    (hx : Scalar.Denotes x a) (hy : Scalar.Nearest y (1 - a)) (hb : Scalar.Denotes y b)
    (hz : Scalar.Nearest z (a + b)) (hc : Scalar.Denotes z c) : c ≤ 1 := by
  rcases le_or_gt (1 / 2) a with hhalf | hsmall
  · have hrest := denotes_of_nearest hy (rest_onGrid (onGrid hx) hhalf ha1)
      (small_le_range (by linarith) (by linarith))
    obtain rfl := hrest.unique hb
    exact hz.le hc one_denotes (by linarith)
  · obtain ⟨w, hw, hw0, hw1, hnear⟩ := exists_near_rest ha0 ha1
    obtain ⟨w', hw'⟩ := exists_double hw (small_le_range hw0 hw1)
    obtain ⟨b', hb', hnearest⟩ := hy
    obtain rfl := hb'.unique hb
    have hoff := (hnearest w' w hw').trans hnear
    by_contra hmore
    rw [not_le] at hmore
    -- The next number above one is farther from the sum than one itself.
    have hstep := next_above_one (onGrid hc) hmore
    obtain ⟨c', hc', hnearest'⟩ := hz
    obtain rfl := hc'.unique hc
    have hmiddle := Scalar.middle_le hmore (hnearest' _ 1 one_denotes)
    have hsum : b' - (1 - a) ≤ 1 / 2 ^ 54 := (abs_le.mp hoff).2
    norm_num at hstep hsum
    linarith

/-! ## Doubles are such an arithmetic -/

/-- The parts of a double that is not zero are the only ones that denote what it denotes. -/
theorem eq_of_parts_denote {u v : UnpackedFloat} {a : ℚ} (hu : Canonical u) (hv : Canonical v)
    (ha : Denotes u a) (hb : Denotes v a) (hne : a ≠ 0) : u = v := by
  cases ha with
  | zero s => exact absurd rfl hne
  | finite s m e hm =>
      have hpos : (0 : ℚ) < m * 2 ^ e := mul_pos (by exact_mod_cast hm) (zpow_pos two_pos e)
      generalize hvalue : signed s (m * 2 ^ e) = a at *
      cases hb with
      | zero t => exact absurd rfl hne
      | finite t m' e' hm' =>
          have hpos' : (0 : ℚ) < m' * 2 ^ e' :=
            mul_pos (by exact_mod_cast hm') (zpow_pos two_pos e')
          have hsame : s = t ∧ (m : ℚ) * 2 ^ e = m' * 2 ^ e' := by
            cases s with
            | negative =>
                cases t with
                | negative => exact ⟨rfl, neg_injective hvalue⟩
                | positive =>
                    have : -((m : ℚ) * 2 ^ e) = m' * 2 ^ e' := hvalue
                    linarith
            | positive =>
                cases t with
                | negative =>
                    have : (m : ℚ) * 2 ^ e = -(m' * 2 ^ e') := hvalue
                    linarith
                | positive => exact ⟨rfl, hvalue⟩
          obtain ⟨rfl, hmagnitude⟩ := hsame
          obtain ⟨rfl, rfl⟩ := eq_of_value_eq hu hv hmagnitude
          rfl

/-- A double that is not zero is the only one that denotes what it denotes. -/
theorem eq_of_denotes {x y : Float} {a : ℚ} (hx : Scalar.Denotes x a) (hy : Scalar.Denotes y a)
    (hne : a ≠ 0) : x = y := by
  obtain ⟨hu, ha⟩ := parts_denote hx
  obtain ⟨hv, hb⟩ := parts_denote hy
  have hparts := eq_of_parts_denote hu hv ha hb hne
  obtain ⟨hreadx, -⟩ := unpacks x
  obtain ⟨hready, -⟩ := unpacks y
  rw [← hparts] at hready
  generalize x.toModel.unpack = u at hreadx hready ha
  generalize hrx : Reading.ofFloat x = rx at hreadx
  generalize hry : Reading.ofFloat y = ry at hready
  cases ha with
  | zero s => exact absurd rfl hne
  | finite s m e hm =>
      cases hreadx with
      | finite =>
          cases hready with
          | finite =>
              obtain ⟨-, hbitsx⟩ := Decimal.Reading.ofFloat_finite hrx
              obtain ⟨-, hbitsy⟩ := Decimal.Reading.ofFloat_finite hry
              exact hbitsx.symm.trans hbitsy

instance : Scalar.Rounds Float where
  den_pos x num den h := by
    have hx := stands x
    rw [h] at hx
    generalize x.toModel.unpack = u at hx
    cases hx with
    | ratio hden => exact hden
  atMost_eq := atMost_eq
  mul_comm x y := congrArg ofParts (mul_comm_parts x.toModel.unpack y.toModel.unpack)
  ofNat_denotes _ hn := ofNat_denotes hn
  ofNat_nearest n hn := (ofNat_rounded n).nearest (natural_le_range hn)
  ofInt?_nearest n x h := by
    have hnearest := ofQuotient?_nearest Nat.one_pos h
    rwa [Nat.cast_one, div_one] at hnearest
  ofInt?_some n hn :=
    Scalar.ofInt?_double (hn.trans (Nat.pow_lt_pow_right one_lt_two (by norm_num)))
  add_rounded := float_add_rounded
  sub_rounded := float_sub_rounded
  mul_rounded := float_mul_rounded
  div_rounded := float_div_rounded
  injective := eq_of_denotes
  complement := complement_le

/-! ## Integers -/

theorem integer_onGrid {n : Int} (hn : n.natAbs ≤ 2 ^ 53) : OnGrid n := by
  have habs : |(n : ℚ)| = n.natAbs := by rw [Nat.cast_natAbs, Int.cast_abs]
  rcases hn.lt_or_eq with hlt | heq
  · obtain ⟨m, e, hm, he, hvalue⟩ := natural_onGrid hlt
    rw [Nat.abs_cast] at hvalue
    exact ⟨m, e, hm, he, habs.trans hvalue⟩
  · exact ⟨2 ^ 52, 1, by norm_num, by norm_num, by rw [habs, heq]; norm_num⟩

/-- An integer up to 2^53 is a double, whatever its sign. -/
theorem ofInt?_denotes {n : Int} (hn : n.natAbs ≤ 2 ^ 53) :
    ∃ x : Float, Scalar.ofInt? n = some x ∧ Scalar.Denotes x n := by
  have hsmall : n.natAbs < 2 ^ 64 := by omega
  obtain ⟨x, hx⟩ := Scalar.Rounds.ofInt?_some (K := Float) n hsmall
  have hrange : |(n : ℚ)| ≤ Scalar.range := by
    have := natural_le_range hsmall
    rwa [Nat.abs_cast, Nat.cast_natAbs, Int.cast_abs] at this
  exact ⟨x, hx, denotes_of_nearest (Scalar.Rounds.ofInt?_nearest n x hx) (integer_onGrid hn) hrange⟩

end Likeness.Double
