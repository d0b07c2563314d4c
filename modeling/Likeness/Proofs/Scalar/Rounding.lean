import Likeness.Proofs.Decimal.Rounding
import Likeness.Proofs.Scalar.Unpacked
import Mathlib.Algebra.Order.Ring.Abs
import Mathlib.Tactic.Linarith
import Mathlib.Tactic.Positivity
import Mathlib.Tactic.Ring

/-! # Rounding the parts of doubles

    Doubles lie on a grid: at each exponent the multiples of a power of two, with
    mantissas below 2^53 (`OnGrid`).  A mantissa that has 53 bits, or the least
    exponent, and is off by at most a half of its last place, is nearest to the
    exact result on the whole grid (`nearest_of_half`).

    The logical model rounds a mantissa with two more bits, which say where the
    exact mantissa lies behind it (`Holds`).  Shifting keeps that, and rounding is
    then off by at most a half (`Holds.rounded`).  Together: the model rounds to the
    nearest on the grid (`roundWithAccuracy_rounded`). -/

namespace Likeness.Double

open Float.Model Float.Model.UnpackedFloat

/-! ## The grid -/

/-- A fraction that is a mantissa of 53 bits at some exponent, with a sign.  The exponent has
    no upper bound. -/
def OnGrid (b : ℚ) : Prop := ∃ (m : Nat) (e : ℤ), m < 2 ^ 53 ∧ -1074 ≤ e ∧ |b| = m * 2 ^ e

theorem OnGrid.neg {b : ℚ} (h : OnGrid b) : OnGrid (-b) := by
  rw [OnGrid, abs_neg]
  exact h

/-- A natural that is off by at most a half is nearest among the integers. -/
theorem near_integer {w : ℚ} {r : Nat} (h : |(r : ℚ) - w| ≤ 1 / 2) (k : ℤ) :
    |(r : ℚ) - w| ≤ |(k : ℚ) - w| := by
  by_cases hk : k = r
  · rw [hk]
    exact le_rfl
  · -- Another integer is at least one away from it.
    have hgap : (1 : ℚ) ≤ |(k : ℚ) - r| := by
      have hint : (1 : ℤ) ≤ |k - r| := Int.one_le_abs (sub_ne_zero.mpr hk)
      exact_mod_cast hint
    have htriangle : |(k : ℚ) - r| ≤ |(k : ℚ) - w| + |(r : ℚ) - w| := by
      have := abs_sub_le (k : ℚ) w r
      rwa [abs_sub_comm w (r : ℚ)] at this
    linarith

/-- **ROUNDING AT THE RIGHT EXPONENT IS ROUNDING TO THE NEAREST**. -/
theorem nearest_of_half {q : ℚ} {r : Nat} {e : ℤ}
    (hhalf : |(r : ℚ) - q / 2 ^ e| ≤ 1 / 2) (hfull : e = -1074 ∨ (2 : ℚ) ^ 52 ≤ q / 2 ^ e)
    {b : ℚ} (hb : OnGrid b) : |r * 2 ^ e - q| ≤ |b - q| := by
  have hpos : (0 : ℚ) < 2 ^ e := zpow_pos two_pos e
  have hscale : ∀ k : ℚ, |k * 2 ^ e - q| = |k - q / 2 ^ e| * 2 ^ e := by
    intro k
    rw [← abs_of_pos hpos, ← abs_mul, abs_of_pos hpos, sub_mul, div_mul_cancel₀ q hpos.ne']
  have hinteger : ∀ k : ℤ, |r * 2 ^ e - q| ≤ |k * 2 ^ e - q| := by
    intro k
    rw [hscale, hscale]
    exact mul_le_mul_of_nonneg_right (near_integer hhalf k) hpos.le
  obtain ⟨m, e', hm, he', habs⟩ := hb
  rcases le_or_gt e e' with hle | hlt
  · -- A multiple of a larger power of two is one of this power.
    obtain ⟨n, rfl⟩ : ∃ n : Nat, e' = e + n := ⟨(e' - e).toNat, by omega⟩
    have hmultiple : |b| = ((m * 2 ^ n : Nat) : ℚ) * 2 ^ e := by
      rw [habs, zpow_add₀ two_ne_zero, zpow_natCast]
      push_cast
      ring
    rcases abs_choice b with hsign | hsign
    · have hk := hinteger ((m * 2 ^ n : Nat) : ℤ)
      rwa [Int.cast_natCast, ← hmultiple, hsign] at hk
    · have hk := hinteger (-((m * 2 ^ n : Nat) : ℤ))
      rwa [Int.cast_neg, Int.cast_natCast, neg_mul, ← hmultiple, hsign, neg_neg] at hk
  · -- What needs a smaller one lies below the least mantissa of 53 bits.
    have hleast : (2 : ℚ) ^ 52 * 2 ^ e ≤ q := by
      have := hfull.resolve_left (by omega)
      rwa [le_div_iff₀ hpos] at this
    have hbelow : |b| ≤ 2 ^ 52 * 2 ^ e := by
      calc |b| = m * 2 ^ e' := habs
        _ ≤ 2 ^ 53 * 2 ^ e' := by
            refine mul_le_mul_of_nonneg_right ?_ (zpow_pos two_pos e').le
            exact_mod_cast hm.le
        _ = 2 ^ (53 + e') := by
            rw [zpow_add₀ two_ne_zero]
            norm_num
        _ ≤ 2 ^ (52 + e) := zpow_le_zpow_right₀ one_le_two (by omega)
        _ = 2 ^ 52 * 2 ^ e := by
            rw [zpow_add₀ two_ne_zero]
            norm_num
    have hk : |r * 2 ^ e - q| ≤ |(2 : ℚ) ^ 52 * 2 ^ e - q| := by
      have := hinteger (2 ^ 52)
      rwa [Int.cast_pow] at this
    rw [abs_of_nonpos (sub_nonpos.mpr hleast)] at hk
    have hb' : b ≤ |b| := le_abs_self b
    rw [abs_of_nonpos (a := b - q) (by linarith)]
    linarith

/-! ## The exact mantissa -/

/-- What the bit behind a mantissa stands for. -/
def half (round : Bool) : ℚ := if round then 1 / 2 else 0

/-- The exact mantissa: the two bits behind the mantissa say whether a half is in it, and
    whether there is anything else. -/
def Holds (em : ExtendedMantissa) (w : ℚ) : Prop :=
  ∃ rest, 0 ≤ rest ∧ rest < 1 / 2 ∧ (em.stickyBit = true ↔ 0 < rest) ∧
    w = em.mantissa + half em.roundBit + rest

theorem half_bounds (round : Bool) : 0 ≤ half round ∧ half round ≤ 1 / 2 := by
  cases round with
  | false => exact ⟨le_rfl, by norm_num [half]⟩
  | true => exact ⟨by norm_num [half], le_rfl⟩

theorem Holds.bounds {em : ExtendedMantissa} {w : ℚ} (h : Holds em w) :
    em.mantissa ≤ w ∧ w < em.mantissa + 1 := by
  obtain ⟨rest, hlow, hhigh, -, rfl⟩ := h
  have hhalf := half_bounds em.roundBit
  constructor
  · linarith
  · linarith

/-- The mantissa that is rounded to: the next one if more than a half is behind the mantissa,
    or a half and the mantissa is odd. -/
theorem roundedMantissa_eq (em : ExtendedMantissa) :
    em.roundedMantissa = em.mantissa +
      if em.roundBit then (if em.stickyBit then 1 else em.mantissa % 2) else 0 := by
  obtain ⟨m, round, sticky⟩ := em
  cases round with
  | false => cases sticky <;> rfl
  | true => cases sticky <;> rfl

/-- Rounding takes the mantissa or the next one. -/
theorem roundedMantissa_bounds (em : ExtendedMantissa) :
    em.mantissa ≤ em.roundedMantissa ∧ em.roundedMantissa ≤ em.mantissa + 1 := by
  rw [roundedMantissa_eq]
  split_ifs <;> omega

/-- The rounded mantissa is off by at most a half. -/
theorem Holds.rounded {em : ExtendedMantissa} {w : ℚ} (h : Holds em w) :
    |(em.roundedMantissa : ℚ) - w| ≤ 1 / 2 := by
  obtain ⟨rest, hlow, hhigh, hsticky, rfl⟩ := h
  rw [roundedMantissa_eq, abs_le]
  push_cast
  cases hround : em.roundBit with
  | false =>
      rw [half, if_neg Bool.false_ne_true, if_neg Bool.false_ne_true]
      constructor <;> linarith
  | true =>
      rw [half, if_pos rfl, if_pos rfl]
      by_cases hmore : em.stickyBit = true
      · rw [if_pos hmore]
        constructor <;> linarith
      · have hrest : rest = 0 := le_antisymm (not_lt.mp (mt hsticky.mpr hmore)) hlow
        have hlast : ((em.mantissa % 2 : Nat) : ℚ) ≤ 1 := by
          exact_mod_cast Nat.le_of_lt_succ (Nat.mod_lt em.mantissa two_pos)
        have hlast' : (0 : ℚ) ≤ ((em.mantissa % 2 : Nat) : ℚ) := Nat.cast_nonneg _
        rw [if_neg hmore, hrest]
        constructor <;> linarith

/-- Shifting by one place moves the last bit of the mantissa behind it. -/
theorem Holds.shiftRightOne {em : ExtendedMantissa} {w : ℚ} (h : Holds em w) :
    Holds em.shiftRightOne (w / 2) := by
  obtain ⟨rest, hlow, hhigh, hsticky, rfl⟩ := h
  obtain ⟨hhalf, hhalf'⟩ := half_bounds em.roundBit
  have hparts : (em.mantissa : ℚ)
      = 2 * ((em.mantissa / 2 : Nat) : ℚ) + ((em.mantissa % 2 : Nat) : ℚ) := by
    exact_mod_cast (Nat.div_add_mod em.mantissa 2).symm
  have hlast : half (em.mantissa % 2 != 0) = ((em.mantissa % 2 : Nat) : ℚ) / 2 := by
    rcases Nat.mod_two_eq_zero_or_one em.mantissa with h | h
    · rw [h]
      norm_num [half]
    · rw [h]
      norm_num [half]
  refine ⟨(half em.roundBit + rest) / 2, by linarith, by linarith, ?_, ?_⟩
  · show (em.roundBit || em.stickyBit) = true ↔ _
    rw [Bool.or_eq_true, hsticky]
    cases em.roundBit with
    | false => simp [half]
    | true =>
        have hpos : 0 < (half true + rest) / 2 := by
          rw [half, if_pos rfl]
          linarith
        simp [hpos]
  · show _ = ((em.mantissa / 2 : Nat) : ℚ) + half (em.mantissa % 2 != 0) + _
    rw [hlast, hparts]
    ring

/-- Shifting keeps what the two bits say. -/
theorem Holds.shiftRight {em : ExtendedMantissa} {w : ℚ} (h : Holds em w) (n : Nat) :
    Holds (em >>> n) (w / 2 ^ n) ∧ (em >>> n).mantissa = em.mantissa / 2 ^ n := by
  show Holds (n.repeat ExtendedMantissa.shiftRightOne em) _ ∧
    (n.repeat ExtendedMantissa.shiftRightOne em).mantissa = _
  induction n with
  | zero =>
      rw [pow_zero, pow_zero, div_one, Nat.div_one]
      exact ⟨h, rfl⟩
  | succ n ih =>
      obtain ⟨hholds, hmantissa⟩ := ih
      rw [pow_succ, pow_succ, ← div_div, ← Nat.div_div_eq_div_mul, ← hmantissa]
      exact ⟨hholds.shiftRightOne, rfl⟩

theorem holds_exact (m : Nat) : Holds (.ofMantissaAndAccuracy m .exact) m := by
  refine ⟨0, le_rfl, by norm_num, ?_, ?_⟩
  · simp [ExtendedMantissa.ofMantissaAndAccuracy]
  · simp [ExtendedMantissa.ofMantissaAndAccuracy, half]

/-! ## Rounding -/

/-- A magnitude with a sign. -/
def signed (s : Sign) (v : ℚ) : ℚ := if isNegative s then -v else v

/-- The fraction that parts denote. -/
inductive Denotes : UnpackedFloat → ℚ → Prop where
  | zero (s : Sign) : Denotes (.zero s) 0
  | finite (s : Sign) (m : Nat) (e : Int) (hm : 0 < m) :
      Denotes (.finite s m e hm) (signed s (m * 2 ^ e))

/-- Parts denote what is nearest on the grid to an exact result. -/
structure RoundedTo (u : UnpackedFloat) (q : ℚ) : Prop where
  canonical : Canonical u
  denotes : ∃ a, Denotes u a ∧ ∀ b, OnGrid b → |a - q| ≤ |b - q|

theorem signed_nearest {v q : ℚ} (h : ∀ b, OnGrid b → |v - q| ≤ |b - q|) (s : Sign) :
    ∀ b, OnGrid b → |signed s v - signed s q| ≤ |b - signed s q| := by
  cases s with
  | positive => exact h
  | negative =>
      have hneg : ∀ c : ℚ, |-c - -q| = |c - q| := by
        intro c
        rw [neg_sub_neg, abs_sub_comm]
      intro b hb
      have hb' := h (-b) hb.neg
      rw [← hneg (-b), neg_neg] at hb'
      show |-v - -q| ≤ |b - -q|
      rwa [hneg v]

theorem targetExponent_eq (m : Nat) (e : Int) :
    Format.binary64.targetExponent (totalExponent m e) = max ((m.log2 : Int) + e - 52) (-1074) := by
  show max ((m.log2 : Int) + 1 + e - 53) (-1074) = _
  congr 1
  omega

/-- At the exponent that is aimed at, a mantissa has 53 bits, or the exponent is the least. -/
theorem mantissa_shifted {m n : Nat} {e t : Int} (ht : t = max ((m.log2 : Int) + e - 52) (-1074))
    (hn : t = e + n) : m / 2 ^ n < 2 ^ 53 ∧ (t = -1074 ∨ 2 ^ 52 ≤ m / 2 ^ n) := by
  constructor
  · rw [Nat.div_lt_iff_lt_mul (Nat.pow_pos two_pos), ← Nat.pow_add]
    calc m < 2 ^ (m.log2 + 1) := Nat.lt_log2_self
      _ ≤ 2 ^ (53 + n) := Nat.pow_le_pow_right two_pos (by omega)
  · by_cases hleast : t = -1074
    · exact .inl hleast
    · right
      have hm : m ≠ 0 := by
        rintro rfl
        have : Nat.log2 0 = 0 := by decide
        omega
      rw [Nat.le_div_iff_mul_le (Nat.pow_pos two_pos), ← Nat.pow_add]
      calc 2 ^ (52 + n) = 2 ^ m.log2 := by
            congr 1
            omega
        _ ≤ m := Nat.log2_self_le hm

theorem shiftToTargetExponent_eq (m : Nat) (e : Int) (accuracy : Accuracy) :
    shiftToTargetExponent Format.binary64 m e accuracy
      = (ExtendedMantissa.ofMantissaAndAccuracy m accuracy
          >>> (max ((m.log2 : Int) + e - 52) (-1074) - e).toNat,
        e + (max ((m.log2 : Int) + e - 52) (-1074) - e).toNat) := by
  rw [← targetExponent_eq]
  rfl

/-- A rounded mantissa that has got a bit too much is shifted once more; nothing is lost. -/
theorem shift_carry {r : Nat} {t : Int} (hr : r ≤ 2 ^ 53) (ht : -1074 ≤ t)
    (hfull : t = -1074 ∨ 2 ^ 52 ≤ r) :
    ∃ (em : ExtendedMantissa) (e : Int),
      shiftToTargetExponent Format.binary64 r t .exact = (em, e) ∧
      (em.mantissa : ℚ) * 2 ^ e = r * 2 ^ t ∧ Normal em.mantissa e := by
  refine ⟨_, _, shiftToTargetExponent_eq r t .exact, ?_⟩
  rw [((holds_exact r).shiftRight _).2]
  show ((r / 2 ^ _ : Nat) : ℚ) * _ = _ ∧ Normal (r / 2 ^ _) _
  rcases hr.lt_or_eq with hlt | heq
  · have hlog : r.log2 ≤ 52 := by
      by_cases hzero : r = 0
      · rw [hzero]
        decide
      · exact Nat.le_of_lt_succ ((Nat.log2_lt hzero).mpr hlt)
    have hstay : (max ((r.log2 : Int) + t - 52) (-1074) - t).toNat = 0 := by omega
    rw [hstay, pow_zero, Nat.div_one, Nat.cast_zero, add_zero]
    exact ⟨rfl, hlt, ht, hfull⟩
  · have hlog : r.log2 = 53 := by rw [heq, Nat.log2_two_pow]
    have hone : (max ((r.log2 : Int) + t - 52) (-1074) - t).toNat = 1 := by omega
    rw [hone, heq, Nat.cast_one, zpow_add₀ two_ne_zero, zpow_one]
    refine ⟨?_, by norm_num, by omega, .inr (by norm_num)⟩
    norm_num
    ring

/-- **THE MODEL ROUNDS TO THE NEAREST**.  The exponent may not be beyond the one that is aimed
    at, for mantissas are only made shorter. -/
theorem roundWithAccuracy_rounded (s : Sign) {m : Nat} {e : Int} {accuracy : Accuracy} {w : ℚ}
    (hw : Holds (.ofMantissaAndAccuracy m accuracy) w)
    (he : e ≤ Format.binary64.targetExponent (totalExponent m e)) :
    RoundedTo (roundWithAccuracy Format.binary64 s m e accuracy) (signed s (w * 2 ^ e)) := by
  rw [targetExponent_eq] at he
  obtain ⟨n, hn⟩ : ∃ n : Nat, max ((m.log2 : Int) + e - 52) (-1074) = e + n :=
    ⟨(max ((m.log2 : Int) + e - 52) (-1074) - e).toNat, by omega⟩
  obtain ⟨hlt, hfull⟩ := mantissa_shifted rfl hn
  obtain ⟨hholds, hmantissa⟩ := hw.shiftRight n
  rw [hn] at hfull
  have hmantissa' : (ExtendedMantissa.ofMantissaAndAccuracy m accuracy).mantissa = m := by
    cases accuracy with
    | exact => rfl
    | inexact o => cases o <;> rfl
  rw [hmantissa'] at hmantissa
  -- The first shift leaves the exact mantissa, and rounding it is off by at most a half.
  generalize hem : ExtendedMantissa.ofMantissaAndAccuracy m accuracy >>> n = em at *
  obtain ⟨hround, hround'⟩ := roundedMantissa_bounds em
  have hexact : w * 2 ^ e / 2 ^ (e + (n : Int)) = w / 2 ^ n := by
    rw [zpow_add₀ two_ne_zero, zpow_natCast]
    field_simp
  have hnear : ∀ b, OnGrid b →
      |em.roundedMantissa * 2 ^ (e + (n : Int)) - w * 2 ^ e| ≤ |b - w * 2 ^ e| := by
    intro b hb
    refine nearest_of_half (hexact ▸ hholds.rounded) (hfull.imp_right fun hfull => ?_) hb
    rw [hexact]
    refine le_trans ?_ hholds.bounds.1
    exact_mod_cast hmantissa ▸ hfull
  -- The second shift changes nothing but the form.
  obtain ⟨em', e', hcarry, hvalue, hnormal⟩ :=
    shift_carry (r := em.roundedMantissa) (t := e + n) (by omega) (by omega)
      (hfull.imp_right fun hfull => by omega)
  have hresult : roundWithAccuracy Format.binary64 s m e accuracy
      = if h : em'.mantissa = 0 then .zero s
        else .finite s em'.mantissa e' (Nat.pos_of_ne_zero h) := by
    unfold roundWithAccuracy
    rw [shiftToTargetExponent_eq, hn, add_sub_cancel_left, Int.toNat_natCast, hem]
    dsimp only
    rw [hcarry]
  have hsigned := signed_nearest (hvalue ▸ hnear) s
  rw [hresult]
  split_ifs with hzero
  · refine ⟨trivial, 0, .zero s, ?_⟩
    rw [hzero, Nat.cast_zero, zero_mul] at hsigned
    have hnone : signed s 0 = 0 := by
      unfold signed
      split_ifs
      · exact neg_zero
      · rfl
    rwa [hnone] at hsigned
  · exact ⟨hnormal, _, .finite s _ e' _, hsigned⟩

end Likeness.Double
