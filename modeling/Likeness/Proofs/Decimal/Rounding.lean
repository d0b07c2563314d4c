import Likeness.Decimal.Binary
import Mathlib.Algebra.Order.Field.Power
import Mathlib.Algebra.Order.Field.Rat
import Mathlib.Tactic.FieldSimp
import Mathlib.Tactic.Linarith
import Mathlib.Tactic.NormNum
import Mathlib.Tactic.Positivity
import Mathlib.Tactic.Ring

/-! # Rounding to doubles

    The reals that are rounded to a double lie around it: up to half of the gap to
    each of its neighbours, and with the ends when its mantissa is even
    (`Binary.Around`).  A quotient there is rounded to the bits of the double
    (`Binary.bitsOfRatio?_of_around`).  The exponent is found first, and it may be
    one too small when the double is the least of its magnitude: the mantissa then
    carries into it. -/

namespace Likeness.Decimal

/-! ## Powers -/

theorem zpow_mul_toNat {b : ℚ} (hb : b ≠ 0) (i : ℤ) : b ^ i * b ^ (-i).toNat = b ^ i.toNat := by
  rw [← zpow_natCast, ← zpow_natCast, ← zpow_add₀ hb]
  congr 1
  omega

theorem cast_twoTo (n : Nat) : ((twoTo n : Nat) : ℚ) = 2 ^ n := by
  rw [twoTo]
  exact Nat.cast_pow 2 n

/-- A quotient that is scaled by a power of two. -/
theorem scaled_quotient {num den : Nat} (hden : 0 < den) (q : ℤ) :
    ((num * twoTo (-q).toNat : Nat) : ℚ) / ((den * twoTo q.toNat : Nat) : ℚ)
      = (num / den : ℚ) / 2 ^ q := by
  have hd : (den : ℚ) ≠ 0 := by exact_mod_cast hden.ne'
  have hq : (2 : ℚ) ^ q ≠ 0 := zpow_ne_zero q two_ne_zero
  have hn : (2 : ℚ) ^ (-q).toNat ≠ 0 := pow_ne_zero _ two_ne_zero
  rw [Nat.cast_mul, Nat.cast_mul, cast_twoTo, cast_twoTo, ← zpow_mul_toNat two_ne_zero q]
  field_simp

/-! ## Rounding a quotient -/

/-- A number is rounded to a natural: it is at most a half away, and less if the natural is
    odd. -/
structure Near (k : Nat) (w : ℚ) : Prop where
  low : (k : ℚ) - 1 / 2 < w ∨ (k : ℚ) - 1 / 2 = w ∧ k % 2 = 0
  high : w < k + 1 / 2 ∨ w = k + 1 / 2 ∧ k % 2 = 0

/-- Rounding takes the quotient without its remainder, or the next one. -/
theorem roundHalfEven_eq_or (num den : Nat) :
    roundHalfEven num den = num / den ∨ roundHalfEven num den = num / den + 1 := by
  unfold roundHalfEven
  dsimp only
  split_ifs
  · exact .inl rfl
  · exact .inr rfl
  · exact .inl rfl
  · exact .inr rfl

/-- The natural that a quotient is near to, without fractions. -/
theorem roundHalfEven_eq {num den k : Nat} (hden : 0 < den)
    (hlow : 2 * k * den < 2 * num + den ∨ 2 * k * den = 2 * num + den ∧ k % 2 = 0)
    (hhigh : 2 * num < (2 * k + 1) * den ∨ 2 * num = (2 * k + 1) * den ∧ k % 2 = 0) :
    roundHalfEven num den = k := by
  have hdiv := Nat.div_add_mod num den
  have hmod := Nat.mod_lt num hden
  unfold roundHalfEven
  dsimp only
  generalize num / den = q at *
  generalize num % den = r at *
  rw [Nat.mul_assoc] at hlow
  rw [Nat.add_mul, Nat.mul_assoc] at hhigh
  -- The natural is the quotient without its remainder, or the next one.
  have hk : k = q ∨ k = q + 1 := by
    have hless : k < q + 2 := by
      by_contra hge
      have : (q + 2) * den ≤ k * den := Nat.mul_le_mul_right den (Nat.le_of_not_lt hge)
      rw [Nat.add_mul, Nat.mul_comm q den] at this
      omega
    have hmore : q < k + 1 := by
      by_contra hge
      have : (k + 1) * den ≤ q * den := Nat.mul_le_mul_right den (Nat.le_of_not_lt hge)
      rw [Nat.add_mul, Nat.mul_comm q den] at this
      omega
    omega
  rcases hk with rfl | rfl
  · rw [Nat.mul_comm k den] at hlow hhigh
    have hle : 2 * r < den ∨ 2 * r = den ∧ k % 2 = 0 := by omega
    split_ifs <;> omega
  · rw [Nat.add_mul, Nat.mul_comm q den] at hlow hhigh
    have hge : den < 2 * r ∨ 2 * r = den ∧ (q + 1) % 2 = 0 := by omega
    split_ifs <;> omega

theorem roundHalfEven_of_near {num den k : Nat} (hden : 0 < den) (h : Near k (num / den : ℚ)) :
    roundHalfEven num den = k := by
  have hd : (0 : ℚ) < den := by exact_mod_cast hden
  refine roundHalfEven_eq hden ?_ ?_
  · rcases h.low with hlt | ⟨heq, heven⟩
    · rw [lt_div_iff₀ hd] at hlt
      have hcast : (2 * k * den : ℚ) < 2 * num + den := by linarith
      exact .inl (by exact_mod_cast hcast)
    · rw [eq_div_iff hd.ne'] at heq
      have hcast : (2 * k * den : ℚ) = 2 * num + den := by linarith
      exact .inr ⟨by exact_mod_cast hcast, heven⟩
  · rcases h.high with hlt | ⟨heq, heven⟩
    · rw [div_lt_iff₀ hd] at hlt
      have hcast : (2 * num : ℚ) < (2 * k + 1) * den := by linarith
      exact .inl (by exact_mod_cast hcast)
    · rw [div_eq_iff hd.ne'] at heq
      have hcast : (2 * num : ℚ) = (2 * k + 1) * den := by linarith
      exact .inr ⟨by exact_mod_cast hcast, heven⟩

/-- Rounding is off by at most a half. -/
theorem roundHalfEven_half {num den : Nat} (hden : 0 < den) :
    |(roundHalfEven num den : ℚ) - num / den| ≤ 1 / 2 := by
  have hd : (0 : ℚ) < den := by exact_mod_cast hden
  have hparts : (num / den : ℚ) = (num / den : Nat) + (num % den : Nat) / den := by
    rw [← mul_left_inj' hd.ne', add_mul, div_mul_cancel₀ _ hd.ne', div_mul_cancel₀ _ hd.ne']
    exact_mod_cast (Nat.div_add_mod' num den).symm
  have hrest : ((num % den : Nat) : ℚ) / den * 2 = (2 * (num % den) : Nat) / den := by
    push_cast
    ring
  have hnonneg : (0 : ℚ) ≤ ((num % den : Nat) : ℚ) / den := by positivity
  have hless : ((num % den : Nat) : ℚ) / den < 1 := by
    rw [div_lt_one hd]
    exact_mod_cast Nat.mod_lt num hden
  rw [hparts, abs_le]
  unfold roundHalfEven
  dsimp only
  split_ifs with hlow hhigh
  · have hle : ((2 * (num % den) : Nat) : ℚ) / den ≤ 1 := by
      rw [div_le_one hd]
      exact_mod_cast hlow.le
    constructor <;> linarith
  · have hge : 1 ≤ ((2 * (num % den) : Nat) : ℚ) / den := by
      rw [one_le_div hd]
      exact_mod_cast hhigh.le
    push_cast at *
    constructor <;> linarith
  · have hle : ((2 * (num % den) : Nat) : ℚ) / den ≤ 1 := by
      rw [div_le_one hd]
      exact_mod_cast Nat.le_of_not_lt hhigh
    constructor <;> linarith
  · have hge : 1 ≤ ((2 * (num % den) : Nat) : ℚ) / den := by
      rw [one_le_div hd]
      exact_mod_cast Nat.le_of_not_lt hlow
    push_cast at *
    constructor <;> linarith

/-! ## The exponent -/

theorem log2_bounds {n : Nat} (hn : 0 < n) :
    (2 : ℚ) ^ (n.log2 : ℤ) ≤ n ∧ (n : ℚ) < 2 ^ ((n.log2 : ℤ) + 1) := by
  constructor
  · rw [zpow_natCast]
    exact_mod_cast Nat.log2_self_le hn.ne'
  · have hlt : (n : ℚ) < 2 ^ (n.log2 + 1) := by exact_mod_cast Nat.lt_log2_self (n := n)
    exact_mod_cast hlt

/-- A quotient lies between the powers of two next to that of its logarithms. -/
theorem quotient_bounds {num den : Nat} (hnum : 0 < num) (hden : 0 < den) :
    (2 : ℚ) ^ ((num.log2 : ℤ) - den.log2 - 1) < num / den ∧
      (num / den : ℚ) < 2 ^ ((num.log2 : ℤ) - den.log2 + 1) := by
  obtain ⟨hnumLow, hnumHigh⟩ := log2_bounds hnum
  obtain ⟨hdenLow, hdenHigh⟩ := log2_bounds hden
  have hd : (0 : ℚ) < den := by exact_mod_cast hden
  constructor
  · rw [lt_div_iff₀ hd]
    calc (2 : ℚ) ^ ((num.log2 : ℤ) - den.log2 - 1) * den
        < 2 ^ ((num.log2 : ℤ) - den.log2 - 1) * 2 ^ ((den.log2 : ℤ) + 1) :=
          mul_lt_mul_of_pos_left hdenHigh (zpow_pos two_pos _)
      _ = 2 ^ (num.log2 : ℤ) := by
          rw [← zpow_add₀ two_ne_zero]
          congr 1
          omega
      _ ≤ num := hnumLow
  · rw [div_lt_iff₀ hd]
    calc (num : ℚ) < 2 ^ ((num.log2 : ℤ) + 1) := hnumHigh
      _ = 2 ^ ((num.log2 : ℤ) - den.log2 + 1) * 2 ^ (den.log2 : ℤ) := by
          rw [← zpow_add₀ two_ne_zero]
          congr 1
          omega
      _ ≤ 2 ^ ((num.log2 : ℤ) - den.log2 + 1) * den :=
          mul_le_mul_of_nonneg_left hdenLow (zpow_pos two_pos _).le

/-- The exponent that is found for a quotient leaves it 53 bits, or it is the least one. -/
theorem exponentFor_spec {num den : Nat} (hnum : 0 < num) (hden : 0 < den) :
    -1074 ≤ Binary.exponentFor num den ∧
      (num / den : ℚ) / 2 ^ Binary.exponentFor num den < 2 ^ 53 ∧
      (Binary.exponentFor num den = -1074 ∨
        2 ^ 52 ≤ (num / den : ℚ) / 2 ^ Binary.exponentFor num den) := by
  obtain ⟨hlow, hhigh⟩ := quotient_bounds hnum hden
  unfold Binary.exponentFor
  dsimp only
  generalize hq : max ((num.log2 : ℤ) - den.log2 - 53) (-1074) = q
  have hpos : (0 : ℚ) < 2 ^ q := zpow_pos two_pos q
  have hsucc : (2 : ℚ) ^ (q + 1) = 2 ^ q * 2 := by rw [zpow_add₀ two_ne_zero, zpow_one]
  -- The estimate leaves 53 or 54 bits; with 54, the exponent is one more.
  have hcarry : twoTo 53 ≤ num * twoTo (-q).toNat / (den * twoTo q.toNat) ↔
      (2 : ℚ) ^ 53 ≤ (num / den : ℚ) / 2 ^ q := by
    have hden' : 0 < den * twoTo q.toNat := Nat.mul_pos hden (Nat.pow_pos two_pos)
    rw [← scaled_quotient hden, le_div_iff₀ (by exact_mod_cast hden'), Nat.le_div_iff_mul_le hden',
      ← cast_twoTo, ← Nat.cast_mul, Nat.cast_le]
  have hbelow : (num / den : ℚ) / 2 ^ q < 2 ^ 54 := by
    rw [div_lt_iff₀ hpos]
    calc (num / den : ℚ) < 2 ^ ((num.log2 : ℤ) - den.log2 + 1) := hhigh
      _ ≤ 2 ^ ((54 : ℤ) + q) := zpow_le_zpow_right₀ one_le_two (by omega)
      _ = 2 ^ 54 * 2 ^ q := zpow_add₀ two_ne_zero _ _
  split_ifs with hwhole
  · have hge := hcarry.mp hwhole
    rw [hsucc, ← div_div]
    refine ⟨by omega, ?_, .inr ?_⟩
    · linarith
    · linarith
  · have hlt := lt_of_not_ge (mt hcarry.mpr hwhole)
    refine ⟨by omega, hlt, ?_⟩
    by_cases hleast : q = -1074
    · exact .inl hleast
    · right
      rw [le_div_iff₀ hpos]
      calc (2 : ℚ) ^ 52 * 2 ^ q = 2 ^ ((52 : ℤ) + q) := (zpow_add₀ two_ne_zero _ _).symm
        _ ≤ 2 ^ ((num.log2 : ℤ) - den.log2 - 1) := zpow_le_zpow_right₀ one_le_two (by omega)
        _ ≤ num / den := hlow.le

/-! ## The reals around a double -/

/-- A double that there is, neither zero nor infinite. -/
structure Binary.Valid (x : Binary) : Prop where
  mantissa_pos : 0 < x.mantissa
  mantissa_lt : x.mantissa < 2 ^ 53
  exponent_ge : -1074 ≤ x.exponent
  exponent_le : x.exponent ≤ 971
  /-- The mantissa has all its bits unless the exponent is the least one. -/
  normal : x.exponent = -1074 ∨ 2 ^ 52 ≤ x.mantissa
  narrow : x.narrowBelow = true ↔ x.mantissa = 2 ^ 52 ∧ -1074 < x.exponent

/-- The part of its last place that the reals around a double reach below it. -/
def Binary.reach (x : Binary) : ℚ := if x.narrowBelow then 1 / 4 else 1 / 2

/-- The reals that round to a double; the ends belong to them when the mantissa is even. -/
structure Binary.Around (x : Binary) (v : ℚ) : Prop where
  low : x.mantissa - x.reach < v / 2 ^ x.exponent ∨
    x.mantissa - x.reach = v / 2 ^ x.exponent ∧ x.mantissa % 2 = 0
  high : v / 2 ^ x.exponent < x.mantissa + 1 / 2 ∨
    v / 2 ^ x.exponent = x.mantissa + 1 / 2 ∧ x.mantissa % 2 = 0

theorem Binary.Around.bounds {x : Binary} {v : ℚ} (h : x.Around v) :
    x.mantissa - x.reach ≤ v / 2 ^ x.exponent ∧ v / 2 ^ x.exponent ≤ x.mantissa + 1 / 2 :=
  ⟨h.low.elim le_of_lt fun heq => heq.1.le, h.high.elim le_of_lt fun heq => heq.1.le⟩

theorem Binary.reach_le (x : Binary) : x.reach ≤ 1 / 2 := by
  unfold Binary.reach
  split_ifs
  · norm_num
  · norm_num

/-- The mantissa at an exponent, and the exponent, as the magnitude of bits. -/
def Binary.bits (x : Binary) : Nat := ((x.exponent + 1074) * twoTo 52).toNat + x.mantissa

theorem Binary.Around.pos {x : Binary} (hx : x.Valid) {v : ℚ} (h : x.Around v) :
    0 < v / 2 ^ x.exponent := by
  have hmantissa : (1 : ℚ) ≤ x.mantissa := by exact_mod_cast hx.mantissa_pos
  linarith [h.bounds.1, x.reach_le]

/-- The exponent for a real around a double is that of the double, or one less when the double
    is the least of its magnitude. -/
theorem exponent_of_around {x : Binary} (hx : x.Valid) {v : ℚ} (h : x.Around v) {q : ℤ}
    (hq : -1074 ≤ q) (hlt : v / 2 ^ q < 2 ^ 53) (hge : q = -1074 ∨ 2 ^ 52 ≤ v / 2 ^ q) :
    q = x.exponent ∨ q = x.exponent - 1 ∧ x.narrowBelow = true := by
  obtain ⟨hlow, hhigh⟩ := h.bounds
  have hpos := h.pos hx
  have hshift : v / 2 ^ q = v / 2 ^ x.exponent * 2 ^ (x.exponent - q) := by
    rw [zpow_sub₀ two_ne_zero]
    field_simp
  rw [hshift] at hlt hge
  generalize v / 2 ^ x.exponent = w at *
  have hmantissa : (x.mantissa : ℚ) + 1 ≤ 2 ^ 53 := by exact_mod_cast hx.mantissa_lt
  rcases lt_trichotomy q x.exponent with hless | heq | hgreater
  · -- The mantissa has all its bits, so the real is too large for the exponent, if it is not
    -- just below the least double of its magnitude.
    have hleast := hx.exponent_ge
    have htwice : w * 2 ^ (1 : ℤ) ≤ w * 2 ^ (x.exponent - q) :=
      mul_le_mul_of_nonneg_left (zpow_le_zpow_right₀ one_le_two (by omega)) hpos.le
    rw [zpow_one] at htwice
    have hfull : 2 ^ 52 ≤ x.mantissa := hx.normal.resolve_left (by omega)
    by_cases hnarrow : x.narrowBelow = true
    · refine .inr ⟨?_, hnarrow⟩
      by_contra hne
      have hquad : w * 2 ^ (2 : ℤ) ≤ w * 2 ^ (x.exponent - q) :=
        mul_le_mul_of_nonneg_left (zpow_le_zpow_right₀ one_le_two (by omega)) hpos.le
      have hfull' : (2 : ℚ) ^ 52 ≤ x.mantissa := by exact_mod_cast hfull
      have hfour : (2 : ℚ) ^ (2 : ℤ) = 4 := by norm_num
      rw [hfour] at hquad
      linarith [x.reach_le]
    · exfalso
      have hmore : 2 ^ 52 + 1 ≤ x.mantissa := by
        have hne : x.mantissa ≠ 2 ^ 52 := fun heq => hnarrow (hx.narrow.mpr ⟨heq, by omega⟩)
        omega
      have hmore' : (2 : ℚ) ^ 52 + 1 ≤ x.mantissa := by exact_mod_cast hmore
      linarith [x.reach_le]
  · exact .inl heq
  · exfalso
    have hhalf : w * 2 ^ (x.exponent - q) ≤ w * 2 ^ (-1 : ℤ) :=
      mul_le_mul_of_nonneg_left (zpow_le_zpow_right₀ one_le_two (by omega)) hpos.le
    have hge' := hge.resolve_left (by have := hx.exponent_ge; omega)
    have hinverse : (2 : ℚ) ^ (-1 : ℤ) = 1 / 2 := by norm_num
    rw [hinverse] at hhalf
    linarith

theorem Binary.Around.near {x : Binary} {v : ℚ} (h : x.Around v) :
    Near x.mantissa (v / 2 ^ x.exponent) := by
  refine ⟨?_, h.high⟩
  rcases h.low with hlt | ⟨heq, heven⟩
  · left
    linarith [x.reach_le]
  · rcases x.reach_le.lt_or_eq with hreach | hreach
    · left
      linarith
    · exact .inr ⟨hreach ▸ heq, heven⟩

/-- Next to the least double of its magnitude, at one exponent less, the mantissa carries. -/
theorem Binary.Around.near_below {x : Binary} {v : ℚ} (h : x.Around v)
    (hnarrow : x.narrowBelow = true) (hmantissa : x.mantissa = 2 ^ 52)
    (hlt : v / 2 ^ (x.exponent - 1) < 2 ^ 53) : Near (2 ^ 53) (v / 2 ^ (x.exponent - 1)) := by
  have hdouble : v / 2 ^ (x.exponent - 1) = v / 2 ^ x.exponent * 2 := by
    rw [zpow_sub₀ two_ne_zero, zpow_one]
    field_simp
  have hreach : x.reach = 1 / 4 := if_pos hnarrow
  have hlow := h.bounds.1
  rw [hmantissa, hreach] at hlow
  rw [hdouble] at hlt ⊢
  push_cast at hlow
  constructor
  · push_cast
    rcases hlow.lt_or_eq with hlow | hlow
    · left
      linarith
    · right
      exact ⟨by linarith, by norm_num⟩
  · push_cast
    left
    linarith

/-- The bits of a double are fewer than those of the infinite. -/
theorem Binary.bits_lt {x : Binary} (hx : x.Valid) : x.bits < 2047 * twoTo 52 := by
  have hsize : twoTo 52 = 2 ^ 52 := rfl
  have hlarge := hx.exponent_le
  have hmantissa := hx.mantissa_lt
  rw [Binary.bits, hsize]
  omega

/-- **A QUOTIENT AROUND A DOUBLE IS ROUNDED TO IT**. -/
theorem bitsOfRatio?_of_around {x : Binary} (hx : x.Valid) {num den : Nat} (hden : 0 < den)
    (h : x.Around (num / den)) : Binary.bitsOfRatio? num den = some x.bits := by
  have hnum : 0 < num := by
    by_contra hzero
    have hpos := h.pos hx
    rw [Nat.eq_zero_of_not_pos hzero, Nat.cast_zero, zero_div, zero_div] at hpos
    exact lt_irrefl 0 hpos
  obtain ⟨hq, hlt, hge⟩ := exponentFor_spec hnum hden
  have hexponent := exponent_of_around hx h hq hlt hge
  unfold Binary.bitsOfRatio?
  rw [if_neg hnum.ne']
  dsimp only
  generalize Binary.exponentFor num den = q at *
  have hround : ((q + 1074) * (twoTo 52 : Nat)).toNat
      + roundHalfEven (num * twoTo (-q).toNat) (den * twoTo q.toNat) = x.bits := by
    have hden' : 0 < den * twoTo q.toNat := Nat.mul_pos hden (Nat.pow_pos two_pos)
    -- At one exponent less the mantissa carries into the exponent: the bits are the same.
    rcases hexponent with rfl | ⟨rfl, hnarrow⟩
    · have hnear := h.near
      rw [← scaled_quotient hden] at hnear
      rw [roundHalfEven_of_near hden' hnear]
      rfl
    · obtain ⟨hmantissa, hleast⟩ := hx.narrow.mp hnarrow
      have hnear := h.near_below hnarrow hmantissa hlt
      rw [← scaled_quotient hden] at hnear
      have hsize : twoTo 52 = 2 ^ 52 := rfl
      rw [roundHalfEven_of_near hden' hnear, Binary.bits, hmantissa, hsize]
      omega
  rw [hround, if_pos (Binary.bits_lt hx)]

end Likeness.Decimal
