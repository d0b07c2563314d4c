import Likeness.Scalar
import Mathlib.Algebra.Field.Rat
import Mathlib.Algebra.Order.AbsoluteValue.Basic
import Mathlib.Algebra.Order.Ring.Abs
import Mathlib.Data.Rat.Cast.Order
import Mathlib.Tactic.Linarith
import Mathlib.Tactic.NormNum
import Mathlib.Tactic.Positivity

/-! # What numbers denote, and how they are rounded

    A number of the formulas denotes a fraction, unless it is one of the special
    values.  An operation is rounded: its result denotes the fraction next to the
    exact result, among all fractions that a number denotes (`Nearest`).  Rounding
    keeps the order, and it keeps what needs no rounding (`Nearest.le`,
    `Nearest.ge`, `Nearest.eq`); nothing else is used about it.

    `Rounds` collects what is known of such an arithmetic.  The exact fractions are
    one, in which nothing is ever rounded. -/

namespace Likeness

/-! ## The exact fractions -/

/-- The fraction that an exact number is; what is not finite counts as zero. -/
def Decimal.Exact.fraction : Decimal.Exact → Rat
  | .ratio num den => num / den
  | .infinite _ => 0
  | .nan => 0

/-- Over fractions nothing is rounded, every quotient is a number, and the order is total. -/
instance : Scalar Rat where
  ofNat n := n
  ofFloat x := (Decimal.Exact.ofFloat x).fraction
  nearest? num den := some (num / den)
  atMost x y := decide (x ≤ y)
  exact x := .ratio x.num x.den
  text x := Decimal.intText x.num ++ "/" ++ Decimal.intText x.den

namespace Scalar

theorem ofInt?_fraction (n : Int) : (ofInt? n : Option Rat) = some (n : Rat) := by
  show some ((n : Rat) / ((1 : Nat) : Rat)) = some (n : Rat)
  rw [Nat.cast_one, div_one]

variable {K : Type} [Scalar K]

/-! ## Denotations -/

/-- A number denotes a fraction. -/
def Denotes (x : K) (a : ℚ) : Prop :=
  ∃ num den, exact x = .ratio num den ∧ 0 < den ∧ (num : ℚ) / den = a

theorem Denotes.unique {x : K} {a b : ℚ} (ha : Denotes x a) (hb : Denotes x b) : a = b := by
  obtain ⟨num, den, hexact, -, rfl⟩ := ha
  obtain ⟨num', den', hexact', -, rfl⟩ := hb
  obtain ⟨rfl, rfl⟩ := Decimal.Exact.ratio.inj (hexact.symm.trans hexact')
  rfl

/-- A number is as near to a fraction as any other one. -/
def Nearest (x : K) (q : ℚ) : Prop :=
  ∃ a, Denotes x a ∧ ∀ (y : K) (b : ℚ), Denotes y b → |a - q| ≤ |b - q|

/-- What denotes a fraction is nearest to it. -/
theorem Denotes.nearest {x : K} {a : ℚ} (h : Denotes x a) : Nearest x a := by
  refine ⟨a, h, fun y b _ => ?_⟩
  rw [sub_self, abs_zero]
  exact abs_nonneg _

/-- What is rounded is at most every number that is at least the exact result. -/
theorem Nearest.le {x y : K} {q a b : ℚ} (h : Nearest x q) (hx : Denotes x a) (hy : Denotes y b)
    (hqb : q ≤ b) : a ≤ b := by
  obtain ⟨a', hx', hnearest⟩ := h
  obtain rfl := hx'.unique hx
  by_contra hlt
  rw [not_le] at hlt
  have hdistance := hnearest y b hy
  rw [abs_of_nonneg (sub_nonneg.mpr hqb), abs_of_nonneg (by linarith)] at hdistance
  linarith

/-- What is rounded is at least every number that is at most the exact result. -/
theorem Nearest.ge {x y : K} {q a b : ℚ} (h : Nearest x q) (hx : Denotes x a) (hy : Denotes y b)
    (hbq : b ≤ q) : b ≤ a := by
  obtain ⟨a', hx', hnearest⟩ := h
  obtain rfl := hx'.unique hx
  by_contra hlt
  rw [not_le] at hlt
  have hdistance := hnearest y b hy
  rw [abs_of_nonpos (sub_nonpos.mpr hbq), abs_of_nonpos (by linarith)] at hdistance
  linarith

/-- What a number denotes is not rounded. -/
theorem Nearest.eq {x y : K} {q : ℚ} (h : Nearest x q) (hy : Denotes y q) : Denotes x q := by
  obtain ⟨a, hx, hnearest⟩ := id h
  have heq : a = q := le_antisymm (h.le hx hy le_rfl) (h.ge hx hy le_rfl)
  exact heq ▸ hx

/-- Of two fractions the larger is the nearer one only beyond the middle between both. -/
theorem middle_le {a b q : ℚ} (hlt : b < a) (h : |a - q| ≤ |b - q|) : a + b ≤ 2 * q := by
  rw [← sq_le_sq] at h
  nlinarith

/-- Of two fractions the smaller is the nearer one only before the middle between both. -/
theorem le_middle {a b q : ℚ} (hlt : b < a) (h : |b - q| ≤ |a - q|) : 2 * q ≤ a + b := by
  rw [← sq_le_sq] at h
  nlinarith

/-- Rounding keeps the order. -/
theorem Nearest.mono {x y : K} {q r a b : ℚ} (hq : Nearest x q) (hr : Nearest y r)
    (hx : Denotes x a) (hy : Denotes y b) (hlt : q < r) : a ≤ b := by
  obtain ⟨a', hx', hnear⟩ := hq
  obtain ⟨b', hy', hnear'⟩ := hr
  obtain rfl := hx'.unique hx
  obtain rfl := hy'.unique hy
  by_contra hba
  rw [not_le] at hba
  have hfirst := middle_le hba (hnear y b' hy)
  have hsecond := le_middle hba (hnear' x a' hx)
  linarith

/-! ## Arithmetics that round -/

/-- The magnitude up to which no result is infinite. -/
def range : ℚ := 2 ^ (1000 : ℤ)

/-- The result of an operation is rounded, or it is too large to be. -/
def Rounded (x : K) (q : ℚ) : Prop :=
  Nearest x q ∨ range < |q| ∧ exact x = .infinite (decide (q < 0))

theorem Rounded.nearest {x : K} {q : ℚ} (h : Rounded x q) (hq : |q| ≤ range) : Nearest x q :=
  h.resolve_right fun hbeyond => absurd hbeyond.1 (not_lt.mpr hq)

/-- A result that a number denotes is not rounded. -/
theorem Rounded.denotes {x y : K} {q : ℚ} (h : Rounded x q) (hy : Denotes y q)
    (hq : |q| ≤ range) : Denotes x q :=
  (h.nearest hq).eq hy

/-- An arithmetic whose operations are rounded, with an order that is that of what the
    numbers denote. -/
class Rounds (K : Type) [Scalar K] : Prop where
  den_pos : ∀ (x : K) (num : Int) (den : Nat), exact x = .ratio num den → 0 < den
  atMost_eq : ∀ x y : K, atMost x y = ((exact x).below (exact y) || (exact x).equal (exact y))
  mul_comm : ∀ x y : K, x * y = y * x
  ofNat_denotes : ∀ n : Nat, n < 2 ^ 53 → Denotes (ofNat n : K) n
  ofNat_nearest : ∀ n : Nat, n < 2 ^ 64 → Nearest (ofNat n : K) n
  ofInt?_nearest : ∀ (n : Int) (x : K), ofInt? n = some x → Nearest x n
  ofInt?_some : ∀ n : Int, n.natAbs < 2 ^ 64 → ∃ x : K, ofInt? n = some x
  add_rounded : ∀ {x y : K} {a b : ℚ}, Denotes x a → Denotes y b → Rounded (x + y) (a + b)
  sub_rounded : ∀ {x y : K} {a b : ℚ}, Denotes x a → Denotes y b → Rounded (x - y) (a - b)
  mul_rounded : ∀ {x y : K} {a b : ℚ}, Denotes x a → Denotes y b → Rounded (x * y) (a * b)
  div_rounded : ∀ {x y : K} {a b : ℚ}, Denotes x a → Denotes y b → b ≠ 0 →
    Rounded (x / y) (a / b)
  /-- Only zero is denoted by several numbers. -/
  injective : ∀ {x y : K} {a : ℚ}, Denotes x a → Denotes y a → a ≠ 0 → x = y
  /-- A part of one and the rest of it, which is rounded, are together at most one. -/
  complement : ∀ {x y z : K} {a b c : ℚ}, 0 ≤ a → a ≤ 1 → Denotes x a → Nearest y (1 - a) →
    Denotes y b → Nearest z (a + b) → Denotes z c → c ≤ 1

/-! ## The order -/

theorem ratio_below {num num' : Int} {den den' : Nat} (hden : 0 < den) (hden' : 0 < den') :
    (Decimal.Exact.ratio num den).below (.ratio num' den')
      = decide ((num : ℚ) / den < num' / den') := by
  have hd : (0 : ℚ) < den := by exact_mod_cast hden
  have hd' : (0 : ℚ) < den' := by exact_mod_cast hden'
  show decide (num * (den' : Int) < num' * (den : Int)) = _
  rw [decide_eq_decide, div_lt_div_iff₀ hd hd']
  exact_mod_cast Iff.rfl

theorem ratio_equal {num num' : Int} {den den' : Nat} (hden : 0 < den) (hden' : 0 < den') :
    (Decimal.Exact.ratio num den).equal (.ratio num' den')
      = decide ((num : ℚ) / den = num' / den') := by
  have hd : (den : ℚ) ≠ 0 := by exact_mod_cast hden.ne'
  have hd' : (den' : ℚ) ≠ 0 := by exact_mod_cast hden'.ne'
  show (num * (den' : Int) == num' * (den : Int)) = _
  rw [beq_eq_decide, decide_eq_decide, div_eq_div_iff hd hd']
  exact_mod_cast Iff.rfl

theorem ratio_order {num num' : Int} {den den' : Nat} (hden : 0 < den) (hden' : 0 < den') :
    ((Decimal.Exact.ratio num den).below (.ratio num' den')
        || (Decimal.Exact.ratio num den).equal (.ratio num' den'))
      = decide ((num : ℚ) / den ≤ num' / den') := by
  rw [ratio_below hden hden', ratio_equal hden hden', ← Bool.decide_or]
  exact decide_eq_decide.mpr le_iff_lt_or_eq.symm

section Order

variable [Rounds K] {x y : K} {a b : ℚ}

/-- Numbers are compared as what they denote. -/
theorem Denotes.atMost (hx : Denotes x a) (hy : Denotes y b) : atMost x y = decide (a ≤ b) := by
  obtain ⟨num, den, hexact, hden, rfl⟩ := hx
  obtain ⟨num', den', hexact', hden', rfl⟩ := hy
  rw [Rounds.atMost_eq, hexact, hexact', ratio_order hden hden']

theorem Denotes.below (hx : Denotes x a) (hy : Denotes y b) : below x y = decide (a < b) := by
  rw [Scalar.below, hx.atMost hy, hy.atMost hx, Bool.eq_iff_iff, Bool.and_eq_true,
    Bool.not_eq_true', decide_eq_true_iff, decide_eq_false_iff_not, decide_eq_true_iff]
  exact ⟨fun h => lt_of_not_ge h.2, fun h => ⟨h.le, not_le.mpr h⟩⟩

end Order

/-! ## Numbers within bounds -/

section Bounds

variable [Rounds K] {x y z : K} {a b c q : ℚ}

theorem zero_denotes : Denotes (ofNat 0 : K) 0 := by
  have h := Rounds.ofNat_denotes (K := K) 0 (by norm_num)
  rwa [Nat.cast_zero] at h

theorem one_denotes : Denotes (ofNat 1 : K) 1 := by
  have h := Rounds.ofNat_denotes (K := K) 1 (by norm_num)
  rwa [Nat.cast_one] at h

/-- A number from zero to a bound. -/
def Within (x : K) (c : ℚ) : Prop := ∃ a, Denotes x a ∧ 0 ≤ a ∧ a ≤ c

theorem Nearest.within (h : Nearest x q) (hy : Denotes y c) (h0 : 0 ≤ q) (hq : q ≤ c) :
    Within x c := by
  obtain ⟨a, hx, -⟩ := id h
  exact ⟨a, hx, h.ge hx zero_denotes h0, h.le hx hy hq⟩

/-- A result from zero to a bound that needs no rounding stays so when it is rounded. -/
theorem Rounded.within (h : Rounded x q) (hy : Denotes y c) (h0 : 0 ≤ q) (hq : q ≤ c)
    (hc : c ≤ range) : Within x c := by
  refine (h.nearest ?_).within hy h0 hq
  rw [abs_of_nonneg h0]
  exact hq.trans hc

theorem small_le_range {q : ℚ} (hq : q ≤ 2 ^ 66) : q ≤ range :=
  calc q ≤ 2 ^ 66 := hq
    _ = 2 ^ (66 : ℤ) := rfl
    _ ≤ range := zpow_le_zpow_right₀ one_le_two (by norm_num)

end Bounds

/-! ## The exact fractions -/

theorem denotes_fraction (x : Rat) : Denotes x x :=
  ⟨x.num, x.den, rfl, x.den_pos, x.num_div_den⟩

theorem fraction_of_denotes {x : Rat} {a : ℚ} (h : Denotes x a) : a = x :=
  h.unique (denotes_fraction x)

theorem below_fraction (x y : Rat) : (exact x).below (exact y) = decide (x < y) := by
  show decide (x.num * (y.den : Int) < y.num * (x.den : Int)) = _
  rw [decide_eq_decide, Rat.lt_iff]

theorem equal_fraction (x y : Rat) : (exact x).equal (exact y) = decide (x = y) := by
  show (x.num * (y.den : Int) == y.num * (x.den : Int)) = _
  rw [beq_eq_decide, decide_eq_decide, Rat.eq_iff_mul_eq_mul]

instance : Rounds Rat where
  den_pos x num den h := by
    obtain ⟨-, rfl⟩ := Decimal.Exact.ratio.inj h
    exact x.den_pos
  atMost_eq x y := by
    rw [below_fraction, equal_fraction, ← Bool.decide_or]
    exact decide_eq_decide.mpr le_iff_lt_or_eq
  mul_comm := mul_comm
  ofNat_denotes n _ := denotes_fraction (n : Rat)
  ofNat_nearest n _ := (denotes_fraction (n : Rat)).nearest
  ofInt?_nearest n x h := by
    rw [ofInt?_fraction] at h
    obtain rfl := Option.some.inj h
    exact (denotes_fraction (n : Rat)).nearest
  ofInt?_some n _ := ⟨n, ofInt?_fraction n⟩
  add_rounded ha hb := by
    obtain rfl := fraction_of_denotes ha
    obtain rfl := fraction_of_denotes hb
    exact .inl (denotes_fraction _).nearest
  sub_rounded ha hb := by
    obtain rfl := fraction_of_denotes ha
    obtain rfl := fraction_of_denotes hb
    exact .inl (denotes_fraction _).nearest
  mul_rounded ha hb := by
    obtain rfl := fraction_of_denotes ha
    obtain rfl := fraction_of_denotes hb
    exact .inl (denotes_fraction _).nearest
  div_rounded ha hb _ := by
    obtain rfl := fraction_of_denotes ha
    obtain rfl := fraction_of_denotes hb
    exact .inl (denotes_fraction _).nearest
  injective hx hy _ := (fraction_of_denotes hx).symm.trans (fraction_of_denotes hy)
  complement {x y z a b c} _ _ _ hy hb hz hc := by
    obtain rfl := (hy.eq (denotes_fraction _)).unique hb
    obtain rfl := (hz.eq (denotes_fraction _)).unique hc
    linarith

end Scalar

end Likeness
