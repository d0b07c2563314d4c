import Likeness.Proofs.Scalar.DoubleRounds

/-! # Special values

    A similarity formula may meet infinities and what is not a number.  `Specials`
    says what becomes of them in products and sums, and that a number which is read
    keeps its value.  Doubles obey it (the instance below), and so do exact
    fractions with the special values beside them. -/

namespace Likeness

namespace Scalar

/-- An arithmetic that rounds and has the special values of doubles. -/
class Specials (K : Type) [Scalar K] : Prop extends Rounds K where
  ofFloat_ratio : ∀ {x : Float} {num : Int} {den : Nat},
    Decimal.Exact.ofFloat x = .ratio num den → Denotes (ofFloat x : K) (num / den)
  ofFloat_infinite : ∀ {x : Float} {negative : Bool},
    Decimal.Exact.ofFloat x = .infinite negative → exact (ofFloat x : K) = .infinite negative
  infinite_mul : ∀ {x y : K} {b : ℚ}, exact x = .infinite false → Denotes y b →
    exact (x * y) = if b = 0 then .nan else .infinite (decide (b < 0))
  nan_mul : ∀ {x y : K}, exact x = .nan → exact (x * y) = .nan
  add_nan : ∀ {x y : K}, exact y = .nan → exact (x + y) = .nan

end Scalar

/-! ## Doubles -/

namespace Double

open Float.Model Float.Model.UnpackedFloat

/-- The parts of an infinite double. -/
theorem parts_infinite {x : Float} (h : Scalar.exact x = .infinite false) :
    x.toModel.unpack = .infinity .positive := by
  have hx := stands x
  rw [h] at hx
  generalize x.toModel.unpack = u at hx ⊢
  generalize hexact : Decimal.Exact.infinite false = e at hx
  cases hx with
  | nan => exact nomatch hexact
  | ratio => exact nomatch hexact
  | infinite s =>
      cases s with
      | negative => exact nomatch hexact
      | positive => rfl

theorem parts_nan {x : Float} (h : Scalar.exact x = .nan) : x.toModel.unpack = .notANumber := by
  have hx := stands x
  rw [h] at hx
  generalize x.toModel.unpack = u at hx ⊢
  cases hx with
  | nan => rfl

/-- What is put together from special parts is that special value. -/
theorem exact_ofParts_nan : Scalar.exact (ofParts .notANumber) = .nan :=
  exact_nan (unpack_pack trivial)

theorem exact_ofParts_infinity (s : Sign) :
    Scalar.exact (ofParts (.infinity s)) = .infinite (isNegative s) :=
  exact_infinity (unpack_pack trivial)

theorem float_infinite_mul {x y : Float} {b : ℚ} (hx : Scalar.exact x = .infinite false)
    (hy : Scalar.Denotes y b) :
    Scalar.exact (x * y) = if b = 0 then .nan else .infinite (decide (b < 0)) := by
  have hproduct : x * y
      = ofParts (UnpackedFloat.mul Format.binary64 (.infinity .positive) y.toModel.unpack) := by
    rw [← parts_infinite hx]
    rfl
  obtain ⟨-, hb⟩ := parts_denote hy
  rw [hproduct]
  generalize y.toModel.unpack = v at hb
  cases hb with
  | zero s =>
      rw [if_pos rfl]
      exact exact_ofParts_nan
  | finite s m e hm =>
      have hpos : (0 : ℚ) < m * 2 ^ e := mul_pos (by exact_mod_cast hm) (zpow_pos two_pos e)
      cases s with
      | negative =>
          have hneg : signed .negative (m * 2 ^ e) < 0 := neg_neg_of_pos hpos
          rw [if_neg hneg.ne, decide_eq_true hneg]
          exact exact_ofParts_infinity .negative
      | positive =>
          have hpos' : 0 < signed .positive (m * 2 ^ e) := hpos
          rw [if_neg hpos'.ne', decide_eq_false hpos'.le.not_gt]
          exact exact_ofParts_infinity .positive

theorem float_nan_mul {x y : Float} (hx : Scalar.exact x = .nan) : Scalar.exact (x * y) = .nan := by
  have hproduct : x * y
      = ofParts (UnpackedFloat.mul Format.binary64 .notANumber y.toModel.unpack) := by
    rw [← parts_nan hx]
    rfl
  rw [hproduct]
  exact exact_ofParts_nan

theorem float_add_nan {x y : Float} (hy : Scalar.exact y = .nan) : Scalar.exact (x + y) = .nan := by
  have hsum : x + y
      = ofParts (UnpackedFloat.add Format.binary64 x.toModel.unpack .notANumber) := by
    rw [← parts_nan hy]
    rfl
  rw [hsum]
  cases x.toModel.unpack with
  | notANumber => exact exact_ofParts_nan
  | infinity s => exact exact_ofParts_nan
  | zero s => exact exact_ofParts_nan
  | finite s m e hm => exact exact_ofParts_nan

instance : Scalar.Specials Float where
  ofFloat_ratio {x _ _} h := ⟨_, _, h, Scalar.Rounds.den_pos x _ _ h, rfl⟩
  ofFloat_infinite h := h
  infinite_mul := float_infinite_mul
  nan_mul := float_nan_mul
  add_nan := float_add_nan

end Double

end Likeness
