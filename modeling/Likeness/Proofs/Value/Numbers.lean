import Likeness.Proofs.Scalar.DoubleRounds
import Likeness.Value.Equality

/-! # Equal numbers

    Numbers are equal by what they denote, whatever their kinds, so two numbers that
    equal a third are equal.  Of one kind, equal numbers are the same but for the zeros
    among doubles, which differ in the bit of their sign (`Double.eq_of_equal`). -/

namespace Likeness

open Decimal (Binary Exact Reading)

/-! ## Exact numbers and scores -/

theorem Decimal.Exact.equal_cases {a b : Exact} (h : a.equal b = true) :
    (∃ s, a = .infinite s ∧ b = .infinite s) ∨
      ∃ num den num' den', a = .ratio num den ∧ b = .ratio num' den' := by
  cases a with
  | nan => exact nomatch h
  | infinite s =>
      cases b with
      | infinite t => exact Or.inl ⟨s, rfl, congrArg Exact.infinite (beq_iff_eq.mp h).symm⟩
      | _ => exact nomatch h
  | ratio num den =>
      cases b with
      | ratio num' den' => exact Or.inr ⟨num, den, num', den', rfl, rfl⟩
      | _ => exact nomatch h

theorem Decimal.Exact.equal_symm {a b : Exact} (h : a.equal b = true) : b.equal a = true := by
  rcases Decimal.Exact.equal_cases h with ⟨s, rfl, rfl⟩ | ⟨num, den, num', den', rfl, rfl⟩
  · exact h
  · exact beq_iff_eq.mpr (beq_iff_eq.mp h).symm

/-- An integer is denoted by one exact number. -/
theorem Decimal.Exact.eq_of_ofInt {m n : Int} (h : (Exact.ofInt m).equal (.ofInt n) = true) :
    m = n := by
  have hmul : m * 1 = n * 1 := beq_iff_eq.mp h
  omega

namespace Score

variable {K : Type} [Scalar K] [Scalar.Rounds K]

theorem den_pos {s : Score K} {num : Int} {den : Nat} (h : s.exact = .ratio num den) : 0 < den := by
  cases s with
  | whole n =>
      cases h
      exact Nat.one_pos
  | real x => exact Scalar.Rounds.den_pos x num den h

/-- Numbers that equal the same number are equal. -/
theorem equal_euclid {s t u : Score K} (hs : s.equal u = true) (ht : t.equal u = true) :
    s.equal t = true := by
  rw [equal] at hs ht ⊢
  rcases Decimal.Exact.equal_cases hs with ⟨b, hs', hu⟩ | ⟨n, d, n', d', hs', hu⟩
  · rcases Decimal.Exact.equal_cases ht with ⟨b', ht', hu'⟩ | ⟨_, _, _, _, -, hu'⟩
    · obtain rfl : b = b' := Decimal.Exact.infinite.inj (hu.symm.trans hu')
      rw [hs', ht']
      exact beq_self_eq_true b
    · exact nomatch hu.symm.trans hu'
  · rcases Decimal.Exact.equal_cases ht with ⟨_, -, hu'⟩ | ⟨k, e, _, _, ht', -⟩
    · exact nomatch hu.symm.trans hu'
    · have hd := den_pos hs'
      have hd' := den_pos hu
      have he := den_pos ht'
      rw [hs', hu, Scalar.ratio_equal hd hd', decide_eq_true_eq] at hs
      rw [ht', hu, Scalar.ratio_equal he hd', decide_eq_true_eq] at ht
      rw [hs', ht', Scalar.ratio_equal hd he, decide_eq_true_eq]
      exact hs.trans ht.symm

end Score

/-! ## Doubles of one sign -/

theorem Decimal.Exact.ofFloat_infinite {x : Float} {s : Bool}
    (h : Exact.ofFloat x = .infinite s) : Reading.ofFloat x = .infinite s := by
  rw [Exact.ofFloat] at h
  cases hx : Reading.ofFloat x with
  | infinite negative =>
      rw [hx] at h
      exact congrArg Reading.infinite (Exact.infinite.inj h)
  | _ =>
      rw [hx] at h
      exact nomatch h

theorem Decimal.Exact.ofFloat_ratio {x : Float} {num : Int} {den : Nat}
    (h : Exact.ofFloat x = .ratio num den) :
    ∃ negative m, Reading.ofFloat x = .finite negative m ∧ num = Exact.signed negative m.ratio.1 := by
  rw [Exact.ofFloat] at h
  cases hx : Reading.ofFloat x with
  | finite negative m =>
      rw [hx] at h
      exact ⟨negative, m, rfl, (Exact.ratio.inj h).1.symm⟩
  | _ =>
      rw [hx] at h
      exact nomatch h

/-- The bit of a double that says it is negative. -/
def Double.signBit (x : Float) : Bool := decide (x.toBits.toNat / twoTo 63 % 2 = 1)

namespace Double

theorem signBit_of_finite {x : Float} {negative : Bool} {m : Binary}
    (h : Reading.ofFloat x = .finite negative m) : signBit x = negative := by
  rw [Reading.ofFloat, Reading.ofBits] at h
  split_ifs at h with hspecial hinfinite hsubnormal
  · exact (Reading.finite.inj h).1
  · exact (Reading.finite.inj h).1

/-- A zero has no bits but that of its sign. -/
theorem eq_zero_of_exact {x : Float} {den : Nat} (h : Exact.ofFloat x = .ratio 0 den) :
    x = Float.ofBits (UInt64.ofNat (if signBit x then twoTo 63 else 0)) := by
  obtain ⟨negative, m, hx, hnum⟩ := Exact.ofFloat_ratio h
  have hmagnitude : m.mantissa * twoTo m.exponent.toNat = 0 := by
    rw [eq_comm, Exact.signed] at hnum
    split_ifs at hnum
    · exact Int.ofNat_eq_zero.mp (Int.neg_eq_zero.mp hnum)
    · exact Int.ofNat_eq_zero.mp hnum
  have hmantissa : m.mantissa = 0 :=
    (Nat.mul_eq_zero.mp hmagnitude).resolve_right (Nat.pow_pos two_pos).ne'
  rw [signBit_of_finite hx]
  obtain ⟨⟨-, hbits⟩ | hvalid, hbits'⟩ := Reading.ofFloat_finite hx
  · rw [hbits, Nat.zero_add] at hbits'
    exact hbits'.symm
  · exact absurd hmantissa hvalid.mantissa_pos.ne'

/-- Equal doubles are the same, or both are zeros. -/
theorem eq_or_zero_of_equal {x y : Float} (h : (Scalar.exact x).equal (Scalar.exact y) = true) :
    x = y ∨ ∃ d d', Exact.ofFloat x = .ratio 0 d ∧ Exact.ofFloat y = .ratio 0 d' := by
  rcases Exact.equal_cases h with ⟨s, hx, hy⟩ | ⟨n, d, n', d', hx, hy⟩
  · rw [Reading.ofFloat_infinite (Exact.ofFloat_infinite hx),
      Reading.ofFloat_infinite (Exact.ofFloat_infinite hy)]
    exact Or.inl rfl
  · have hd := Scalar.Rounds.den_pos x n d hx
    have hd' := Scalar.Rounds.den_pos y n' d' hy
    rw [hx, hy, Scalar.ratio_equal hd hd', decide_eq_true_eq] at h
    by_cases hzero : n = 0
    · subst hzero
      obtain rfl : n' = 0 := by
        have hne : (d' : ℚ) ≠ 0 := by exact_mod_cast hd'.ne'
        rw [Int.cast_zero, zero_div, eq_comm, div_eq_zero_iff] at h
        exact_mod_cast h.resolve_right hne
      exact Or.inr ⟨d, d', hx, hy⟩
    · have hne : (n : ℚ) / d ≠ 0 := by positivity
      exact Or.inl (eq_of_denotes ⟨n, d, hx, hd, rfl⟩ ⟨n', d', hy, hd', h.symm⟩ hne)

/-- **EQUAL DOUBLES OF ONE SIGN ARE THE SAME**: only the zeros can be told apart. -/
theorem eq_of_equal {x y : Float} (h : (Scalar.exact x).equal (Scalar.exact y) = true)
    (hsign : signBit x = signBit y) : x = y := by
  rcases eq_or_zero_of_equal h with heq | ⟨d, d', hx, hy⟩
  · exact heq
  · rw [eq_zero_of_exact hx, eq_zero_of_exact hy, hsign]

theorem eq_one_of_exact {x : Float} {den : Nat} (hden : 0 < den)
    (h : Exact.ofFloat x = .ratio den den) : x = Scalar.ofNat 1 := by
  have hne : (den : ℚ) ≠ 0 := by exact_mod_cast hden.ne'
  have hone : Scalar.Denotes x 1 := by
    refine ⟨den, den, h, hden, ?_⟩
    rw [Int.cast_natCast, div_self hne]
  exact eq_of_denotes hone Scalar.one_denotes one_ne_zero

/-- A double that equals an integer denotes it. -/
theorem denotes_of_equal {n : Int} {x : Float}
    (h : (Score.whole n : Score Float).equal (.real x) = true) :
    ∃ num den, Exact.ofFloat x = .ratio num den ∧ 0 < den ∧ n * den = num := by
  rcases Exact.equal_cases h with ⟨_, hn, -⟩ | ⟨_, _, num, den, hn, hx⟩
  · exact nomatch hn
  · cases hn
    refine ⟨num, den, hx, Scalar.Rounds.den_pos x num den hx, ?_⟩
    have hequal : (Exact.ratio n 1).equal (Score.exact (.real x)) = true := h
    rw [hx] at hequal
    have hmul : n * (den : Int) = num * ((1 : Nat) : Int) := beq_iff_eq.mp hequal
    rw [hmul, Int.natCast_one, Int.mul_one]

end Double

/-! ## Values that are numbers -/

namespace Value

/-- Two numbers are equal, whatever their kinds. -/
def EqualNumbers (v w : Value) : Prop := v.number?.isSome ∧ v.equal w = true

theorem equal_number {v w : Value} {s : Score Float} (hv : v.number? = some s)
    (hnan : ∀ bits, v ≠ .nan bits) : v.equal w = (w.number?).elim false s.equal := by
  cases v with
  | bool b =>
      cases hv
      rfl
  | int n =>
      cases hv
      rfl
  | real x =>
      cases hv
      rfl
  | nan bits => exact absurd rfl (hnan bits)
  | _ => exact nomatch hv

theorem EqualNumbers.exists_scores {v w : Value} (h : EqualNumbers v w) :
    ∃ s t, v.number? = some s ∧ w.number? = some t ∧ s.equal t = true ∧ ∀ bits, v ≠ .nan bits := by
  obtain ⟨hv, heq⟩ := h
  obtain ⟨s, hs⟩ := Option.isSome_iff_exists.mp hv
  have hnan : ∀ bits, v ≠ .nan bits := by
    rintro bits rfl
    exact nomatch heq
  rw [equal_number hs hnan] at heq
  cases hw : w.number? with
  | none =>
      rw [hw] at heq
      exact nomatch heq
  | some t =>
      rw [hw] at heq
      exact ⟨s, t, hs, rfl, heq, hnan⟩

theorem EqualNumbers.isSome_right {v w : Value} (h : EqualNumbers v w) : w.number?.isSome := by
  obtain ⟨s, t, -, hw, -⟩ := h.exists_scores
  rw [hw]
  rfl

theorem EqualNumbers.symm {v w : Value} (h : EqualNumbers v w) (hnan : ∀ bits, w ≠ .nan bits) :
    w.equal v = true := by
  obtain ⟨s, t, hs, ht, heq, -⟩ := h.exists_scores
  rw [equal_number ht hnan, hs]
  exact Decimal.Exact.equal_symm heq

theorem EqualNumbers.euclid {v w u : Value} (hv : EqualNumbers v u) (hw : EqualNumbers w u) :
    v.equal w = true := by
  obtain ⟨s, r, hs, hr, hsr, hnan⟩ := hv.exists_scores
  obtain ⟨t, r', ht, hr', htr, -⟩ := hw.exists_scores
  obtain rfl : r = r' := Option.some.inj (hr.symm.trans hr')
  rw [equal_number hs hnan, ht]
  exact Score.equal_euclid hsr htr

end Value

end Likeness
