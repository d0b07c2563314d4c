import Likeness.Match.Winkler
import Likeness.Proofs.Scalar.Values

/-! # The range of a raised similarity

    The boost closes a part of the gap between a similarity and one.  The check of
    the parameters bounds the part for the longest prefix that counts; the part for
    a shorter one is not larger, for rounding keeps the order (`boost_within`).  A
    part of the gap and the similarity are at most one together, since the whole
    gap and the similarity are, even when both are rounded (`raised_within`).

    Parameters may be integers or numbers of the formulas, and each product is
    rounded where the formula rounds it. -/

namespace Likeness

variable {K : Type} [Scalar K]

open Scalar (Denotes Within Nearest Rounded Rounds)

/-! ## What scores denote -/

/-- A score denotes a fraction. -/
inductive Score.Denotes : Score K → ℚ → Prop where
  | whole (n : Int) : Denotes (.whole n) n
  | real {x : K} {a : ℚ} (h : Scalar.Denotes x a) : Denotes (.real x) a

theorem Score.Denotes.exact {s : Score K} {a : ℚ} (h : s.Denotes a) :
    ∃ num den, s.exact = .ratio num den ∧ 0 < den ∧ (num : ℚ) / den = a := by
  cases h with
  | whole n => exact ⟨n, 1, rfl, Nat.one_pos, by rw [Nat.cast_one, div_one]⟩
  | real h => exact h

theorem Score.Denotes.below {s t : Score K} {a b : ℚ} (hs : s.Denotes a) (ht : t.Denotes b) :
    s.below t = decide (a < b) := by
  obtain ⟨num, den, hexact, hden, rfl⟩ := hs.exact
  obtain ⟨num', den', hexact', hden', rfl⟩ := ht.exact
  rw [Score.below, hexact, hexact', Scalar.ratio_below hden hden']

/-- A product with a number of the formulas is one of the numbers that both are. -/
theorem Match.times?_real {s : Score K} {x : K} {product : Score K}
    (h : Match.times? (.real x) s = .ok product) :
    ∃ y, Match.toScalar? s = .ok y ∧ product = .real (x * y) := by
  cases s with
  | whole n =>
      rw [Match.times?] at h
      rw [Match.toScalar?]
      cases hy : (Scalar.ofInt? n : Option K) with
      | none =>
          rw [hy] at h
          exact nomatch h
      | some y =>
          rw [hy] at h
          exact ⟨y, rfl, (Except.ok.inj h).symm⟩
  | real y => exact ⟨y, rfl, (Except.ok.inj h).symm⟩

theorem Match.times?_of_toScalar? {s : Score K} {x : K} (h : Match.toScalar? s = .ok x) (y : K) :
    Match.times? s (.real y) = .ok (.real (x * y)) := by
  cases s with
  | whole n =>
      rw [Match.toScalar?] at h
      rw [Match.times?]
      cases hx : (Scalar.ofInt? n : Option K) with
      | none =>
          rw [hx] at h
          exact nomatch h
      | some z =>
          rw [hx] at h
          obtain rfl := Except.ok.inj h
          rfl
  | real z =>
      obtain rfl := Except.ok.inj h
      rfl

variable [Scalar.Rounds K]

theorem Score.Denotes.isNegative {s : Score K} {a : ℚ} (h : s.Denotes a) :
    s.isNegative = decide (a < 0) := by
  cases h with
  | whole n => exact decide_eq_decide.mpr Int.cast_lt_zero.symm
  | real h => exact h.below Scalar.zero_denotes

namespace Match

/-! ## Products of parameters -/

theorem times?_comm (s t : Score K) : times? s t = times? t s := by
  cases s with
  | whole m =>
      cases t with
      | whole n => rw [times?, times?, Int.mul_comm]
      | real y =>
          rw [times?, times?]
          cases (Scalar.ofInt? m : Option K) with
          | none => rfl
          | some x =>
              show Except.ok (Score.real (x * y)) = .ok (.real (y * x))
              rw [Rounds.mul_comm]
  | real x =>
      cases t with
      | whole n =>
          rw [times?, times?]
          cases (Scalar.ofInt? n : Option K) with
          | none => rfl
          | some y =>
              show Except.ok (Score.real (x * y)) = .ok (.real (y * x))
              rw [Rounds.mul_comm]
      | real y => rw [times?, times?, Rounds.mul_comm]

theorem toScalar?_nearest {s : Score K} {x : K} {a : ℚ} (h : toScalar? s = .ok x)
    (hs : s.Denotes a) : Nearest x a := by
  cases hs with
  | whole n =>
      rw [toScalar?] at h
      cases hx : (Scalar.ofInt? n : Option K) with
      | none =>
          rw [hx] at h
          exact nomatch h
      | some y =>
          rw [hx] at h
          obtain rfl := Except.ok.inj h
          exact Rounds.ofInt?_nearest n y hx
  | real hx =>
      obtain rfl := Except.ok.inj h
      exact hx.nearest

/-- A small natural is a number of the formulas. -/
theorem toScalar?_natural {n : Nat} (hn : n < 2 ^ 64) :
    ∃ x : K, toScalar? (.whole n) = .ok x ∧ Nearest x n := by
  obtain ⟨x, hx⟩ := Rounds.ofInt?_some (K := K) n (by rwa [Int.natAbs_natCast])
  have hok : toScalar? (.whole n) = .ok x := by
    rw [toScalar?, hx]
    rfl
  refine ⟨x, hok, ?_⟩
  have h := toScalar?_nearest hok (.whole n)
  rwa [Int.cast_natCast] at h

/-- No more than one is a number, and one that is at most one. -/
theorem le_one_of_not_exceedsOne {x : K} {q : ℚ} (hx : Rounded x q) (hq : 0 ≤ q)
    (h : exceedsOne (.real x) = false) : ∃ a, Denotes x a ∧ 0 ≤ a ∧ a ≤ 1 ∧ q < 2 := by
  have hbelow : Scalar.below (Scalar.ofNat 1) x = false := h
  rcases hx with hnearest | ⟨-, hinfinite⟩
  · obtain ⟨a, ha, -⟩ := id hnearest
    rw [Scalar.one_denotes.below ha, decide_eq_false_iff_not, not_lt] at hbelow
    refine ⟨a, ha, hnearest.ge ha Scalar.zero_denotes hq, hbelow, ?_⟩
    by_contra htwo
    rw [not_lt] at htwo
    have := hnearest.ge ha (Rounds.ofNat_denotes (K := K) 2 (by norm_num)) htwo
    norm_num at this
    linarith
  · obtain ⟨num, den, hone, -⟩ := Scalar.one_denotes (K := K)
    rw [decide_eq_false (not_lt.mpr hq)] at hinfinite
    rw [Scalar.below, Rounds.atMost_eq, Rounds.atMost_eq, hinfinite, hone] at hbelow
    cases hbelow

/-- A product that is at most one stays so when one factor shrinks. -/
theorem product_within {x x' y : K} {a a' b : ℚ} (hx : Denotes x a) (hx' : Denotes x' a')
    (hy : Denotes y b) (ha : 0 ≤ a) (hle : a ≤ a') (hb : 0 ≤ b)
    (h : exceedsOne (.real (x' * y)) = false) : Within (x * y) 1 := by
  have hround' := Rounds.mul_rounded hx' hy
  have hproduct : a * b ≤ a' * b := mul_le_mul_of_nonneg_right hle hb
  have hnonneg : 0 ≤ a * b := mul_nonneg ha hb
  obtain ⟨e', he', he0', he1', htwo⟩ :=
    le_one_of_not_exceedsOne hround' (hnonneg.trans hproduct) h
  have hrange : ∀ {q : ℚ}, 0 ≤ q → q ≤ a' * b → |q| ≤ Scalar.range := by
    intro q hq hqle
    rw [abs_of_nonneg hq]
    exact Scalar.small_le_range ((hqle.trans htwo.le).trans (by norm_num))
  have hnearest := (Rounds.mul_rounded hx hy).nearest (hrange hnonneg hproduct)
  obtain ⟨e, he, -⟩ := id hnearest
  refine ⟨e, he, hnearest.ge he Scalar.zero_denotes hnonneg, ?_⟩
  rcases hproduct.lt_or_eq with hlt | heq
  · have hmono :=
      hnearest.mono (hround'.nearest (hrange (hnonneg.trans hproduct) le_rfl)) he he' hlt
    exact hmono.trans he1'
  · -- Equal products are zero, or those of one number.
    rcases eq_or_ne (a * b) 0 with hzero | hne
    · rw [hzero] at hnearest
      rw [he.unique (hnearest.eq Scalar.zero_denotes)]
      exact zero_le_one
    · have hsame : a = a' := mul_right_cancel₀ (right_ne_zero_of_mul hne) heq
      obtain rfl := Rounds.injective hx (hsame ▸ hx') (left_ne_zero_of_mul hne)
      rw [he.unique he']
      exact he1'

/-- Scores become numbers in the order in which they are. -/
theorem toScalar?_mono {s t : Score K} {x y : K} {a b c d : ℚ} (hs : s.Denotes a)
    (ht : t.Denotes b) (hx : toScalar? s = .ok x) (hy : toScalar? t = .ok y) (hab : a ≤ b)
    (hc : Denotes x c) (hd : Denotes y d) : c ≤ d := by
  rcases hab.lt_or_eq with hlt | rfl
  · exact (toScalar?_nearest hx hs).mono (toScalar?_nearest hy ht) hc hd hlt
  · cases hs with
    | real h =>
        obtain rfl := Except.ok.inj hx
        rw [hc.unique h]
        exact (((toScalar?_nearest hy ht).eq h).unique hd).le
    | whole m =>
        generalize hm : (m : ℚ) = a at ht
        cases ht with
        | real h =>
            obtain rfl := Except.ok.inj hy
            rw [hd.unique h]
            exact (hc.unique ((toScalar?_nearest hx (hm ▸ .whole m)).eq h)).le
        | whole n =>
            obtain rfl : m = n := by exact_mod_cast hm
            obtain rfl := Except.ok.inj (hx.symm.trans hy)
            exact (hc.unique hd).le

/-- An integer from zero to one is a number that needs no rounding. -/
theorem toScalar?_unit {n : Int} (h0 : 0 ≤ n) (h1 : n ≤ 1) :
    ∃ x : K, toScalar? (.whole n) = .ok x ∧ Within x 1 := by
  obtain ⟨k, rfl⟩ := Int.eq_ofNat_of_zero_le h0
  obtain ⟨x, hx, hnearest⟩ := toScalar?_natural (K := K) (n := k) (by omega)
  refine ⟨x, hx, k, hnearest.eq (Rounds.ofNat_denotes k (by omega)), Nat.cast_nonneg k, ?_⟩
  exact_mod_cast h1

/-- A product of parameters that was accepted is a number from zero to one. -/
theorem accepted_within {s t : Score K} {a b : ℚ} (hs : s.Denotes a) (ht : t.Denotes b)
    (ha : 0 ≤ a) (hb : 0 ≤ b) {product : Score K} (hproduct : times? s t = .ok product)
    (h : exceedsOne product = false) : ∃ x, toScalar? product = .ok x ∧ Within x 1 := by
  have hreal : ∀ {x : K} {u : Score K} {c d : ℚ}, Denotes x c → u.Denotes d → 0 ≤ c → 0 ≤ d →
      times? (.real x) u = .ok product → ∃ z, toScalar? product = .ok z ∧ Within z 1 := by
    intro x u c d hx hu hc hd hxu
    obtain ⟨y, hy, rfl⟩ := times?_real hxu
    obtain ⟨e, he, -⟩ := id (toScalar?_nearest hy hu)
    exact ⟨_, rfl, product_within hx hx he hc le_rfl
      ((toScalar?_nearest hy hu).ge he Scalar.zero_denotes hd) h⟩
  cases hs with
  | real hx => exact hreal hx ht ha hb hproduct
  | whole m =>
      cases ht with
      | real hy =>
          rw [times?_comm] at hproduct
          exact hreal hy (.whole m) hb ha hproduct
      | whole n =>
          obtain rfl := Except.ok.inj hproduct
          have hle : m * n ≤ 1 := not_lt.mp (of_decide_eq_false h)
          exact toScalar?_unit (mul_nonneg (by exact_mod_cast ha) (by exact_mod_cast hb)) hle

/-! ## The boost -/

namespace Boost

variable {p : Boost K}

/-- Both parameters are numbers that are not special. -/
structure Finite (p : Boost K) : Prop where
  scaling : ∃ s, p.scaling.value.Denotes s
  prefixLimit : ∃ l, p.prefixLimit.value.Denotes l

/-- Whole parameters that were accepted have no product above one, also when the limit was
    brought to the numbers of the formulas. -/
theorem whole_product_le {n : Int} {t : Score K} {l : ℚ} (ht : t.Denotes l) (hn : 0 ≤ n)
    {product : Score K} (hproduct : times? (.whole n) t = .ok product)
    (h : exceedsOne product = false) {shared : Nat} (hshared : (shared : ℚ) ≤ l) :
    (shared : Int) * n ≤ 1 := by
  cases ht with
  | whole m =>
      obtain rfl := Except.ok.inj hproduct
      have hle : n * m ≤ 1 := not_lt.mp (of_decide_eq_false h)
      have hsm : (shared : Int) ≤ m := by exact_mod_cast hshared
      exact (mul_le_mul_of_nonneg_right hsm hn).trans ((Int.mul_comm m n).le.trans hle)
  | @real y _ hy =>
      rw [times?_comm] at hproduct
      obtain ⟨x, hx, rfl⟩ := times?_real hproduct
      have hnearest := toScalar?_nearest hx (.whole n)
      obtain ⟨c, hc, -⟩ := id hnearest
      have hl : 0 ≤ l := (Nat.cast_nonneg shared).trans hshared
      have hc0 : 0 ≤ c := hnearest.ge hc Scalar.zero_denotes (by exact_mod_cast hn)
      obtain ⟨-, -, -, -, htwo⟩ :=
        le_one_of_not_exceedsOne (Rounds.mul_rounded hy hc) (mul_nonneg hl hc0) h
      -- Were the product of the integers two or more, that of the numbers would be.
      by_contra hmore
      rw [not_le] at hmore
      have hs1 : 1 ≤ shared := by
        by_contra hzero
        obtain rfl : shared = 0 := by omega
        rw [Nat.cast_zero, zero_mul] at hmore
        omega
      have hn1 : 1 ≤ n := by
        by_contra hzero
        obtain rfl : n = 0 := by omega
        rw [mul_zero] at hmore
        omega
      have hl1 : 1 ≤ l := le_trans (by exact_mod_cast hs1) hshared
      have hc1 : 1 ≤ c := hnearest.ge hc Scalar.one_denotes (by exact_mod_cast hn1)
      have hlarger : 2 ≤ shared ∨ 2 ≤ n := by
        by_contra hsmall
        obtain rfl : shared = 1 := by omega
        obtain rfl : n = 1 := by omega
        norm_num at hmore
      rcases hlarger with hs2 | hn2
      · have hl2 : (2 : ℚ) ≤ l := le_trans (by exact_mod_cast hs2) hshared
        nlinarith
      · have hc2 : (2 : Nat) ≤ c := hnearest.ge hc (Rounds.ofNat_denotes (K := K) 2 (by norm_num))
          (by exact_mod_cast hn2)
        rw [Nat.cast_two] at hc2
        nlinarith

omit [Scalar.Rounds K] in
theorem check_eq_ok (h : p.check = .ok ()) :
    p.prefixLimit.value.isNegative = false ∧ p.scaling.value.isNegative = false ∧
      ∃ product, times? p.scaling.value p.prefixLimit.value = .ok product ∧
        exceedsOne product = false := by
  rw [check] at h
  cases hlimit : p.prefixLimit.value.isNegative with
  | true =>
      rw [hlimit] at h
      exact nomatch h
  | false =>
      cases hscaling : p.scaling.value.isNegative with
      | true =>
          rw [hlimit, hscaling] at h
          exact nomatch h
      | false =>
          rw [hlimit, hscaling] at h
          cases hproduct : times? p.scaling.value p.prefixLimit.value with
          | error e =>
              rw [hproduct] at h
              exact nomatch h
          | ok product =>
              rw [hproduct] at h
              cases hexceeds : exceedsOne product with
              | true =>
                  simp [hexceeds] at h
              | false => exact ⟨rfl, rfl, product, rfl, hexceeds⟩

/-- **THE PART OF THE GAP** that a prefix closes is at most the whole gap. -/
theorem boost_within (hcheck : p.check = .ok ()) (hfinite : p.Finite) {shared : Nat}
    (hshared : shared < 2 ^ 64) :
    ∃ product x, times? (p.reach shared) p.scaling.value = .ok product ∧
      toScalar? product = .ok x ∧ Within x 1 := by
  obtain ⟨hlimit, hscaling, product, hproduct, hexceeds⟩ := check_eq_ok hcheck
  obtain ⟨⟨s, hs⟩, ⟨l, hl⟩⟩ := hfinite
  rw [hl.isNegative, decide_eq_false_iff_not, not_lt] at hlimit
  rw [hs.isNegative, decide_eq_false_iff_not, not_lt] at hscaling
  rw [reach, hl.below (.whole shared), Int.cast_natCast]
  split_ifs with hbelow
  · obtain ⟨x, hx, hwithin⟩ := accepted_within hs hl hscaling hlimit hproduct hexceeds
    exact ⟨product, x, (times?_comm _ _).trans hproduct, hx, hwithin⟩
  · have hle : (shared : ℚ) ≤ l := not_lt.mp (mt decide_eq_true hbelow)
    generalize p.scaling.value = scaling at *
    cases hs with
    | whole n =>
        have hunit := whole_product_le hl (by exact_mod_cast hscaling) hproduct hexceeds hle
        obtain ⟨x, hx, hwithin⟩ := toScalar?_unit (K := K)
          (mul_nonneg (Int.natCast_nonneg shared) (by exact_mod_cast hscaling)) hunit
        exact ⟨_, x, rfl, hx, hwithin⟩
    | @real z _ hz =>
        obtain ⟨y, hy, rfl⟩ := times?_real hproduct
        obtain ⟨x, hx, hnearest⟩ := toScalar?_natural (K := K) hshared
        obtain ⟨c, hc, -⟩ := id hnearest
        obtain ⟨d, hd, -⟩ := id (toScalar?_nearest hy hl)
        refine ⟨_, x * z, times?_of_toScalar? hx z, rfl, product_within hc hd hz
          (hnearest.ge hc Scalar.zero_denotes (Nat.cast_nonneg shared))
          (toScalar?_mono (.whole shared) hl hx hy (by rwa [Int.cast_natCast]) hc hd) hscaling ?_⟩
        rw [Rounds.mul_comm]
        exact hexceeds

/-! ## Raising -/

/-- A similarity raised by a part of the gap is at most one, and one is left as it is. -/
theorem raised_within {base boost : K} (hbase : Within base 1) (hboost : Within boost 1) :
    Within (base + boost * (Scalar.ofNat 1 - base)) 1 ∧
      (Denotes base 1 → Denotes (base + boost * (Scalar.ofNat 1 - base)) 1) := by
  obtain ⟨a, ha, ha0, ha1⟩ := hbase
  obtain ⟨e, he, he0, he1⟩ := hboost
  have hrange : ∀ {q : ℚ}, 0 ≤ q → q ≤ 2 → |q| ≤ Scalar.range := by
    intro q h0 hq
    rw [abs_of_nonneg h0]
    exact Scalar.small_le_range (hq.trans (by norm_num))
  have hgap : Nearest (Scalar.ofNat 1 - base) (1 - a) :=
    (Rounds.sub_rounded Scalar.one_denotes ha).nearest (hrange (by linarith) (by linarith))
  obtain ⟨b, hb, hb0, hb1⟩ := hgap.within Scalar.one_denotes (by linarith) (by linarith)
  have hpart : Nearest (boost * (Scalar.ofNat 1 - base)) (e * b) :=
    (Rounds.mul_rounded he hb).nearest
      (hrange (mul_nonneg he0 hb0) (by nlinarith))
  obtain ⟨t, ht, ht0, htb⟩ := hpart.within hb (mul_nonneg he0 hb0) (mul_le_of_le_one_left hb0 he1)
  have hwhole : Nearest (base + (Scalar.ofNat 1 - base)) (a + b) :=
    (Rounds.add_rounded ha hb).nearest (hrange (by linarith) (by linarith))
  obtain ⟨c, hc, -⟩ := id hwhole
  have hc1 : c ≤ 1 := Rounds.complement ha0 ha1 ha hgap hb hwhole hc
  have hsum : Nearest (base + boost * (Scalar.ofNat 1 - base)) (a + t) :=
    (Rounds.add_rounded ha ht).nearest (hrange (by linarith) (by linarith))
  obtain ⟨d, hd, -⟩ := id hsum
  refine ⟨⟨d, hd, hsum.ge hd Scalar.zero_denotes (by linarith), ?_⟩, ?_⟩
  · rcases htb.lt_or_eq with hlt | rfl
    · exact (hsum.mono hwhole hd hc (by linarith)).trans hc1
    · exact Rounds.complement ha0 ha1 ha hgap hb hsum hd
  · intro hone
    obtain rfl := ha.unique hone
    -- The gap is zero, and so is the part of it.
    rw [sub_self] at hgap
    obtain rfl := hb.unique (hgap.eq Scalar.zero_denotes)
    obtain rfl : t = 0 := le_antisymm htb ht0
    rw [add_zero] at hsum
    exact hsum.eq Scalar.one_denotes

/-- **A RAISED SIMILARITY IS FOUND**, and lies between zero and one.  One stays one. -/
theorem raise_within (hcheck : p.check = .ok ()) (hfinite : p.Finite) {base : K}
    (hbase : Within base 1) {shared : Nat} (hshared : shared < 2 ^ 64) :
    ∃ x, p.raise base shared = .ok x ∧ Within x 1 ∧ (Denotes base 1 → Denotes x 1) := by
  obtain ⟨product, boost, hproduct, hboost, hwithin⟩ := boost_within hcheck hfinite hshared
  refine ⟨_, ?_, raised_within hbase hwithin⟩
  rw [raise, hproduct]
  show (toScalar? product).bind _ = _
  rw [hboost]
  rfl

end Boost

end Match

end Likeness
