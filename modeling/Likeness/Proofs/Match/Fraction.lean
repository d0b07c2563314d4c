import Likeness.Proofs.Match.Boost
import Likeness.Proofs.Match.Rearrangement
import Mathlib.Tactic.Ring

/-! # The similarities in exact fractions

    Where nothing is rounded, the Jaro similarity is the mean of three shares from zero to
    one: it is one exactly when all of them are, and zero only without a match.  A raised
    similarity leaves open what the two gaps to one have in common
    (`one_sub_raised`), so it is one when either gap is closed, and it grows with the
    part that the boost closes.

    The main results are `jaro_similarityLaws`, from `jaro_eq_one_iff` and
    `jaro_eq_zero_iff`, and `jaroWinkler_raisingLaws`, from the closed form
    `jaroWinkler_eq`. -/

namespace Likeness.Match

variable {α : Type} {same : α → α → Bool} {a b : List α}

/-! ## Shares -/

/-- A part of a positive number is a share from zero to one, which is one only if the part is
    the whole. -/
theorem share_bounds {x y : ℚ} (hx : 0 ≤ x) (hxy : x ≤ y) (hy : 0 < y) :
    0 ≤ x / y ∧ x / y ≤ 1 ∧ (x / y = 1 ↔ x = y) :=
  ⟨div_nonneg hx hy.le, (div_le_one hy).mpr hxy, div_eq_one_iff_eq hy.ne'⟩

theorem jaroFormula_fraction (m la lb mis : Nat) :
    (jaroFormula m la lb mis : ℚ) = ((m : ℚ) / la + m / lb + (m - mis / 2) / m) / 3 := by
  show ((m : ℚ) / la + m / lb + (m - mis / (2 : Nat)) / m) / (3 : Nat) = _
  rw [Nat.cast_ofNat, Nat.cast_ofNat]

section Formula

variable {m la lb mis : Nat} (hpos : 0 < m) (ha : m ≤ la) (hb : m ≤ lb) (hmis : mis ≤ m)
include hpos ha hb hmis

/-- The mean of the shares is positive and at most one, and it is one only if everything is
    matched in order. -/
theorem jaroFormula_bounds :
    0 < (jaroFormula m la lb mis : ℚ) ∧ (jaroFormula m la lb mis : ℚ) ≤ 1 ∧
      ((jaroFormula m la lb mis : ℚ) = 1 ↔ m = la ∧ m = lb ∧ mis = 0) := by
  have hm : (0 : ℚ) < m := by exact_mod_cast hpos
  have hmis0 : (0 : ℚ) ≤ mis := Nat.cast_nonneg mis
  have hmism : (mis : ℚ) ≤ m := by exact_mod_cast hmis
  have hma : (m : ℚ) ≤ la := by exact_mod_cast ha
  have hmb : (m : ℚ) ≤ lb := by exact_mod_cast hb
  obtain ⟨hfirst0, hfirst1, hfirst⟩ := share_bounds hm.le hma (hm.trans_le hma)
  obtain ⟨hsecond0, hsecond1, hsecond⟩ := share_bounds hm.le hmb (hm.trans_le hmb)
  obtain ⟨horder0, horder1, horder⟩ :=
    share_bounds (by linarith : (0 : ℚ) ≤ m - mis / 2) (by linarith) hm
  have hpositive : (0 : ℚ) < m / la := div_pos hm (hm.trans_le hma)
  rw [jaroFormula_fraction]
  refine ⟨by linarith, by linarith, ?_⟩
  constructor
  · intro h
    refine ⟨by exact_mod_cast hfirst.mp (by linarith), by exact_mod_cast hsecond.mp (by linarith), ?_⟩
    have hrest := horder.mp (by linarith)
    have hzero : (mis : ℚ) = 0 := by linarith
    exact_mod_cast hzero
  · rintro ⟨rfl, rfl, rfl⟩
    rw [hfirst.mpr rfl, horder.mpr (by norm_num)]
    norm_num

end Formula

/-! ## The Jaro similarity -/

theorem jaro_of_unmatched (hnone : (greedy same a b).pairs.length = 0) (hne : a ≠ [] ∨ b ≠ []) :
    (jaro same a b : ℚ) = 0 := by
  rw [jaro, jaroOfMatching, if_pos hnone]
  split_ifs with hboth
  · rw [Bool.and_eq_true, List.isEmpty_iff, List.isEmpty_iff] at hboth
    exact absurd hboth (not_and_or.mpr hne)
  · exact Nat.cast_zero
  · exact Nat.cast_zero

theorem nonempty_of_matched (hmatched : 0 < (greedy same a b).pairs.length) : a ≠ [] ∧ b ≠ [] := by
  obtain ⟨⟨i, j⟩, hij⟩ := List.exists_mem_of_length_pos hmatched
  obtain ⟨⟨-, x, y, hx, hy, -⟩, -⟩ := (greedy_firstCome same a b i j).mp hij
  exact ⟨List.ne_nil_of_mem (List.mem_of_getElem? hx), List.ne_nil_of_mem (List.mem_of_getElem? hy)⟩

theorem jaro_of_matched (hmatched : 0 < (greedy same a b).pairs.length) :
    (jaro same a b : ℚ) = jaroFormula (greedy same a b).pairs.length a.length b.length
      (mismatched same a b) := by
  obtain ⟨ha, hb⟩ := nonempty_of_matched hmatched
  rw [jaro, List.isEmpty_eq_false_iff.mpr ha, List.isEmpty_eq_false_iff.mpr hb, jaroOfMatching,
    if_neg hmatched.ne']
  rfl

section Symmetric

variable (hsym : ∀ x ∈ a, ∀ y ∈ b, same x y = same y x)
include hsym

/-- The similarity is one for two empty sequences, else zero without a match, and else
    positive and at most one, which takes that everything is matched in order. -/
theorem jaro_cases :
    (a = [] ∧ b = [] ∧ (jaro same a b : ℚ) = 1) ∨
    ((a ≠ [] ∨ b ≠ []) ∧ (greedy same a b).pairs.length = 0 ∧ (jaro same a b : ℚ) = 0) ∨
    (0 < (greedy same a b).pairs.length ∧ 0 < (jaro same a b : ℚ) ∧ (jaro same a b : ℚ) ≤ 1 ∧
      ((jaro same a b : ℚ) = 1 ↔ (greedy same a b).pairs.length = a.length ∧
        (greedy same a b).pairs.length = b.length ∧ mismatched same a b = 0)) := by
  rcases Nat.eq_zero_or_pos (greedy same a b).pairs.length with hnone | hmatched
  · by_cases hne : a ≠ [] ∨ b ≠ []
    · exact .inr (.inl ⟨hne, hnone, jaro_of_unmatched hnone hne⟩)
    · push Not at hne
      obtain ⟨rfl, rfl⟩ := hne
      exact .inl ⟨rfl, rfl, Nat.cast_one⟩
  · obtain ⟨hla, hlb⟩ := greedy_length_le hsym
    rw [jaro_of_matched hmatched]
    exact .inr (.inr ⟨hmatched, jaroFormula_bounds hmatched hla hlb (disorder_le _ same a b)⟩)

theorem jaro_bounds : 0 ≤ (jaro same a b : ℚ) ∧ (jaro same a b : ℚ) ≤ 1 := by
  obtain ⟨-, -, hone⟩ | ⟨-, -, hzero⟩ | ⟨-, hpos, hle, -⟩ := jaro_cases hsym
  · rw [hone]
    exact ⟨zero_le_one, le_rfl⟩
  · rw [hzero]
    exact ⟨le_rfl, zero_le_one⟩
  · exact ⟨hpos.le, hle⟩

/-- **ONE MEANS EQUAL**: the similarity is one exactly if the sequences are equal item by
    item. -/
theorem jaro_eq_one_iff :
    (jaro same a b : ℚ) = 1 ↔ a.Forall₂ (fun x y => same x y = true) b := by
  obtain ⟨rfl, rfl, hone⟩ | ⟨hne, hnone, hzero⟩ | ⟨-, -, -, hiff⟩ := jaro_cases hsym
  · exact iff_of_true hone .nil
  · rw [hzero, forall₂_iff_matched hsym, hnone]
    refine iff_of_false zero_ne_one ?_
    rintro ⟨ha, hb, -⟩
    rcases hne with hne | hne
    · exact hne (List.length_eq_zero_iff.mp ha.symm)
    · exact hne (List.length_eq_zero_iff.mp hb.symm)
  · rw [hiff, forall₂_iff_matched hsym]

/-- **ZERO MEANS NOTHING IN COMMON**: the similarity of sequences that are not empty is zero
    exactly if no two places within reach of each other hold equal items. -/
theorem jaro_eq_zero_iff (ha : a ≠ []) :
    (jaro same a b : ℚ) = 0 ↔ ∀ i j, ¬ Fits same a b (window a.length b.length) i j := by
  rw [← (greedy_firstCome same a b).empty_iff]
  obtain ⟨hempty, -⟩ | ⟨-, hnone, hzero⟩ | ⟨hmatched, hpos, -⟩ := jaro_cases hsym
  · exact absurd hempty ha
  · refine iff_of_true hzero ?_
    intro i j hij
    rw [List.length_eq_zero_iff.mp hnone] at hij
    exact nomatch hij
  · refine iff_of_false hpos.ne' ?_
    intro hempty
    obtain ⟨⟨i, j⟩, hij⟩ := List.exists_mem_of_length_pos hmatched
    exact hempty i j hij

end Symmetric

/-- What the similarity of two sequences, as a fraction, says of them.  Items lie within the
    window of each other when they are at most half the longer length, less one, apart. -/
structure SimilarityLaws (same : α → α → Bool) (a b : List α) (similarity : ℚ) : Prop where
  nonneg : 0 ≤ similarity
  le_one : similarity ≤ 1
  eq_one_iff : similarity = 1 ↔ a.Forall₂ (fun x y => same x y = true) b
  eq_zero_iff : a ≠ [] → b ≠ [] →
    (similarity = 0 ↔ ¬ ∃ (i j : Nat) (x y : α), a[i]? = some x ∧ b[j]? = some y ∧ same x y = true ∧
      |(i : Int) - j| ≤ max 0 ((max a.length b.length : Int) / 2 - 1))

theorem jaro_similarityLaws (hsym : ∀ x ∈ a, ∀ y ∈ b, same x y = same y x) :
    SimilarityLaws same a b (jaro same a b) := by
  refine ⟨(jaro_bounds hsym).1, (jaro_bounds hsym).2, jaro_eq_one_iff hsym, ?_⟩
  intro ha _
  rw [jaro_eq_zero_iff hsym ha]
  constructor
  · rintro hnone ⟨i, j, x, y, hx, hy, heq, hnear⟩
    exact hnone i j ((fits_iff hsym).mpr ⟨⟨x, y, hx, hy, heq⟩, hnear⟩)
  · intro hnone i j hfits
    obtain ⟨⟨x, y, hx, hy, heq⟩, hnear⟩ := (fits_iff hsym).mp hfits
    exact hnone ⟨i, j, x, y, hx, hy, heq, hnear⟩

/-! ## Raising by a part of the gap -/

/-- A similarity that is raised by a part of its gap to one. -/
def raised (base part : ℚ) : ℚ := base + part * (1 - base)

/-- What is left of the gap is the rest of the part of the gap. -/
theorem one_sub_raised (base part : ℚ) : 1 - raised base part = (1 - part) * (1 - base) := by
  rw [raised]
  ring

theorem raised_bounds {base part : ℚ} (hbase : base ≤ 1) (h0 : 0 ≤ part) (h1 : part ≤ 1) :
    base ≤ raised base part ∧ raised base part ≤ 1 ∧
      (raised base part = 1 ↔ base = 1 ∨ part = 1) := by
  have hgap : 0 ≤ 1 - base := sub_nonneg.mpr hbase
  have hrest : 0 ≤ 1 - raised base part := by
    rw [one_sub_raised]
    exact mul_nonneg (sub_nonneg.mpr h1) hgap
  refine ⟨le_add_of_nonneg_right (mul_nonneg h0 hgap), sub_nonneg.mp hrest, ?_⟩
  rw [eq_comm, ← sub_eq_zero, one_sub_raised, mul_eq_zero, sub_eq_zero, sub_eq_zero, or_comm,
    eq_comm, @eq_comm ℚ 1 part]

theorem raised_mono {base part part' : ℚ} (hbase : base ≤ 1) (h : part ≤ part') :
    raised base part ≤ raised base part' :=
  add_le_add_right (mul_le_mul_of_nonneg_right h (sub_nonneg.mpr hbase)) base

/-! ## Parameters that are fractions -/

section Parameters

variable {s t : Score ℚ} {x y : ℚ}

theorem toScalar?_fraction (hs : s.Denotes x) : toScalar? s = .ok x := by
  cases hs with
  | whole n =>
      rw [toScalar?, Scalar.ofInt?_fraction]
      rfl
  | real h =>
      rw [Scalar.fraction_of_denotes h]
      rfl

theorem exists_times? (hs : s.Denotes x) (ht : t.Denotes y) :
    ∃ product, times? s t = .ok product ∧ product.Denotes (x * y) := by
  have hreal : ∀ {u : Score ℚ} {v w q : ℚ}, u.Denotes v → Scalar.Denotes w q →
      ∃ product, times? u (.real w) = .ok product ∧ product.Denotes (v * q) := by
    intro u v w q hu hw
    rw [Scalar.fraction_of_denotes hw]
    exact ⟨_, times?_of_toScalar? (toScalar?_fraction hu) w, .real (Scalar.denotes_fraction _)⟩
  cases ht with
  | real h => exact hreal hs h
  | whole n =>
      cases hs with
      | real h =>
          rw [times?_comm, mul_comm]
          exact hreal (.whole n) h
      | whole m =>
          refine ⟨.whole (m * n), rfl, ?_⟩
          rw [← Int.cast_mul]
          exact .whole (m * n)

theorem exceedsOne_fraction (hs : s.Denotes x) : exceedsOne s = decide (1 < x) := by
  cases hs with
  | whole n => exact decide_eq_decide.mpr (by exact_mod_cast Iff.rfl)
  | real h => exact Scalar.one_denotes.below h

end Parameters

namespace Boost

variable {p : Boost ℚ} {s l : ℚ}

/-- The parameters denote a scaling factor and a prefix limit, neither of which is negative
    and the product of which is at most one. -/
structure Proper (p : Boost ℚ) (s l : ℚ) : Prop where
  scaling : p.scaling.value.Denotes s
  prefixLimit : p.prefixLimit.value.Denotes l
  scaling_nonneg : 0 ≤ s
  limit_nonneg : 0 ≤ l
  product_le : s * l ≤ 1

/-- Such parameters are accepted. -/
theorem Proper.check_eq_ok (h : p.Proper s l) : p.check = .ok () := by
  obtain ⟨product, hproduct, hdenotes⟩ := exists_times? h.scaling h.prefixLimit
  rw [check, h.prefixLimit.isNegative, h.scaling.isNegative, hproduct,
    decide_eq_false (not_lt.mpr h.limit_nonneg), decide_eq_false (not_lt.mpr h.scaling_nonneg)]
  show (if exceedsOne product then _ else _) = _
  rw [exceedsOne_fraction hdenotes, decide_eq_false (not_lt.mpr h.product_le)]
  rfl

/-- The part of the gap that a prefix closes. -/
theorem Proper.part_bounds (h : p.Proper s l) (n : Nat) :
    0 ≤ min (n : ℚ) l * s ∧ min (n : ℚ) l * s ≤ 1 := by
  have hreach : 0 ≤ min (n : ℚ) l := le_min (Nat.cast_nonneg n) h.limit_nonneg
  refine ⟨mul_nonneg hreach h.scaling_nonneg, ?_⟩
  calc min (n : ℚ) l * s ≤ l * s := mul_le_mul_of_nonneg_right (min_le_right _ _) h.scaling_nonneg
    _ = s * l := mul_comm l s
    _ ≤ 1 := h.product_le

theorem Proper.raise_eq (h : p.Proper s l) (base : ℚ) (n : Nat) :
    p.raise base n = .ok (raised base (min (n : ℚ) l * s)) := by
  have hreach : (p.reach n).Denotes (min (n : ℚ) l) := by
    have hwhole : (Score.whole n : Score ℚ).Denotes n := by
      have := Score.Denotes.whole (K := ℚ) (n : Int)
      rwa [Int.cast_natCast] at this
    rw [reach, h.prefixLimit.below hwhole]
    split_ifs with hbelow
    · rw [min_eq_right (of_decide_eq_true hbelow).le]
      exact h.prefixLimit
    · rw [min_eq_left (not_lt.mp (mt decide_eq_true hbelow))]
      exact hwhole
  obtain ⟨product, hproduct, hdenotes⟩ := exists_times? hreach h.scaling
  rw [raise, hproduct]
  show (toScalar? product).bind _ = _
  rw [toScalar?_fraction hdenotes]
  show Except.ok (base + _ * ((1 : Nat) - base)) = _
  rw [Nat.cast_one, raised]

end Boost

/-- **THE RAISED SIMILARITY IN FRACTIONS**: it is always found, and it closes a part of the gap
    for each item of the shared prefix up to the limit. -/
theorem jaroWinkler_eq {p : Boost ℚ} {s l : ℚ} (h : p.Proper s l) (same : α → α → Bool)
    (a b : List α) :
    jaroWinkler same p a b
      = .ok (raised (jaro same a b) (min (sharedLength same a b : ℚ) l * s)) := by
  rw [jaroWinkler, h.check_eq_ok]
  exact h.raise_eq _ _

/-- What holds of a similarity once it is raised for a shared prefix: `base` is what is raised,
    `n` the length of the prefix, and `equal` says that the sequences are equal.  The score is
    found with all proper parameters, one way and the other. -/
structure RaisingLaws (score back : Boost ℚ → Except Fault ℚ) (base : ℚ) (n : Nat)
    (equal : Prop) : Prop where
  found : ∀ {p s l}, p.Proper s l → ∃ w, score p = .ok w ∧ back p = .ok w ∧
    base ≤ w ∧ w ≤ 1 ∧ (w = 1 ↔ equal ∨ min (n : ℚ) l * s = 1)
  mono : ∀ {p q s s' l l' w w'}, p.Proper s l → q.Proper s' l' → s ≤ s' → l ≤ l' →
    score p = .ok w → score q = .ok w' → w ≤ w'
  limit_irrelevant : ∀ {p q s l l'}, p.Proper s l → q.Proper s l' → (n : ℚ) ≤ l → (n : ℚ) ≤ l' →
    score p = score q

theorem raisingLaws_of_raised {score back : Boost ℚ → Except Fault ℚ} {base : ℚ} {n : Nat}
    {equal : Prop} (hbase : base ≤ 1) (hequal : base = 1 ↔ equal)
    (hscore : ∀ {p s l}, p.Proper s l → score p = .ok (raised base (min (n : ℚ) l * s)))
    (hback : ∀ {p s l}, p.Proper s l → back p = .ok (raised base (min (n : ℚ) l * s))) :
    RaisingLaws score back base n equal := by
  refine ⟨?_, ?_, ?_⟩
  · intro p s l hp
    obtain ⟨h0, h1⟩ := hp.part_bounds n
    obtain ⟨hle, hone, hiff⟩ := raised_bounds hbase h0 h1
    refine ⟨_, hscore hp, hback hp, hle, hone, ?_⟩
    rw [hiff, hequal]
  · intro p q s s' l l' w w' hp hq hs hl hw hw'
    rw [hscore hp] at hw
    rw [hscore hq] at hw'
    cases hw
    cases hw'
    refine raised_mono hbase ?_
    calc min (n : ℚ) l * s ≤ min (n : ℚ) l' * s :=
          mul_le_mul_of_nonneg_right (min_le_min_left _ hl) hp.scaling_nonneg
      _ ≤ min (n : ℚ) l' * s' :=
          mul_le_mul_of_nonneg_left hs (le_min (Nat.cast_nonneg n) hq.limit_nonneg)
  · intro p q s l l' hp hq hl hl'
    rw [hscore hp, hscore hq, min_eq_left hl, min_eq_left hl']

theorem jaroWinkler_raisingLaws (hsym : ∀ x ∈ a, ∀ y ∈ b, same x y = same y x) :
    RaisingLaws (jaroWinkler same · a b) (jaroWinkler same · b a) (jaro same a b)
      (sharedLength same a b) (a.Forall₂ (fun x y => same x y = true) b) := by
  refine raisingLaws_of_raised (jaro_bounds hsym).2 (jaro_eq_one_iff hsym) ?_ ?_
  · exact fun hp => jaroWinkler_eq hp same a b
  · intro p s l hp
    rw [sharedLength_comm hsym, ← jaro_comm (K := ℚ) add_comm hsym]
    exact jaroWinkler_eq hp same b a

end Likeness.Match
