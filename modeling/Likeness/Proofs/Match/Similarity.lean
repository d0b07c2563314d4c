import Likeness.Proofs.Match.Greedy
import Likeness.Proofs.Prefix
import Likeness.Proofs.Scalar.Values

/-! # The range of the Jaro similarity

    A matching pairs no more items than either sequence has, and no more of them
    are out of order than there are.  Therefore each of the three shares lies
    between zero and one, and their mean does, however the quotients and sums are
    rounded (`jaro_within`).

    A prefix that both share is matched place by place, for that is first come,
    first served (`mem_greedy_of_sharesPrefix`).  When the sequences are equal all
    shares are one, and no step of the formula rounds anything
    (`jaro_of_forall₂`). -/

namespace Likeness.Match

variable {α : Type} {same : α → α → Bool} {a b : List α}

/-! ## How many items are matched -/

theorem matchFrom_length_le (same : α → α → Bool) (b : List α) (reach : Nat) :
    ∀ (xs : List α) (i : Nat) (taken : List Bool),
      (matchFrom same b reach i xs taken).pairs.length ≤ xs.length := by
  intro xs
  induction xs with
  | nil =>
      intro i taken
      exact Nat.le_refl 0
  | cons x xs ih =>
      intro i taken
      rw [matchFrom]
      cases firstFree? (same · x) (i - reach) (min b.length (i + reach + 1)) 0 b taken with
      | none => exact Nat.le_succ_of_le (ih (i + 1) taken)
      | some j => exact Nat.succ_le_succ (ih (i + 1) (taken.set j true))

theorem greedy_length_le (hsym : ∀ x ∈ a, ∀ y ∈ b, same x y = same y x) :
    (greedy same a b).pairs.length ≤ a.length ∧ (greedy same a b).pairs.length ≤ b.length := by
  refine ⟨matchFrom_length_le same b _ a 0 _, ?_⟩
  rw [← greedy_length hsym]
  exact matchFrom_length_le same a _ b 0 _

theorem disorder_le (m : Matching) (same : α → α → Bool) (a b : List α) :
    m.disorder same a b ≤ m.pairs.length := by
  calc m.disorder same a b
      ≤ ((m.firstItems a).zip (m.secondItems b)).length := List.countP_le_length
    _ ≤ (m.firstItems a).length := by
        rw [List.length_zip]
        exact Nat.min_le_left _ _
    _ ≤ m.pairs.length := List.length_filterMap_le _ _

/-! ## Equal items at the same place -/

/-- **A SHARED PREFIX IS MATCHED** place by place. -/
theorem mem_greedy_of_sharesPrefix (hsym : ∀ x ∈ a, ∀ y ∈ b, same x y = same y x) {k : Nat}
    (h : SharesPrefix same a b k) : ∀ i, i < k → (i, i) ∈ (greedy same a b).pairs := by
  refine (greedy_firstCome same a b).diagonal ?_
  intro i hi
  obtain ⟨x, y, hx, hy, hxy⟩ := h i hi
  rw [hsym x (List.mem_of_getElem? hx) y (List.mem_of_getElem? hy)] at hxy
  exact ⟨⟨Nat.le_add_right _ _, Nat.le_add_right _ _⟩, x, y, hx, hy, hxy⟩

theorem length_firstItems (same : α → α → Bool) (a b : List α) :
    ((greedy same a b).firstItems a).length = (greedy same a b).pairs.length := by
  refine List.filterMap_length_eq_length.mpr ?_
  rintro ⟨i, j⟩ hij
  obtain ⟨⟨-, x, y, hx, -⟩, -⟩ := (greedy_firstCome same a b i j).mp hij
  show (a[i]?).isSome = true
  rw [hx]
  rfl

section Symmetric

variable (hsym : ∀ x ∈ a, ∀ y ∈ b, same x y = same y x)
include hsym

theorem length_secondItems :
    ((greedy same a b).secondItems b).length = (greedy same a b).pairs.length := by
  rw [← greedy_firstItems fun y hy x hx => (hsym x hx y hy).symm, length_firstItems,
    greedy_length hsym]

/-- When all items of the first sequence are matched, none is left out. -/
theorem firstItems_of_length (h : (greedy same a b).pairs.length = a.length) :
    (greedy same a b).firstItems a = a := by
  have hsublist : ((greedy same a b).firstItems a).Sublist a := by
    rw [greedy_firstItems hsym]
    exact flagged_sublist a _
  exact hsublist.eq_of_length ((length_firstItems same a b).trans h)

theorem secondItems_of_length (h : (greedy same a b).pairs.length = b.length) :
    (greedy same a b).secondItems b = b :=
  (flagged_sublist b _).eq_of_length ((length_secondItems hsym).trans h)

theorem length_greedy_of_forall₂ (h : a.Forall₂ (fun x y => same x y = true) b) :
    (greedy same a b).pairs.length = a.length := by
  have hshared := mem_greedy_of_sharesPrefix hsym (forall₂_iff_sharesPrefix.mp h).2
  have hnodup : ((List.range a.length).map fun i => (i, i)).Nodup :=
    List.nodup_range.map fun i j h => congrArg Prod.fst h
  have hperm : (greedy same a b).pairs.Perm ((List.range a.length).map fun i => (i, i)) := by
    refine (List.perm_ext_iff_of_nodup (greedy_nodup same a b) hnodup).mpr ?_
    rintro ⟨i, j⟩
    rw [List.mem_map]
    constructor
    · intro hij
      obtain ⟨⟨-, x, y, hx, hy, -⟩, -⟩ := (greedy_firstCome same a b i j).mp hij
      obtain ⟨hi, -⟩ := List.getElem?_eq_some_iff.mp hx
      obtain ⟨hj, -⟩ := List.getElem?_eq_some_iff.mp hy
      obtain rfl := (greedy_firstCome same a b).eq_of_diagonal (hshared i hi)
        (hshared j (h.length_eq ▸ hj)) hij
      exact ⟨i, List.mem_range.mpr hi, rfl⟩
    · rintro ⟨k, hk, heq⟩
      cases heq
      exact hshared _ (List.mem_range.mp hk)
  rw [hperm.length_eq, List.length_map, List.length_range]

/-- **EVERYTHING IS MATCHED IN ORDER** when the sequences are equal item by item, and only
    then. -/
theorem forall₂_iff_matched :
    a.Forall₂ (fun x y => same x y = true) b
      ↔ (greedy same a b).pairs.length = a.length ∧ (greedy same a b).pairs.length = b.length ∧
        mismatched same a b = 0 := by
  have hdisorder : (greedy same a b).pairs.length = a.length →
      (greedy same a b).pairs.length = b.length →
      (mismatched same a b = 0 ↔ ∀ p ∈ a.zip b, same p.1 p.2 = true) := by
    intro hfirst hsecond
    rw [mismatched, Matching.disorder, firstItems_of_length hsym hfirst,
      secondItems_of_length hsym hsecond, List.countP_eq_zero]
    simp only [Bool.not_eq_true, Bool.not_eq_false']
  constructor
  · intro h
    have hfirst := length_greedy_of_forall₂ hsym h
    have hsecond := hfirst.trans h.length_eq
    refine ⟨hfirst, hsecond, (hdisorder hfirst hsecond).mpr ?_⟩
    exact fun p hp => (List.forall₂_iff_zip.mp h).2 hp
  · rintro ⟨hfirst, hsecond, hzero⟩
    exact List.forall₂_iff_zip.mpr ⟨hfirst.symm.trans hsecond,
      fun {x y} hxy => (hdisorder hfirst hsecond).mp hzero (x, y) hxy⟩

end Symmetric

/-! ## Counts and shares -/

section Shares

variable {K : Type} [Scalar K] [Scalar.Rounds K]

open Scalar (Denotes Within Rounds)

/-- A count has a number next to it, which is at least one unless the count is zero. -/
theorem exists_count {n : Nat} (hn : n < 2 ^ 64) :
    ∃ c : ℚ, Denotes (Scalar.ofNat n : K) c ∧ 0 ≤ c ∧ c ≤ 2 ^ 65 ∧ (0 < n → 1 ≤ c) := by
  have hnear := Rounds.ofNat_nearest (K := K) n hn
  obtain ⟨c, hc, hleast⟩ := id hnear
  have hnonneg : (0 : ℚ) ≤ n := Nat.cast_nonneg n
  refine ⟨c, hc, hnear.ge hc Scalar.zero_denotes hnonneg, ?_, ?_⟩
  · -- It is as near as zero.
    have hzero := hleast _ 0 Scalar.zero_denotes
    have hlarge : (n : ℚ) ≤ 2 ^ 64 := by exact_mod_cast hn.le
    rw [zero_sub, abs_neg, abs_of_nonneg hnonneg] at hzero
    have := le_abs_self (c - n)
    linarith
  · intro hpos
    exact hnear.ge hc Scalar.one_denotes (by exact_mod_cast hpos)

theorem count_mono {m n : Nat} (hmn : m ≤ n) (hn : n < 2 ^ 64) {c d : ℚ}
    (hc : Denotes (Scalar.ofNat m : K) c) (hd : Denotes (Scalar.ofNat n : K) d) : c ≤ d := by
  rcases hmn.lt_or_eq with hlt | rfl
  · exact (Rounds.ofNat_nearest m (hlt.trans hn)).mono (Rounds.ofNat_nearest n hn) hc hd
      (by exact_mod_cast hlt)
  · exact (hc.unique hd).le

/-- The quotient of what is at most a count by the count is at most one. -/
theorem quotient_within {n : Nat} (hpos : 0 < n) (hn : n < 2 ^ 64) {x : K} {d : ℚ}
    (hd : Denotes (Scalar.ofNat n : K) d) (hx : Within x d) :
    Within (x / Scalar.ofNat n) 1 := by
  obtain ⟨d', hd', -, -, hone⟩ := exists_count (K := K) hn
  obtain rfl := hd.unique hd'
  obtain ⟨c, hc, hnonneg, hle⟩ := hx
  have hpositive : (0 : ℚ) < d := lt_of_lt_of_le one_pos (hone hpos)
  exact (Rounds.div_rounded hc hd hpositive.ne').within Scalar.one_denotes
    (div_nonneg hnonneg hpositive.le) ((div_le_one hpositive).mpr hle)
    (Scalar.small_le_range (by norm_num))

theorem share_within {m n : Nat} (hmn : m ≤ n) (hpos : 0 < n) (hn : n < 2 ^ 64) :
    Within (Scalar.ofNat m / Scalar.ofNat n : K) 1 := by
  obtain ⟨c, hc, hnonneg, -⟩ := exists_count (K := K) (hmn.trans_lt hn)
  obtain ⟨d, hd, -⟩ := exists_count (K := K) hn
  exact quotient_within hpos hn hd ⟨c, hc, hnonneg, count_mono hmn hn hc hd⟩

/-- The share of the matched items that are not transposed. -/
theorem order_within {m mis : Nat} (hmis : mis ≤ m) (hpos : 0 < m) (hm : m < 2 ^ 64) :
    Within ((Scalar.ofNat m - Scalar.ofNat mis / Scalar.ofNat 2) / Scalar.ofNat m : K) 1 := by
  obtain ⟨c, hc, hc0, hcle, -⟩ := exists_count (K := K) hm
  obtain ⟨d, hd, hd0, -⟩ := exists_count (K := K) (hmis.trans_lt hm)
  have htwo := Rounds.ofNat_denotes (K := K) 2 (by norm_num)
  have hdc := count_mono hmis hm hd hc
  have hrange : c ≤ Scalar.range := Scalar.small_le_range (hcle.trans (by norm_num))
  obtain ⟨t, ht, ht0, htc⟩ : Within (Scalar.ofNat mis / Scalar.ofNat 2 : K) c := by
    refine (Rounds.div_rounded hd htwo (by norm_num)).within hc ?_ ?_ hrange
    · positivity
    · push_cast
      linarith
  have hrest : Within (Scalar.ofNat m - Scalar.ofNat mis / Scalar.ofNat 2 : K) c :=
    (Rounds.sub_rounded hc ht).within hc (by linarith) (by linarith) hrange
  exact quotient_within hpos hm hc hrest

theorem add_within {x y : K} {m n : Nat} (hx : Within x m) (hy : Within y n)
    (hmn : m + n < 2 ^ 53) : Within (x + y) ((m + n : Nat) : ℚ) := by
  obtain ⟨c, hc, hc0, hcm⟩ := hx
  obtain ⟨d, hd, hd0, hdn⟩ := hy
  refine (Rounds.add_rounded hc hd).within (Rounds.ofNat_denotes (m + n) hmn) (by linarith) ?_ ?_
  · push_cast
    linarith
  · refine Scalar.small_le_range (le_trans ?_ (by norm_num : (2 : ℚ) ^ 53 ≤ 2 ^ 66))
    exact_mod_cast hmn.le

/-! ## The formula -/

theorem jaroFormula_within {m la lb mis : Nat} (hpos : 0 < m) (ha : m ≤ la) (hb : m ≤ lb)
    (hmis : mis ≤ m) (hla : la < 2 ^ 64) (hlb : lb < 2 ^ 64) :
    Within (jaroFormula m la lb mis : K) 1 := by
  have hfirst : Within (Scalar.ofNat m / Scalar.ofNat la : K) (1 : Nat) := by
    rw [Nat.cast_one]
    exact share_within ha (hpos.trans_le ha) hla
  have hsecond : Within (Scalar.ofNat m / Scalar.ofNat lb : K) (1 : Nat) := by
    rw [Nat.cast_one]
    exact share_within hb (hpos.trans_le hb) hlb
  have horder : Within ((Scalar.ofNat m - Scalar.ofNat mis / Scalar.ofNat 2) / Scalar.ofNat m : K)
      (1 : Nat) := by
    rw [Nat.cast_one]
    exact order_within hmis hpos (ha.trans_lt hla)
  have hthree := Rounds.ofNat_denotes (K := K) 3 (by norm_num)
  exact quotient_within (by norm_num) (by norm_num) hthree
    (add_within (add_within hfirst hsecond (by norm_num)) horder (by norm_num))

/-- The quotient of a number by itself is one. -/
theorem quotient_self {x y : K} {c : ℚ} (hx : Denotes x c) (hy : Denotes y c) (hne : c ≠ 0) :
    Denotes (x / y) 1 := by
  have hround := Rounds.div_rounded hx hy hne
  rw [div_self hne] at hround
  exact hround.denotes Scalar.one_denotes
    (by rw [abs_one]; exact Scalar.small_le_range (by norm_num))

/-- When everything is matched in order, the formula gives one. -/
theorem jaroFormula_self {m : Nat} (hpos : 0 < m) (hm : m < 2 ^ 64) :
    Denotes (jaroFormula m m m 0 : K) 1 := by
  have habs : ∀ {q : ℚ}, 0 ≤ q → q ≤ 2 ^ 66 → |q| ≤ Scalar.range := by
    intro q h0 hq
    rw [abs_of_nonneg h0]
    exact Scalar.small_le_range hq
  have hnat : ∀ n : Nat, n < 4 → Denotes (Scalar.ofNat n : K) n := fun n hn =>
    Rounds.ofNat_denotes n (hn.trans (by norm_num))
  obtain ⟨c, hc, hc0, hcle, hone⟩ := exists_count (K := K) hm
  have hne : c ≠ 0 := (lt_of_lt_of_le one_pos (hone hpos)).ne'
  have hshare : Denotes (Scalar.ofNat m / Scalar.ofNat m : K) 1 := quotient_self hc hc hne
  have hnone : Denotes (Scalar.ofNat 0 / Scalar.ofNat 2 : K) 0 := by
    have h := Rounds.div_rounded (hnat 0 (by norm_num)) (hnat 2 (by norm_num)) (by norm_num)
    rw [Nat.cast_zero, zero_div] at h
    exact h.denotes Scalar.zero_denotes (habs le_rfl (by norm_num))
  have hrest : Denotes (Scalar.ofNat m - Scalar.ofNat 0 / Scalar.ofNat 2 : K) c := by
    have h := Rounds.sub_rounded hc hnone
    rw [sub_zero] at h
    exact h.denotes hc (habs hc0 (hcle.trans (by norm_num)))
  have htwo : Denotes (Scalar.ofNat m / Scalar.ofNat m + Scalar.ofNat m / Scalar.ofNat m : K)
      (2 : Nat) := by
    have h := Rounds.add_rounded hshare hshare
    rw [one_add_one_eq_two] at h
    exact h.denotes (hnat 2 (by norm_num)) (habs (by norm_num) (by norm_num))
  have hthree := Rounds.add_rounded htwo (quotient_self hrest hc hne)
  have hsum : ((2 : Nat) : ℚ) + 1 = (3 : Nat) := by norm_num
  rw [hsum] at hthree
  exact quotient_self (hthree.denotes (hnat 3 (by norm_num)) (habs (by norm_num) (by norm_num)))
    (hnat 3 (by norm_num)) (by norm_num)

/-! ## The similarity -/

/-- **THE JARO SIMILARITY LIES BETWEEN ZERO AND ONE**, however it is rounded. -/
theorem jaro_within (hsym : ∀ x ∈ a, ∀ y ∈ b, same x y = same y x) (ha : a.length < 2 ^ 64)
    (hb : b.length < 2 ^ 64) : Within (jaro same a b : K) 1 := by
  rw [jaro]
  split_ifs with hnone hone
  · exact ⟨1, Scalar.one_denotes, zero_le_one, le_rfl⟩
  · exact ⟨0, Scalar.zero_denotes, le_rfl, zero_le_one⟩
  · rw [jaroOfMatching]
    split_ifs with hzero
    · exact ⟨0, Scalar.zero_denotes, le_rfl, zero_le_one⟩
    · obtain ⟨hla, hlb⟩ := greedy_length_le hsym
      exact jaroFormula_within (Nat.pos_of_ne_zero hzero) hla hlb (disorder_le _ same a b) ha hb

/-- **EQUAL SEQUENCES ARE AS SIMILAR AS CAN BE**, however that is rounded. -/
theorem jaro_of_forall₂ (hsym : ∀ x ∈ a, ∀ y ∈ b, same x y = same y x)
    (h : a.Forall₂ (fun x y => same x y = true) b) (ha : a.length < 2 ^ 64) :
    Denotes (jaro same a b : K) 1 := by
  cases h with
  | nil => exact Scalar.one_denotes
  | @cons x y xs ys hxy htail =>
      have h : (x :: xs).Forall₂ (fun x y => same x y = true) (y :: ys) := .cons hxy htail
      obtain ⟨hfirst, hsecond, hdisorder⟩ := (forall₂_iff_matched hsym).mp h
      have hpos : 0 < (x :: xs).length := Nat.succ_pos _
      show Denotes (jaroOfMatching (greedy same (x :: xs) (y :: ys)) same (x :: xs) (y :: ys) : K) 1
      rw [jaroOfMatching, ← hsecond, hfirst, if_neg hpos.ne']
      have hzero : (greedy same (x :: xs) (y :: ys)).disorder same (x :: xs) (y :: ys) = 0 :=
        hdisorder
      rw [hzero]
      exact jaroFormula_self hpos ha

end Shares

end Likeness.Match
