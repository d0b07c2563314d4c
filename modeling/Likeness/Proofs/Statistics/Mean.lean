import Likeness.Proofs.Metric.Order
import Likeness.Proofs.Scalar.Double
import Likeness.Statistics.Mean

/-! # Means are found

    The mean of scores is missing only where it is beyond the largest double.  The
    mean of scores that are bounded is bounded by the same number, whatever their
    kinds are and however many there are: a sum of fractions is bounded by the sum
    of their bounds (`Statistics.addRatio_bounded`).

    Over exact fractions nothing is rounded.  The mean is the sum, divided by how many
    scores there are (`Statistics.mean_fraction`). -/

namespace Likeness

/-- The bound on scores that is used here; no count of characters reaches it. -/
def Score.ceiling : Nat := twoTo 100

/-- A fraction is at most a number, in magnitude. -/
def Statistics.Bounded (n : Nat) (r : Int × Nat) : Prop := 0 < r.2 ∧ r.1.natAbs ≤ r.2 * n

/-- A score that is a fraction is bounded; the special values count as such. -/
def Score.Moderate {K : Type} [Scalar K] (s : Score K) : Prop :=
  ∀ num den, s.exact = .ratio num den → Statistics.Bounded Score.ceiling (num, den)

namespace Statistics

/-! ## Sums -/

theorem addRatio_bounded {m n : Nat} {a b : Int × Nat} (ha : Bounded m a) (hb : Bounded n b) :
    Bounded (m + n) (addRatio a b) := by
  obtain ⟨hapos, ha⟩ := ha
  obtain ⟨hbpos, hb⟩ := hb
  have hpart : ∀ {r : Int × Nat} {k : Nat}, r.2 ∣ Nat.lcm a.2 b.2 → r.1.natAbs ≤ r.2 * k →
      (r.1 * ((Nat.lcm a.2 b.2 / r.2 : Nat) : Int)).natAbs ≤ Nat.lcm a.2 b.2 * k := by
    intro r k hdvd hr
    rw [Int.natAbs_mul, Int.natAbs_natCast]
    calc r.1.natAbs * (Nat.lcm a.2 b.2 / r.2)
        ≤ r.2 * k * (Nat.lcm a.2 b.2 / r.2) := Nat.mul_le_mul_right _ hr
      _ = Nat.lcm a.2 b.2 / r.2 * r.2 * k := by rw [Nat.mul_comm, ← Nat.mul_assoc]
      _ = Nat.lcm a.2 b.2 * k := by rw [Nat.div_mul_cancel hdvd]
  refine ⟨Nat.lcm_pos hapos hbpos, ?_⟩
  calc (addRatio a b).1.natAbs
      ≤ _ + _ := Int.natAbs_add_le _ _
    _ ≤ Nat.lcm a.2 b.2 * m + Nat.lcm a.2 b.2 * n :=
        Nat.add_le_add (hpart (Nat.dvd_lcm_left _ _) ha) (hpart (Nat.dvd_lcm_right _ _) hb)
    _ = (addRatio a b).2 * (m + n) := (Nat.mul_add _ _ _).symm

theorem foldl_addRatio_bounded {n : Nat} (rs : List (Int × Nat)) (h : ∀ r ∈ rs, Bounded n r)
    {m : Nat} {a : Int × Nat} (ha : Bounded m a) :
    Bounded (m + rs.length * n) (rs.foldl addRatio a) := by
  induction rs generalizing m a with
  | nil => simpa using ha
  | cons r rs ih =>
      have hrest := ih (fun r' hr' => h r' (List.mem_cons_of_mem r hr'))
        (addRatio_bounded ha (h r List.mem_cons_self))
      rwa [List.length_cons, Nat.succ_mul, Nat.add_comm (rs.length * n), ← Nat.add_assoc]

/-- Fractions that were taken from numbers, one from each. -/
theorem mapM_ratio? {xs : List Decimal.Exact} {rs : List (Int × Nat)}
    (h : xs.mapM ratio? = some rs) :
    rs.length = xs.length ∧ ∀ r ∈ rs, Decimal.Exact.ratio r.1 r.2 ∈ xs := by
  induction xs generalizing rs with
  | nil =>
      cases h
      exact ⟨rfl, nofun⟩
  | cons x xs ih =>
      rw [List.mapM_cons] at h
      obtain ⟨r, hr, h⟩ := Option.bind_eq_some_iff.mp h
      obtain ⟨rest, hrest, h⟩ := Option.bind_eq_some_iff.mp h
      cases h
      obtain ⟨hlength, hmem⟩ := ih hrest
      obtain rfl : x = .ratio r.1 r.2 := by
        cases x with
        | ratio num den =>
            cases hr
            rfl
        | _ => exact nomatch hr
      refine ⟨congrArg Nat.succ hlength, ?_⟩
      rw [List.forall_mem_cons]
      exact ⟨List.mem_cons_self, fun r' hr' => List.mem_cons_of_mem _ (hmem r' hr')⟩

/-! ## Means -/

theorem exists_rounded {num : Int} {den : Nat} (hden : 0 < den)
    (h : num.natAbs < den * twoTo 200) :
    ∃ m : Score Float, rounded num den = .ok m := by
  obtain ⟨x, hx⟩ := Scalar.nearest?_double hden h
  refine ⟨.real x, ?_⟩
  rw [rounded, hx]
  rfl

theorem lt_of_le_ceiling {n den : Nat} (hden : 0 < den) (h : n ≤ den * (2 * Score.ceiling)) :
    n < den * twoTo 200 :=
  Nat.lt_of_le_of_lt h (Nat.mul_lt_mul_of_pos_left (by decide) hden)

/-- **THE MEAN OF BOUNDED SCORES IS FOUND**. -/
theorem exists_mean {xs : List (Score Float)} (hne : xs ≠ []) (h : ∀ s ∈ xs, s.Moderate) :
    ∃ m, mean xs = .ok m := by
  unfold mean total
  cases hratios : (xs.map Score.exact).mapM ratio? with
  | none =>
      cases (xs.map Score.exact).contains .nan
      all_goals
        cases (xs.map Score.exact).contains (.infinite true)
        all_goals
          cases (xs.map Score.exact).contains (.infinite false)
          all_goals exact ⟨_, rfl⟩
  | some rs =>
      obtain ⟨hlength, hmem⟩ := mapM_ratio? hratios
      rw [List.length_map] at hlength
      have hbounded : ∀ r ∈ rs, Bounded Score.ceiling r := by
        intro r hr
        obtain ⟨s, hs, hexact⟩ := List.mem_map.mp (hmem r hr)
        exact h s hs r.1 r.2 hexact
      obtain ⟨hden, hnum⟩ := foldl_addRatio_bounded rs hbounded
        (show Bounded 0 (0, 1) from ⟨Nat.one_pos, Nat.le_refl 0⟩)
      rw [Nat.zero_add, hlength] at hnum
      have hcount : 0 < xs.length := List.length_pos_iff.mpr hne
      dsimp only
      split_ifs
      · exact ⟨_, rfl⟩
      · refine exists_rounded (Nat.mul_pos hden hcount)
          (lt_of_le_ceiling (Nat.mul_pos hden hcount) (hnum.trans ?_))
        rw [← Nat.mul_assoc]
        exact Nat.mul_le_mul_left _ (by decide)

theorem Moderate.whole_le {n : Int} (h : (Score.whole n : Score Float).Moderate) :
    n.natAbs ≤ Score.ceiling := by
  simpa using (h n 1 rfl).2

/-- The midpoint of bounded scores is found. -/
theorem exists_midpoint {s t : Score Float} (hs : s.Moderate) (ht : t.Moderate) :
    ∃ m, midpoint s t = .ok m := by
  have hdouble : ∀ {n : Int}, (Score.whole n : Score Float).Moderate →
      ∃ x : Float, Scalar.ofInt? n = some x := fun h =>
    Scalar.ofInt?_double (lt_of_le_of_lt (Moderate.whole_le h) (by decide))
  cases s with
  | whole m =>
      cases t with
      | whole n =>
          have hm := Moderate.whole_le hs
          have hn := Moderate.whole_le ht
          have hsum := Int.natAbs_add_le m n
          exact exists_rounded Nat.two_pos (lt_of_le_ceiling Nat.two_pos (by omega))
      | real y =>
          obtain ⟨x, hx⟩ := hdouble hs
          exact ⟨.real ((x + y) / Scalar.ofNat 2), by rw [midpoint, hx]; rfl⟩
  | real x =>
      cases t with
      | whole n =>
          obtain ⟨y, hy⟩ := hdouble ht
          exact ⟨.real ((x + y) / Scalar.ofNat 2), by rw [midpoint, hy]; rfl⟩
      | real y => exact ⟨_, rfl⟩

/-! ## Means of fractions -/

/-- The number that a fraction is. -/
def quotient (r : Int × Nat) : ℚ := r.1 / r.2

theorem addRatio_quotient {a b : Int × Nat} (ha : 0 < a.2) (hb : 0 < b.2) :
    0 < (addRatio a b).2 ∧ quotient (addRatio a b) = quotient a + quotient b := by
  have hden : 0 < Nat.lcm a.2 b.2 := Nat.lcm_pos ha hb
  have hden' : ((Nat.lcm a.2 b.2 : Nat) : ℚ) ≠ 0 := by exact_mod_cast hden.ne'
  have hpart : ∀ r : Int × Nat, 0 < r.2 → r.2 ∣ Nat.lcm a.2 b.2 →
      ((r.1 * ((Nat.lcm a.2 b.2 / r.2 : Nat) : Int) : Int) : ℚ) / (Nat.lcm a.2 b.2 : Nat)
        = quotient r := by
    intro r hr hdvd
    obtain ⟨k, hk⟩ := hdvd
    rw [hk, Nat.cast_mul] at hden'
    rw [hk, Nat.mul_div_cancel_left k hr, Int.cast_mul, Int.cast_natCast, Nat.cast_mul]
    exact mul_div_mul_right _ _ (right_ne_zero_of_mul hden')
  refine ⟨hden, ?_⟩
  show ((_ + _ : Int) : ℚ) / (Nat.lcm a.2 b.2 : Nat) = _
  rw [Int.cast_add, add_div, hpart a ha (Nat.dvd_lcm_left _ _), hpart b hb (Nat.dvd_lcm_right _ _)]

theorem foldl_addRatio_quotient {rs : List (Int × Nat)} (h : ∀ r ∈ rs, 0 < r.2) {a : Int × Nat}
    (ha : 0 < a.2) : 0 < (rs.foldl addRatio a).2 ∧
      quotient (rs.foldl addRatio a) = quotient a + (rs.map quotient).sum := by
  induction rs generalizing a with
  | nil => exact ⟨ha, (add_zero _).symm⟩
  | cons r rs ih =>
      obtain ⟨hpos, hsum⟩ := addRatio_quotient ha (h r List.mem_cons_self)
      obtain ⟨hpos', hrest⟩ := ih (fun r' hr' => h r' (List.mem_cons_of_mem r hr')) hpos
      refine ⟨hpos', ?_⟩
      rw [List.foldl_cons, hrest, hsum, List.map_cons, List.sum_cons, add_assoc]

/-- The sum of fractions is a fraction. -/
theorem total_fraction (xs : List (Score Rat)) : ∃ num den,
    total (xs.map Score.exact) = .ratio num den ∧ 0 < den ∧
      (num : ℚ) / den = (xs.map Score.value).sum := by
  have hratios : ∃ rs, (xs.map Score.exact).mapM ratio? = some rs ∧ (∀ r ∈ rs, 0 < r.2) ∧
      rs.map quotient = xs.map Score.value := by
    induction xs with
    | nil => exact ⟨[], rfl, nofun, rfl⟩
    | cons x xs ih =>
        obtain ⟨rs, hrs, hpos, hvalues⟩ := ih
        obtain ⟨num, den, hexact, hden, hvalue⟩ := x.denotes_value.exact
        refine ⟨(num, den) :: rs, ?_, List.forall_mem_cons.mpr ⟨hden, hpos⟩, ?_⟩
        · rw [List.map_cons, List.mapM_cons, hexact, hrs]
          rfl
        · rw [List.map_cons, List.map_cons, hvalues, ← hvalue]
          rfl
  obtain ⟨rs, hrs, hpos, hvalues⟩ := hratios
  obtain ⟨hden, hsum⟩ := foldl_addRatio_quotient hpos (a := (0, 1)) Nat.one_pos
  refine ⟨(rs.foldl addRatio (0, 1)).1, (rs.foldl addRatio (0, 1)).2, ?_, hden, ?_⟩
  · rw [total, hrs]
  · rw [← hvalues, ← zero_add (rs.map quotient).sum]
    refine hsum.trans (congrArg (· + _) ?_)
    simp [quotient]

/-- **THE MEAN OF FRACTIONS** is their sum, divided by how many they are. -/
theorem mean_fraction {xs : List (Score Rat)} (hne : xs ≠ []) :
    ∃ m, mean xs = .ok m ∧ m.value = (xs.map Score.value).sum / xs.length := by
  obtain ⟨num, den, htotal, hden, hsum⟩ := total_fraction xs
  have hscale : 0 < den * xs.length := Nat.mul_pos hden (List.length_pos_iff.mpr hne)
  have hquotient : (num : ℚ) / (den * xs.length : Nat) = (xs.map Score.value).sum / xs.length := by
    rw [← hsum, Nat.cast_mul, div_div]
  unfold mean
  rw [htotal]
  dsimp only
  split_ifs with hwhole
  · obtain ⟨k, rfl⟩ : ((den * xs.length : Nat) : Int) ∣ num :=
      Int.dvd_of_emod_eq_zero (eq_of_beq (Bool.and_eq_true_iff.mp hwhole).2)
    refine ⟨_, rfl, ?_⟩
    rw [Score.value_whole, Int.mul_ediv_cancel_left k (by exact_mod_cast hscale.ne'), ← hquotient,
      Int.cast_mul, Int.cast_natCast]
    exact (mul_div_cancel_left₀ (k : ℚ) (by exact_mod_cast hscale.ne')).symm
  · exact ⟨.real (num / (den * xs.length : Nat)), rfl, (Score.value_real _).trans hquotient⟩

theorem midpoint_fraction (s t : Score Rat) :
    ∃ m, midpoint s t = .ok m ∧ m.value = (s.value + t.value) / 2 := by
  cases s with
  | whole m =>
      cases t with
      | whole n =>
          refine ⟨.real (((m + n : Int) : ℚ) / (2 : Nat)), rfl, ?_⟩
          rw [Score.value_real, Score.value_whole, Score.value_whole]
          push_cast
          rfl
      | real y =>
          rw [midpoint, Scalar.ofInt?_fraction]
          refine ⟨_, rfl, ?_⟩
          rw [Score.value_real, Score.value_whole, Score.value_real]
          rfl
  | real x =>
      cases t with
      | whole n =>
          rw [midpoint, Scalar.ofInt?_fraction]
          refine ⟨_, rfl, ?_⟩
          rw [Score.value_real, Score.value_whole, Score.value_real]
          rfl
      | real y =>
          refine ⟨_, rfl, ?_⟩
          rw [Score.value_real, Score.value_real, Score.value_real]
          rfl

end Statistics

end Likeness
