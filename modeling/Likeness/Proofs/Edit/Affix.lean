import Likeness.Proofs.Edit.Band

/-! # Ends that two sequences share

    What two sequences begin and end with alike does not count for their distance.
    At the back this is the diagonal step of the table, for a place at which the
    sequences agree takes over the cell diagonally in front of it.  At the front the
    whole table is moved by one row and one column (`gap_shift`): no path gains by
    leaving the diagonal before the first cell, because it would have to come back.

    An item of the ends has to be equal to itself, and nothing else is asked of the
    test of items.  The main results are `distance_affixes` and
    `distanceWithin?_affixes`. -/

namespace Likeness.Edit

variable {α : Type}

/-! ## One agreeing pair in front -/

section Shift

variable {miss miss' : Nat → Nat → Bool}

/-- Next to an agreeing first pair only insertions are left. -/
theorem gap_one_left (hfirst : miss 0 0 = false) (j : Nat) : gap miss 1 (j + 1) = j := by
  induction j with
  | zero => rw [gap_succ_of_agree hfirst, gap_zero_left]
  | succ j ih =>
      have hstep := gap_le_left miss 1 (j + 1)
      have hlength := (le_gap_add miss 1 (j + 1 + 1)).2
      omega

/-- Next to an agreeing first pair only deletions are left. -/
theorem gap_one_right (hfirst : miss 0 0 = false) (i : Nat) : gap miss (i + 1) 1 = i := by
  rw [← gap_swap miss, gap_one_left]
  exact hfirst

/-- **AN AGREEING PAIR IN FRONT MOVES THE TABLE** by one row and one column. -/
theorem gap_shift (hfirst : miss' 0 0 = false) (hrest : ∀ i j, miss' (i + 1) (j + 1) = miss i j) :
    ∀ i j, gap miss' (i + 1) (j + 1) = gap miss i j := by
  intro i
  induction i with
  | zero =>
      intro j
      rw [gap_one_left hfirst, gap_zero_left]
  | succ i ihi =>
      intro j
      induction j with
      | zero => rw [gap_one_right hfirst, gap_zero_right]
      | succ j ihj =>
          rw [gap_succ (i + 1) (j + 1), ihj, ihi (j + 1), ihi j, hrest, gap_succ i j]

end Shift

/-! ## Shared ends -/

variable {same : α → α → Bool} {ps xs ys ss : List α}

/-- What stands in front of two sequences does not count for the last cell. -/
theorem gap_append_left (h : ∀ z ∈ ps, same z z = true) :
    gap (differ same (ps ++ xs) (ps ++ ys)) (ps ++ xs).length (ps ++ ys).length
      = gap (differ same xs ys) xs.length ys.length := by
  induction ps with
  | nil => rfl
  | cons p ps ih =>
      have hfirst : differ same (p :: (ps ++ xs)) (p :: (ps ++ ys)) 0 0 = false := by
        show (!same p p) = false
        rw [h p List.mem_cons_self]
        rfl
      rw [← ih fun z hz => h z (List.mem_cons_of_mem p hz)]
      exact gap_shift hfirst (fun i j => rfl) _ _

/-- Inside a shared end the sequences agree at places that are equally far behind its
    beginning. -/
theorem differ_append_right {k : Nat} (hk : k < ss.length) (h : ∀ z ∈ ss, same z z = true) :
    differ same (xs ++ ss) (ys ++ ss) (xs.length + k) (ys.length + k) = false := by
  rw [differ, List.getElem?_append_right (Nat.le_add_right _ _),
    List.getElem?_append_right (Nat.le_add_right _ _), Nat.add_sub_cancel_left,
    Nat.add_sub_cancel_left, List.getElem?_eq_getElem hk]
  show (!same ss[k] ss[k]) = false
  rw [h _ (List.getElem_mem hk)]
  rfl

/-- What stands behind two sequences does not count for the last cell. -/
theorem gap_append_right (h : ∀ z ∈ ss, same z z = true) :
    gap (differ same (xs ++ ss) (ys ++ ss)) (xs ++ ss).length (ys ++ ss).length
      = gap (differ same xs ys) xs.length ys.length := by
  have hback : ∀ k, k ≤ ss.length →
      gap (differ same (xs ++ ss) (ys ++ ss)) (xs.length + k) (ys.length + k)
        = gap (differ same (xs ++ ss) (ys ++ ss)) xs.length ys.length := by
    intro k
    induction k with
    | zero => exact fun _ => rfl
    | succ k ih =>
        intro hk
        rw [← Nat.add_assoc, ← Nat.add_assoc, gap_succ_of_agree (differ_append_right hk h)]
        exact ih (Nat.le_of_succ_le hk)
  rw [List.length_append, List.length_append, hback ss.length (Nat.le_refl _)]
  -- in front of the shared end the table is that of the sequences without it
  refine gap_congr (fun i j hi hj => ?_) _ _ (Nat.le_refl _) (Nat.le_refl _)
  rw [differ, differ, List.getElem?_append_left hi, List.getElem?_append_left hj]

theorem gap_affixes (h : ∀ z ∈ ps ++ ss, same z z = true) :
    gap (differ same (ps ++ xs ++ ss) (ps ++ ys ++ ss)) (ps ++ xs ++ ss).length
        (ps ++ ys ++ ss).length
      = gap (differ same xs ys) xs.length ys.length := by
  rw [gap_append_right fun z hz => h z (List.mem_append_right ps hz),
    gap_append_left fun z hz => h z (List.mem_append_left ss hz)]

/-- Shared ends do not change which of two sequences is the longer one. -/
theorem length_affixes_lt_iff :
    (ps ++ xs ++ ss).length < (ps ++ ys ++ ss).length ↔ xs.length < ys.length := by
  simp only [List.length_append]
  omega

/-! ## The distance -/

/-- **SHARED ENDS DO NOT COUNT** for the distance. -/
theorem distance_affixes (h : ∀ z ∈ ps ++ ss, same z z = true) :
    distance same (ps ++ xs ++ ss) (ps ++ ys ++ ss) = distance same xs ys := by
  simp only [distance, length_affixes_lt_iff, tableDistance_eq_gap, gap_affixes h]

/-- **SHARED ENDS DO NOT COUNT** for the distance within a threshold, although the band
    and its rows change with the lengths. -/
theorem distanceWithin?_affixes (h : ∀ z ∈ ps ++ ss, same z z = true)
    (hxs : (ps ++ xs ++ ss).length ≤ unreachable) (hys : (ps ++ ys ++ ss).length ≤ unreachable)
    (t : Nat) :
    distanceWithin? same (ps ++ xs ++ ss) (ps ++ ys ++ ss) t = distanceWithin? same xs ys t := by
  have hinner : ∀ us : List α, (ps ++ us ++ ss).length ≤ unreachable → us.length ≤ unreachable := by
    intro us hus
    rw [List.length_append, List.length_append] at hus
    omega
  rw [distanceWithin?_eq_gap hxs hys, distanceWithin?_eq_gap (hinner xs hxs) (hinner ys hys)]
  simp only [length_affixes_lt_iff, gap_affixes h]

end Likeness.Edit
