import Likeness.Edit.Distance

/-! # The table of prefix distances

    `gap` is the distance of two prefixes by its recurrence, told only which
    places hold different items.  Neighbouring cells of the table differ by at
    most one and no cell is below the one diagonally in front of it; both
    facts carry every shortcut that leaves cells of the table out.

    The main result is `distance_eq_gap`: filling the table row by row over the
    shorter sequence ends at the cell of the two whole sequences, whichever of
    them is the shorter one. -/

namespace Likeness.Edit

variable {α : Type}

/-- The distance of the first `i` items of one sequence from the first `j` items
    of another one, where `miss i j` says that place `i` of the first and place
    `j` of the second hold different items. -/
def gap (miss : Nat → Nat → Bool) : Nat → Nat → Nat
  | 0, j => j
  | i + 1, 0 => i + 1
  | i + 1, j + 1 =>
    min (min (gap miss (i + 1) j + 1) (gap miss i (j + 1) + 1))
      (gap miss i j + (miss i j).toNat)

/-- The items at two places differ, or one of the places is not there. -/
def differ (same : α → α → Bool) (xs ys : List α) (i j : Nat) : Bool :=
  !(xs[i]?.any fun x => ys[j]?.any fun y => same x y)

/-! ## The recurrence -/

variable {miss : Nat → Nat → Bool}

@[simp] theorem gap_zero_left (j : Nat) : gap miss 0 j = j := by
  rw [gap]

@[simp] theorem gap_zero_right (i : Nat) : gap miss i 0 = i := by
  cases i with
  | zero => rw [gap]
  | succ i => rw [gap]

theorem gap_succ (i j : Nat) :
    gap miss (i + 1) (j + 1)
      = min (min (gap miss (i + 1) j + 1) (gap miss i (j + 1) + 1))
          (gap miss i j + (miss i j).toNat) := by
  rw [gap]

/-- The table of the swapped sequences is the table with rows and columns
    swapped. -/
theorem gap_swap (miss : Nat → Nat → Bool) (i j : Nat) :
    gap (fun k l => miss l k) i j = gap miss j i := by
  induction i generalizing j with
  | zero => rw [gap_zero_left, gap_zero_right]
  | succ i ihi =>
      induction j with
      | zero => rw [gap_zero_left, gap_zero_right]
      | succ j ihj =>
          rw [gap_succ, gap_succ, ihj, ihi, ihi]
          omega

/-- The table depends only on the places in front of its cell. -/
theorem gap_congr {miss' : Nat → Nat → Bool} {m n : Nat}
    (h : ∀ i j, i < m → j < n → miss i j = miss' i j) :
    ∀ i j, i ≤ m → j ≤ n → gap miss i j = gap miss' i j := by
  intro i
  induction i with
  | zero =>
      intro j _ _
      rw [gap_zero_left, gap_zero_left]
  | succ i ihi =>
      intro j hi
      induction j with
      | zero =>
          intro _
          rw [gap_zero_right, gap_zero_right]
      | succ j ihj =>
          intro hj
          rw [gap_succ, gap_succ, ihj (by omega), ihi (j + 1) (by omega) hj,
            ihi j (by omega) (by omega), h i j (by omega) (by omega)]

/-! ## Neighbouring cells -/

section Neighbours

variable (miss)

theorem gap_le_above (i j : Nat) : gap miss (i + 1) j ≤ gap miss i j + 1 := by
  cases j with
  | zero =>
      refine Nat.le_of_eq ?_
      rw [gap_zero_right, gap_zero_right]
  | succ j =>
      rw [gap_succ]
      omega

theorem gap_le_left (i j : Nat) : gap miss i (j + 1) ≤ gap miss i j + 1 := by
  cases i with
  | zero =>
      refine Nat.le_of_eq ?_
      rw [gap_zero_left, gap_zero_left]
  | succ i =>
      rw [gap_succ]
      omega

theorem gap_le_diagonal (i j : Nat) :
    gap miss (i + 1) (j + 1) ≤ gap miss i j + (miss i j).toNat := by
  rw [gap_succ]
  omega

/-- The longer prefix is overwritten with the shorter one, and its rest is taken away. -/
theorem gap_le_max (i j : Nat) : gap miss i j ≤ max i j := by
  induction i generalizing j with
  | zero => exact Nat.le_of_eq (by rw [gap_zero_left, Nat.zero_max])
  | succ i ih =>
      cases j with
      | zero => exact Nat.le_of_eq (by rw [gap_zero_right, Nat.max_zero])
      | succ j =>
          have hdiagonal := gap_le_diagonal miss i j
          have hcost := Bool.toNat_le (miss i j)
          have hrest := ih j
          omega

/-- In a row whose cells are at most one more than their right neighbours, they
    are at most one more than the cells below them. -/
private theorem gap_le_below_of_right {i : Nat}
    (h : ∀ j, gap miss i j ≤ gap miss i (j + 1) + 1) :
    ∀ j, gap miss i j ≤ gap miss (i + 1) j + 1 := by
  intro j
  induction j with
  | zero =>
      rw [gap_zero_right, gap_zero_right]
      omega
  | succ j ih =>
      have hstep := gap_le_left miss i j
      have hright := h j
      rw [gap_succ]
      omega

theorem gap_le_right (i j : Nat) : gap miss i j ≤ gap miss i (j + 1) + 1 := by
  induction i generalizing j with
  | zero =>
      rw [gap_zero_left, gap_zero_left]
      omega
  | succ i ih =>
      have hstep := gap_le_above miss i j
      have hbelow := gap_le_below_of_right miss ih j
      have hright := ih j
      rw [gap_succ]
      omega

theorem gap_le_below (i j : Nat) : gap miss i j ≤ gap miss (i + 1) j + 1 :=
  gap_le_below_of_right miss (gap_le_right miss i) j

/-- No cell is below the one diagonally in front of it. -/
theorem gap_le_succ_succ (i j : Nat) : gap miss i j ≤ gap miss (i + 1) (j + 1) := by
  have h1 := gap_le_below miss i j
  have h2 := gap_le_right miss i j
  rw [gap_succ]
  omega

/-- A cell is at least as far from zero as from the diagonal. -/
theorem le_gap_add (i j : Nat) : i ≤ gap miss i j + j ∧ j ≤ gap miss i j + i := by
  constructor
  · induction j with
    | zero =>
        rw [gap_zero_right]
        omega
    | succ j ih =>
        have := gap_le_right miss i j
        omega
  · induction i with
    | zero =>
        rw [gap_zero_left]
        omega
    | succ i ih =>
        have := gap_le_below miss i j
        omega

end Neighbours

/-- Where the items agree the diagonal is the least of the three ways. -/
theorem gap_succ_of_agree {i j : Nat} (h : miss i j = false) :
    gap miss (i + 1) (j + 1) = gap miss i j := by
  have hle := gap_le_diagonal miss i j
  rw [h] at hle
  exact Nat.le_antisymm hle (gap_le_succ_succ miss i j)

theorem gap_succ_of_differ {i j : Nat} (h : miss i j = true) :
    gap miss (i + 1) (j + 1)
      = 1 + min (min (gap miss i (j + 1)) (gap miss (i + 1) j)) (gap miss i j) := by
  rw [gap_succ, h]
  show min (min (gap miss (i + 1) j + 1) (gap miss i (j + 1) + 1)) (gap miss i j + 1) = _
  omega

/-- Once all of a row is beyond a threshold, so is all of every later row. -/
theorem lt_gap_of_row {t n j : Nat} (h : ∀ i, i ≤ n → t < gap miss i j) :
    ∀ k i, i ≤ n → t < gap miss i (j + k) := by
  intro k
  induction k with
  | zero => exact h
  | succ k ihk =>
      intro i
      induction i with
      | zero =>
          intro hi
          have := ihk 0 hi
          rw [gap_zero_left] at this
          rw [gap_zero_left]
          omega
      | succ i ihi =>
          intro hi
          have h1 := ihk (i + 1) hi
          have h2 := ihi (by omega)
          have h3 := ihk i (by omega)
          rw [← Nat.add_assoc] at h2 ⊢
          rw [gap_succ]
          omega

/-! ## Filling the table -/

theorem differ_eq (same : α → α → Bool) {xs ys : List α} {i j : Nat}
    (hi : i < xs.length) (hj : j < ys.length) :
    differ same xs ys i j = !same xs[i] ys[j] := by
  simp [differ, hi, hj]

/-- Swapping two sequences swaps the places that differ, if the test is symmetric
    on their items. -/
theorem differ_swap {same : α → α → Bool} {xs ys : List α}
    (hsym : ∀ x ∈ xs, ∀ y ∈ ys, same x y = same y x) {i j : Nat}
    (hi : i < xs.length) (hj : j < ys.length) :
    differ same ys xs j i = differ same xs ys i j := by
  rw [differ_eq same hj hi, differ_eq same hi hj,
    hsym xs[i] (List.getElem_mem hi) ys[j] (List.getElem_mem hj)]

/-- A sweep from a cell on turns the rest of a row into the rest of the next one. -/
theorem sweep_eq {same : α → α → Bool} {x : α} {i : Nat} :
    ∀ (ys : List α) (j : Nat), (∀ k (hk : k < ys.length), miss i (j + k) = !same x ys[k]) →
      sweep same x (gap miss (i + 1) j) ((List.range' j (ys.length + 1)).map (gap miss i)) ys
        = (List.range' (j + 1) ys.length).map (gap miss (i + 1)) := by
  intro ys
  induction ys with
  | nil =>
      intro j _
      rfl
  | cons y ys ih =>
      intro j h
      have hcost : (if same x y then 0 else 1) = (miss i j).toNat := by
        have h0 := h 0 (by simp)
        rw [Nat.add_zero, List.getElem_cons_zero] at h0
        rw [h0]
        cases same x y with
        | true => rfl
        | false => rfl
      have hrest := ih (j + 1) (fun k hk => by
        have hk' := h (k + 1) (by simpa using hk)
        rw [List.getElem_cons_succ] at hk'
        rw [← hk', Nat.add_right_comm, Nat.add_assoc])
      rw [List.length_cons, List.range'_succ, List.map_cons, List.range'_succ, List.map_cons,
        sweep, hcost, ← gap_succ, List.map_cons]
      rw [List.range'_succ, List.map_cons] at hrest
      rw [hrest]

/-- The rows of the items from place `i` on end at the row of the last item. -/
theorem rows_eq {same : α → α → Bool} {ys : List α} :
    ∀ (xs : List α) (i : Nat), (∀ k (hk : k < xs.length) l (hl : l < ys.length),
        miss (i + k) l = !same xs[k] ys[l]) →
      rows same ys (i + 1) xs ((List.range (ys.length + 1)).map (gap miss i))
        = (List.range (ys.length + 1)).map (gap miss (i + xs.length)) := by
  intro xs
  induction xs with
  | nil =>
      intro i _
      rfl
  | cons x xs ih =>
      intro i h
      have hsweep : sweep same x (gap miss (i + 1) 0)
            ((List.range' 0 (ys.length + 1)).map (gap miss i)) ys
          = (List.range' (0 + 1) ys.length).map (gap miss (i + 1)) :=
        sweep_eq ys 0 (fun k hk => by
          have h0 := h 0 (by simp) k hk
          rw [Nat.zero_add]
          exact h0)
      rw [gap_zero_right, ← List.range_eq_range'] at hsweep
      have hrow : (i + 1) :: sweep same x (i + 1) ((List.range (ys.length + 1)).map (gap miss i)) ys
          = (List.range (ys.length + 1)).map (gap miss (i + 1)) := by
        rw [hsweep, List.range_eq_range', List.range'_succ, List.map_cons, gap_zero_right]
      rw [rows, hrow, ih (i + 1) (fun k hk l hl => by
        have hk' := h (k + 1) (by simpa using hk) l hl
        rw [List.getElem_cons_succ] at hk'
        rw [← hk', Nat.add_right_comm, Nat.add_assoc])]
      rw [List.length_cons, Nat.add_right_comm, Nat.add_assoc]

theorem tableDistance_eq_gap (same : α → α → Bool) (xs ys : List α) :
    tableDistance same xs ys = gap (differ same xs ys) xs.length ys.length := by
  have hstart : List.range (ys.length + 1)
      = (List.range (ys.length + 1)).map (gap (differ same xs ys) 0) := by
    rw [List.map_congr_left (fun j _ => gap_zero_left j), List.map_id'']
    intro j
    rfl
  have hrows : rows same ys (0 + 1) xs
        ((List.range (ys.length + 1)).map (gap (differ same xs ys) 0))
      = (List.range (ys.length + 1)).map (gap (differ same xs ys) (0 + xs.length)) :=
    rows_eq xs 0 (fun k hk l hl => by
      rw [Nat.zero_add]
      exact differ_eq same hk hl)
  rw [← hstart, Nat.zero_add, Nat.zero_add] at hrows
  rw [tableDistance, hrows, List.range_succ, List.map_append, List.map_cons, List.map_nil,
    List.getLastD_concat]

/-- **THE DISTANCE IS THE LAST CELL**: whichever sequence is the shorter one, the
    distance is the cell of the two whole sequences. -/
theorem distance_eq_gap {same : α → α → Bool} {xs ys : List α}
    (hsym : ∀ x ∈ xs, ∀ y ∈ ys, same x y = same y x) :
    distance same xs ys = gap (differ same xs ys) xs.length ys.length := by
  rw [distance]
  by_cases h : xs.length < ys.length
  · rw [if_pos h, tableDistance_eq_gap, ← gap_swap]
    exact gap_congr (fun i j hi hj => differ_swap hsym hi hj) _ _
      (Nat.le_refl _) (Nat.le_refl _)
  · rw [if_neg h, tableDistance_eq_gap]

/-- No distance is larger than the longer sequence is long. -/
theorem distance_le_max {same : α → α → Bool} {xs ys : List α}
    (hsym : ∀ x ∈ xs, ∀ y ∈ ys, same x y = same y x) :
    distance same xs ys ≤ max xs.length ys.length := by
  rw [distance_eq_gap hsym]
  exact gap_le_max _ _ _

/-- The distance does not depend on the order of the sequences. -/
theorem distance_comm {same : α → α → Bool} {xs ys : List α}
    (hsym : ∀ x ∈ xs, ∀ y ∈ ys, same x y = same y x) :
    distance same ys xs = distance same xs ys := by
  rw [distance_eq_gap hsym, distance_eq_gap (fun y hy x hx => (hsym x hx y hy).symm), ← gap_swap]
  exact gap_congr (fun i j hi hj => differ_swap hsym hi hj) _ _ (Nat.le_refl _) (Nat.le_refl _)

/-- A sequence has no distance from itself. -/
theorem distance_self {same : α → α → Bool} {xs : List α}
    (hsym : ∀ x ∈ xs, ∀ y ∈ xs, same x y = same y x) (hrefl : ∀ x ∈ xs, same x x = true) :
    distance same xs xs = 0 := by
  have hdiagonal : ∀ n, n ≤ xs.length → gap (differ same xs xs) n n = 0 := by
    intro n
    induction n with
    | zero => exact fun _ => gap_zero_left 0
    | succ n ih =>
        intro hn
        have hagree : differ same xs xs n n = false := by
          rw [differ_eq same hn hn, hrefl _ (List.getElem_mem hn)]
          rfl
        rw [gap_succ_of_agree hagree]
        exact ih (Nat.le_of_succ_le hn)
  rw [distance_eq_gap hsym]
  exact hdiagonal _ (Nat.le_refl _)

end Likeness.Edit
