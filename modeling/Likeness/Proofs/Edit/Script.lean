import Likeness.Proofs.Edit.Table
import Mathlib.Order.Bounds.Basic

/-! # The distance is the least cost of an edit script

    An edit script goes through two sequences from the front and says of each item
    whether it is inserted, deleted, replaced or kept; only equal items may be kept,
    and only keeping is free.  A cell of the table is the cost of a script for two
    prefixes, and no script from there on can make up for more than it costs.

    The main result is `distance_isLeast`.  It holds for any test of items, also for
    one that depends on which of two items is asked: the distance asks the items of
    the longer sequence (`asked`). -/

namespace Likeness.Edit

variable {α : Type}

/-! ## Scripts -/

/-- A way to turn one sequence into another item by item.  An item may be kept in the
    place of another one only if it is equal to it. -/
inductive Script (same : α → α → Bool) : List α → List α → Type where
  | done : Script same [] []
  | insert {xs ys : List α} (y : α) (rest : Script same xs ys) : Script same xs (y :: ys)
  | delete {xs ys : List α} (x : α) (rest : Script same xs ys) : Script same (x :: xs) ys
  | replace {xs ys : List α} (x y : α) (rest : Script same xs ys) :
      Script same (x :: xs) (y :: ys)
  | keep {xs ys : List α} {x y : α} (h : same x y = true) (rest : Script same xs ys) :
      Script same (x :: xs) (y :: ys)

variable {same : α → α → Bool} {xs ys us vs : List α}

/-- The number of insertions, deletions and replacements. -/
def Script.cost {xs ys : List α} : Script same xs ys → Nat
  | .done => 0
  | .insert _ rest => rest.cost + 1
  | .delete _ rest => rest.cost + 1
  | .replace _ _ rest => rest.cost + 1
  | .keep _ rest => rest.cost

/-- One script after another. -/
def Script.append {xs ys : List α} :
    Script same xs ys → Script same us vs → Script same (xs ++ us) (ys ++ vs)
  | .done, t => t
  | .insert y rest, t => .insert y (rest.append t)
  | .delete x rest, t => .delete x (rest.append t)
  | .replace x y rest, t => .replace x y (rest.append t)
  | .keep h rest, t => .keep h (rest.append t)

theorem Script.cost_append (s : Script same xs ys) (t : Script same us vs) :
    (s.append t).cost = s.cost + t.cost := by
  induction s with
  | done => exact (Nat.zero_add t.cost).symm
  | insert y rest ih =>
      show (rest.append t).cost + 1 = rest.cost + 1 + t.cost
      rw [ih, Nat.add_right_comm]
  | delete x rest ih =>
      show (rest.append t).cost + 1 = rest.cost + 1 + t.cost
      rw [ih, Nat.add_right_comm]
  | replace x y rest ih =>
      show (rest.append t).cost + 1 = rest.cost + 1 + t.cost
      rw [ih, Nat.add_right_comm]
  | keep h rest ih => exact ih

/-! ## Every cell is the cost of a script -/

/-- One sequence can be turned into another at a cost. -/
def Reaches (same : α → α → Bool) (xs ys : List α) (n : Nat) : Prop :=
  ∃ s : Script same xs ys, s.cost = n

theorem Reaches.append {m n : Nat} (h : Reaches same xs ys m) (h' : Reaches same us vs n) :
    Reaches same (xs ++ us) (ys ++ vs) (m + n) := by
  obtain ⟨s, rfl⟩ := h
  obtain ⟨t, rfl⟩ := h'
  exact ⟨s.append t, s.cost_append t⟩

theorem Reaches.min {m n : Nat} (h : Reaches same xs ys m) (h' : Reaches same xs ys n) :
    Reaches same xs ys (min m n) := by
  rcases Nat.le_total m n with hle | hle
  · rw [Nat.min_eq_left hle]
    exact h
  · rw [Nat.min_eq_right hle]
    exact h'

/-- What a script for one item in the place of another costs. -/
theorem reaches_single (same : α → α → Bool) (x y : α) :
    Reaches same [x] [y] (!same x y).toNat := by
  cases h : same x y with
  | true => exact ⟨.keep h .done, rfl⟩
  | false => exact ⟨.replace x y .done, rfl⟩

section Prefixes

variable {i j n : Nat}

theorem Reaches.delete (hi : i < xs.length) (h : Reaches same (xs.take i) (ys.take j) n) :
    Reaches same (xs.take (i + 1)) (ys.take j) (n + 1) := by
  rw [List.take_succ_eq_append_getElem hi, ← List.append_nil (ys.take j)]
  exact h.append ⟨.delete xs[i] .done, rfl⟩

theorem Reaches.insert (hj : j < ys.length) (h : Reaches same (xs.take i) (ys.take j) n) :
    Reaches same (xs.take i) (ys.take (j + 1)) (n + 1) := by
  rw [List.take_succ_eq_append_getElem hj, ← List.append_nil (xs.take i)]
  exact h.append ⟨.insert ys[j] .done, rfl⟩

theorem Reaches.pair (hi : i < xs.length) (hj : j < ys.length)
    (h : Reaches same (xs.take i) (ys.take j) n) :
    Reaches same (xs.take (i + 1)) (ys.take (j + 1)) (n + (differ same xs ys i j).toNat) := by
  rw [List.take_succ_eq_append_getElem hi, List.take_succ_eq_append_getElem hj,
    differ_eq same hi hj]
  exact h.append (reaches_single same xs[i] ys[j])

end Prefixes

/-- **EVERY CELL IS REACHED**: the cell of two prefixes is the cost of a script that turns
    one into the other. -/
theorem reaches_gap (same : α → α → Bool) (xs ys : List α) :
    ∀ i j, i ≤ xs.length → j ≤ ys.length →
      Reaches same (xs.take i) (ys.take j) (gap (differ same xs ys) i j) := by
  intro i
  induction i with
  | zero =>
      intro j
      induction j with
      | zero => exact fun _ _ => ⟨.done, (gap_zero_left 0).symm⟩
      | succ j ihj =>
          intro hi hj
          have h := (ihj hi (by omega)).insert hj
          rw [gap_zero_left] at h ⊢
          exact h
  | succ i ihi =>
      intro j
      induction j with
      | zero =>
          intro hi hj
          have h := (ihi 0 (by omega) hj).delete hi
          rw [gap_zero_right] at h ⊢
          exact h
      | succ j ihj =>
          intro hi hj
          rw [gap_succ]
          exact (((ihj hi (by omega)).insert hj).min ((ihi (j + 1) (by omega) hj).delete hi)).min
            ((ihi j (by omega) (by omega)).pair hi hj)

/-! ## No script costs less -/

private theorem eq_length_of_drop {k : Nat} (h : xs.drop k = []) (hk : k ≤ xs.length) :
    k = xs.length :=
  Nat.le_antisymm hk (List.drop_eq_nil_iff.mp h)

private theorem getElem_of_drop {x : α} {k : Nat} (h : xs.drop k = x :: us) :
    ∃ hk : k < xs.length, xs[k] = x ∧ xs.drop (k + 1) = us := by
  have hk : k < xs.length := by
    rw [← Nat.not_le]
    intro hle
    rw [List.drop_eq_nil_of_le hle] at h
    exact nomatch h
  rw [List.drop_eq_getElem_cons hk] at h
  obtain ⟨hx, hrest⟩ := List.cons.inj h
  exact ⟨hk, hx, hrest⟩

/-- **NO SCRIPT COSTS LESS**: behind the prefixes of a cell, a script costs at least what
    the last cell of the table has more than that cell. -/
theorem gap_le_add_cost (s : Script same us vs) :
    ∀ i j, xs.drop i = us → ys.drop j = vs → i ≤ xs.length → j ≤ ys.length →
      gap (differ same xs ys) xs.length ys.length ≤ gap (differ same xs ys) i j + s.cost := by
  induction s with
  | done =>
      intro i j hx hy hi hj
      rw [eq_length_of_drop hx hi, eq_length_of_drop hy hj]
      exact Nat.le_add_right _ _
  | insert y rest ih =>
      intro i j hx hy hi _
      obtain ⟨hj, -, hy'⟩ := getElem_of_drop hy
      have hrest := ih i (j + 1) hx hy' hi hj
      have hstep := gap_le_left (differ same xs ys) i j
      show _ ≤ _ + (rest.cost + 1)
      omega
  | delete x rest ih =>
      intro i j hx hy _ hj
      obtain ⟨hi, -, hx'⟩ := getElem_of_drop hx
      have hrest := ih (i + 1) j hx' hy hi hj
      have hstep := gap_le_above (differ same xs ys) i j
      show _ ≤ _ + (rest.cost + 1)
      omega
  | replace x y rest ih =>
      intro i j hx hy _ _
      obtain ⟨hi, -, hx'⟩ := getElem_of_drop hx
      obtain ⟨hj, -, hy'⟩ := getElem_of_drop hy
      have hrest := ih (i + 1) (j + 1) hx' hy' hi hj
      have hstep := gap_le_diagonal (differ same xs ys) i j
      have hcost := Bool.toNat_le (differ same xs ys i j)
      show _ ≤ _ + (rest.cost + 1)
      omega
  | keep h rest ih =>
      intro i j hx hy _ _
      obtain ⟨hi, hxi, hx'⟩ := getElem_of_drop hx
      obtain ⟨hj, hyj, hy'⟩ := getElem_of_drop hy
      have hrest := ih (i + 1) (j + 1) hx' hy' hi hj
      have hagree : differ same xs ys i j = false := by
        rw [differ_eq same hi hj, hxi, hyj, h]
        rfl
      rw [gap_succ_of_agree hagree] at hrest
      exact hrest

/-- The last cell of the table is the least cost of a script. -/
theorem gap_isLeast (same : α → α → Bool) (xs ys : List α) :
    IsLeast (Set.range (Script.cost : Script same xs ys → Nat))
      (gap (differ same xs ys) xs.length ys.length) := by
  constructor
  · have h := reaches_gap same xs ys xs.length ys.length (Nat.le_refl _) (Nat.le_refl _)
    rw [List.take_length, List.take_length] at h
    exact h
  · rintro n ⟨s, rfl⟩
    have h := gap_le_add_cost s 0 0 rfl rfl (Nat.zero_le _) (Nat.zero_le _)
    rw [gap_zero_left, Nat.zero_add] at h
    exact h

/-- So is every cell, for the prefixes in front of it. -/
theorem gap_take_isLeast (same : α → α → Bool) {i j : Nat} (hi : i ≤ xs.length)
    (hj : j ≤ ys.length) :
    IsLeast (Set.range (Script.cost : Script same (xs.take i) (ys.take j) → Nat))
      (gap (differ same xs ys) i j) := by
  have h := gap_isLeast same (xs.take i) (ys.take j)
  rw [List.length_take_of_le hi, List.length_take_of_le hj] at h
  rw [gap_congr (fun k l hk hl => ?_) i j (Nat.le_refl i) (Nat.le_refl j)]
  · exact h
  · rw [differ, differ, List.getElem?_take_of_lt hk, List.getElem?_take_of_lt hl]

/-! ## The distance -/

/-- The test of items as the distance uses it: the item of the longer sequence is asked
    whether it is equal to the other. -/
def asked (same : α → α → Bool) (xs ys : List α) (x y : α) : Bool :=
  if xs.length < ys.length then same y x else same x y

theorem differ_flip (same : α → α → Bool) (xs ys : List α) (i j : Nat) :
    differ same ys xs j i = differ (fun x y => same y x) xs ys i j := by
  rw [differ, differ]
  cases xs[i]? with
  | none => cases ys[j]? <;> rfl
  | some x => cases ys[j]? <;> rfl

/-- Whichever sequence is the shorter one, and whatever the test of items is. -/
theorem distance_eq_gap_asked (same : α → α → Bool) (xs ys : List α) :
    distance same xs ys = gap (differ (asked same xs ys) xs ys) xs.length ys.length := by
  by_cases h : xs.length < ys.length
  · have hasked : asked same xs ys = fun x y => same y x := by
      funext x y
      exact if_pos h
    rw [distance, if_pos h, tableDistance_eq_gap, ← gap_swap, hasked]
    exact gap_congr (fun i j _ _ => differ_flip same xs ys i j) _ _ (Nat.le_refl _) (Nat.le_refl _)
  · have hasked : asked same xs ys = same := by
      funext x y
      exact if_neg h
    rw [distance, if_neg h, tableDistance_eq_gap, hasked]

/-- **THE DISTANCE IS THE LEAST COST OF A SCRIPT**, for any test of items. -/
theorem distance_isLeast (same : α → α → Bool) (xs ys : List α) :
    IsLeast (Set.range (Script.cost : Script (asked same xs ys) xs ys → Nat))
      (distance same xs ys) := by
  rw [distance_eq_gap_asked]
  exact gap_isLeast _ xs ys

end Likeness.Edit
