import Likeness.Proofs.Statistics.Order
import Mathlib.Data.List.Sort

/-! # Runs are in order

    The order is one of heights: items that are not below one another stand at the same
    height.  A search for a place, by halving or by strides, then finds the one that divides
    the places in front from the others, since those come first in a list in order.  So an
    item that is inserted into a run stands where it should, and a run that is cut off a list
    is in order. -/

namespace Likeness.Statistics

variable {α : Type}

/-! ## Orders of heights -/

/-- An order in which items that are not below one another stand at the same height. -/
structure Weak (below : α → α → Bool) : Prop where
  asymm : ∀ {x y}, below x y = true → below y x = false
  trans : ∀ {x y z}, below y x = false → below z y = false → below z x = false

theorem Weak.irrefl {below : α → α → Bool} (h : Weak below) (x : α) : below x x = false := by
  by_contra hx
  exact hx (h.asymm (eq_true_of_ne_false hx))

theorem Weak.turned {below : α → α → Bool} (h : Weak below) : Weak fun x y => below y x where
  asymm := h.asymm
  trans hyx hzy := h.trans hzy hyx

theorem Weak.of_key {β : Type} [LinearOrder β] {below : α → α → Bool} {key : α → β}
    (h : ∀ x y, below x y = decide (key x < key y)) : Weak below where
  asymm {x y} hxy := by
    rw [h, decide_eq_true_iff] at hxy
    rw [h, decide_eq_false_iff_not]
    exact lt_asymm hxy
  trans {x y z} hyx hzy := by
    rw [h, decide_eq_false_iff_not, not_lt] at hyx hzy ⊢
    exact le_trans hyx hzy

/-- No item is below one that stands before it. -/
def Sorted (below : α → α → Bool) (xs : List α) : Prop :=
  xs.Pairwise fun x y => below y x = false

variable {below : α → α → Bool}

theorem Sorted.turned {xs : List α} (h : Sorted below xs) :
    Sorted (fun x y => below y x) xs.reverse :=
  List.pairwise_reverse.mpr h

theorem sorted_append {xs ys : List α} : Sorted below (xs ++ ys) ↔
    Sorted below xs ∧ Sorted below ys ∧ ∀ x ∈ xs, ∀ y ∈ ys, below y x = false :=
  List.pairwise_append

/-- An item that is not above the first of a run may stand before it. -/
theorem Sorted.cons_cons {x y : α} {ys : List α} (hbelow : Weak below) (hxy : below y x = false)
    (h : Sorted below (y :: ys)) : Sorted below (x :: y :: ys) := by
  refine List.pairwise_cons.mpr ⟨fun z hz => ?_, h⟩
  rcases List.mem_cons.mp hz with rfl | hz
  · exact hxy
  · exact hbelow.trans hxy ((List.pairwise_cons.mp h).1 z hz)

/-! ## Places -/

/-- The places in front come first. -/
def InFront (front : Nat → Bool) (n : Nat) : Prop :=
  ∀ i j, i ≤ j → j < n → front j = true → front i = true

/-- A place that divides the places in front from the others. -/
structure Divides (front : Nat → Bool) (n place : Nat) : Prop where
  before : ∀ i < place, front i = true
  behind : ∀ i, place ≤ i → i < n → front i = false

theorem InFront.before {front : Nat → Bool} {n i : Nat} (h : InFront front n) (hi : i < n)
    (hfront : front i = true) : ∀ j < i + 1, front j = true :=
  fun j hj => h j i (by omega) hi hfront

theorem InFront.behind {front : Nat → Bool} {n i : Nat} (h : InFront front n)
    (hfront : front i = false) : ∀ j, i ≤ j → j < n → front j = false := by
  intro j hij hj
  by_contra hne
  rw [h i j hij hj (eq_true_of_ne_false hne)] at hfront
  exact nomatch hfront

theorem halve_divides {front : Nat → Bool} {n low high : Nat} (h : InFront front n)
    (hle : low ≤ high) (hn : high ≤ n) (hbefore : ∀ i < low, front i = true)
    (hbehind : ∀ i, high ≤ i → i < n → front i = false) :
    Divides front n (halve front low high) := by
  fun_induction halve front low high with
  | case1 low high hlt middle hfront ih =>
      exact ih (by omega) hn (h.before (by omega) hfront) hbehind
  | case2 low high hlt middle hfront ih =>
      exact ih (by omega) (by omega) hbefore (h.behind (eq_false_of_ne_true hfront))
  | case3 low high hge =>
      obtain rfl : low = high := by omega
      exact ⟨hbefore, hbehind⟩

/-- Strides end between a place that goes on and one that does not, or at the limit. -/
theorem stride_ends (goesOn : Nat → Bool) (limit fuel : Nat) {last next : Nat} (hlast : last < next)
    (hlimit : last < limit) (hgoesOn : goesOn last = true) (hfuel : limit ≤ next + fuel) :
    let (last, next) := stride goesOn limit fuel last next
    last < next ∧ next ≤ limit ∧ goesOn last = true ∧
      (next = limit ∨ goesOn next = false) := by
  induction fuel generalizing last next with
  | zero => exact ⟨by omega, Nat.min_le_right .., hgoesOn, .inl (Nat.min_eq_right hfuel)⟩
  | succ fuel ih =>
      unfold stride
      split_ifs with hnext
      · obtain ⟨hlt, hgoesOn⟩ := Bool.and_eq_true_iff.mp hnext
        exact ih (by omega) (of_decide_eq_true hlt) hgoesOn (by omega)
      · refine ⟨by omega, Nat.min_le_right .., hgoesOn, ?_⟩
        by_cases hlt : next < limit
        · right
          rw [Nat.min_eq_left (Nat.le_of_lt hlt)]
          simpa [hlt] using hnext
        · exact .inl (Nat.min_eq_right (by omega))

theorem boundary_divides {front : Nat → Bool} {n near : Nat} (h : InFront front n)
    (hnear : near < n) : Divides front n (boundary front n near) := by
  unfold boundary
  split_ifs with hfront
  · have hends := stride_ends (fun k => front (near + k)) (n - near) n Nat.zero_lt_one (by omega)
      hfront (by omega)
    generalize stride (fun k => front (near + k)) (n - near) n 0 1 = ends at hends ⊢
    obtain ⟨last, next⟩ := ends
    obtain ⟨hlt, hle, hlast, hnext⟩ := hends
    refine halve_divides h (by omega) (by omega) (h.before (by omega) hlast) ?_
    rcases hnext with rfl | hnext
    · intro i hi hn
      omega
    · exact h.behind hnext
  · have hends := stride_ends (fun k => !front (near - k)) (near + 1) n Nat.zero_lt_one (by omega)
      (by simpa using hfront) (by omega)
    generalize stride (fun k => !front (near - k)) (near + 1) n 0 1 = ends at hends ⊢
    obtain ⟨last, next⟩ := ends
    obtain ⟨hlt, hle, hlast, hnext⟩ := hends
    refine halve_divides h (by omega) (by omega) ?_ (h.behind (by simpa using hlast))
    rcases hnext with rfl | hnext
    · intro i hi
      omega
    · intro i hi
      exact h.before (i := near - next) (by omega) (by simpa using hnext) i (by omega)

/-- A place of a list before which all items pass, and behind which none does. -/
structure Parts (passes : α → Bool) (xs : List α) (place : Nat) : Prop where
  before : ∀ x ∈ xs.take place, passes x = true
  behind : ∀ x ∈ xs.drop place, passes x = false

/-- The items that pass come first. -/
def PassFirst (passes : α → Bool) (xs : List α) : Prop :=
  xs.Pairwise fun x y => passes y = true → passes x = true

theorem any_getElem? (passes : α → Bool) {xs : List α} {i : Nat} (hi : i < xs.length) :
    (xs[i]?).any passes = passes xs[i] := by
  rw [List.getElem?_eq_getElem hi, Option.any_some]

theorem PassFirst.getElem {passes : α → Bool} {xs : List α} (h : PassFirst passes xs) {i j : Nat}
    (hij : i ≤ j) (hj : j < xs.length) (hpass : passes xs[j] = true) : passes xs[i] = true := by
  rcases Nat.eq_or_lt_of_le hij with rfl | hlt
  · exact hpass
  · exact List.pairwise_iff_getElem.mp h i j (by omega) hj hlt hpass

theorem PassFirst.inFront {passes : α → Bool} {xs : List α} (h : PassFirst passes xs) :
    InFront (fun i => (xs[i]?).any passes) xs.length := by
  intro i j hij hj hfront
  dsimp only at hfront ⊢
  rw [any_getElem? _ hj] at hfront
  rw [any_getElem? _ (by omega)]
  exact h.getElem hij hj hfront

/-- In a list that is turned round the items that do not pass come first. -/
theorem PassFirst.inFront_turned {passes : α → Bool} {xs : List α} (h : PassFirst passes xs) :
    InFront (fun i => (xs[xs.length - 1 - i]?).any fun x => !passes x) xs.length := by
  intro i j hij hj hfront
  dsimp only at hfront ⊢
  rw [any_getElem? _ (by omega)] at hfront ⊢
  by_contra hpass
  have hpass : passes xs[xs.length - 1 - i] = true := by simpa using hpass
  rw [h.getElem (by omega) (by omega) hpass] at hfront
  exact nomatch hfront

theorem Divides.parts {passes : α → Bool} {xs : List α} {place : Nat}
    (h : Divides (fun i => (xs[i]?).any passes) xs.length place) : Parts passes xs place where
  before x hx := by
    obtain ⟨i, hi, rfl⟩ := List.mem_take_iff_getElem.mp hx
    rw [← any_getElem? passes]
    exact h.before i (by omega)
  behind x hx := by
    obtain ⟨i, hi, rfl⟩ := List.mem_drop_iff_getElem.mp hx
    rw [← any_getElem? passes]
    exact h.behind (place + i) (by omega) (by omega)

theorem Divides.parts_turned {passes : α → Bool} {xs : List α} {place : Nat}
    (h : Divides (fun i => (xs[xs.length - 1 - i]?).any fun x => !passes x) xs.length place) :
    Parts passes xs (xs.length - place) where
  before x hx := by
    obtain ⟨i, hi, rfl⟩ := List.mem_take_iff_getElem.mp hx
    have hbehind := h.behind (xs.length - 1 - i) (by omega) (by omega)
    rw [any_getElem? _ (by omega)] at hbehind
    simpa [show xs.length - 1 - (xs.length - 1 - i) = i by omega] using hbehind
  behind x hx := by
    obtain ⟨i, hi, rfl⟩ := List.mem_drop_iff_getElem.mp hx
    have hbefore := h.before (xs.length - 1 - (xs.length - place + i)) (by omega)
    rw [any_getElem? _ (by omega)] at hbefore
    simpa [show xs.length - 1 - (xs.length - 1 - (xs.length - place + i))
      = xs.length - place + i by omega] using hbefore

theorem boundary_parts {passes : α → Bool} {xs : List α} (h : PassFirst passes xs) (near : Nat)
    (hnear : near < xs.length) :
    Parts passes xs (boundary (fun i => (xs[i]?).any passes) xs.length near) :=
  (boundary_divides h.inFront hnear).parts

theorem Direction.leading_parts (d : Direction α) {passes : α → Bool} {run : List α}
    (h : PassFirst passes run) (hne : run ≠ []) : Parts passes run (d.leading passes run) := by
  have hpos : 0 < run.length := List.length_pos_iff.mpr hne
  unfold leading
  dsimp only
  split_ifs
  · exact (boundary_divides h.inFront_turned (by omega)).parts_turned
  · exact boundary_parts h 0 hpos

/-! ## Runs -/

/-- In a list in order the items that an item is not below come first. -/
theorem Sorted.passFirst {xs : List α} (hbelow : Weak below) (h : Sorted below xs) (y : α) :
    PassFirst (fun x => !below y x) xs := by
  refine h.imp fun {x x'} hle hpass => ?_
  simp only [Bool.not_eq_true'] at hpass ⊢
  exact hbelow.trans hle hpass

/-- In a list in order the items that are below an item come first. -/
theorem Sorted.belowFirst {xs : List α} (hbelow : Weak below) (h : Sorted below xs) (y : α) :
    PassFirst (fun x => below x y) xs := by
  refine h.imp fun {x x'} hle hpass => ?_
  by_contra hx
  exact absurd hpass (ne_true_of_eq_false (hbelow.trans (eq_false_of_ne_true hx) hle))

theorem insertSorted_sorted (hbelow : Weak below) {run : List α} (h : Sorted below run) (x : α) :
    Sorted below (insertSorted below run x) := by
  unfold insertSorted
  dsimp only
  have hparts : Parts (fun y => !below x y) run
      (halve (fun i => (run[i]?).any fun y => !below x y) 0 run.length) :=
    (halve_divides (h.passFirst hbelow x).inFront (Nat.zero_le _) (Nat.le_refl _)
      (fun i hi => by omega) (fun i hi hn => by omega)).parts
  generalize halve (fun i => (run[i]?).any fun y => !below x y) 0 run.length = place at hparts ⊢
  have hwhole : Sorted below (run.take place ++ run.drop place) := by
    rwa [List.take_append_drop]
  obtain ⟨hfront, hback, hacross⟩ := sorted_append.mp hwhole
  have hbehind : ∀ y ∈ run.drop place, below y x = false := fun y hy =>
    hbelow.asymm (by simpa using hparts.behind y hy)
  refine sorted_append.mpr ⟨hfront, List.pairwise_cons.mpr ⟨hbehind, hback⟩, ?_⟩
  intro y hy z hz
  rcases List.mem_cons.mp hz with rfl | hz
  · simpa using hparts.before y hy
  · exact hacross y hy z hz

theorem ascending_sorted (hbelow : Weak below) (x : α) (xs : List α) :
    Sorted below (x :: xs.take (ascending below x xs)) := by
  induction xs generalizing x with
  | nil => exact List.pairwise_singleton _ x
  | cons y ys ih =>
      unfold ascending
      split_ifs with hxy
      · exact List.pairwise_singleton _ x
      · exact (ih y).cons_cons hbelow (eq_false_of_ne_true hxy)

theorem descending_sorted (hbelow : Weak below) (x : α) (xs : List α) :
    Sorted (fun x y => below y x) (x :: xs.take (descending below x xs)) := by
  induction xs generalizing x with
  | nil => exact List.pairwise_singleton _ x
  | cons y ys ih =>
      unfold descending
      split_ifs with hxy
      · exact (ih y).cons_cons hbelow.turned (hbelow.asymm hxy)
      · exact List.pairwise_singleton _ x

theorem leadingRun_sorted (hbelow : Weak below) (xs : List α) :
    Sorted below (leadingRun below xs) := by
  cases xs with
  | nil => exact .nil
  | cons x xs =>
      unfold leadingRun
      dsimp only
      split_ifs
      · exact (descending_sorted hbelow x xs).turned
      · exact ascending_sorted hbelow x xs

theorem cutRun_sorted (hbelow : Weak below) (least : Nat) (xs : List α) :
    Sorted below (cutRun below least xs).1 := by
  have hinserted : ∀ (ys run : List α), Sorted below run →
      Sorted below (ys.foldl (insertSorted below) run) := by
    intro ys
    induction ys with
    | nil => exact fun _ h => h
    | cons y ys ih => exact fun run h => ih _ (insertSorted_sorted hbelow h y)
  exact hinserted _ _ (leadingRun_sorted hbelow xs)

/-- A run is cut off a list that has items. -/
theorem cutRun_length_lt (below : α → α → Bool) (least : Nat) {xs : List α} (hne : xs ≠ []) :
    (cutRun below least xs).2.length < xs.length := by
  have hrun : 0 < (leadingRun below xs).length := by
    cases xs with
    | nil => exact absurd rfl hne
    | cons x xs =>
        unfold leadingRun
        dsimp only
        split_ifs
        · rw [List.length_reverse]
          exact Nat.succ_pos _
        · exact Nat.succ_pos _
  have hpos : 0 < xs.length := List.length_pos_iff.mpr hne
  unfold cutRun
  dsimp only
  rw [List.length_drop, List.length_drop]
  omega

end Likeness.Statistics
