import Likeness.Proofs.Edit.Script
import Mathlib.Algebra.Order.Group.Abs
import Mathlib.Algebra.Order.Ring.Int
import Mathlib.Data.List.Forall2

/-! # The distance is a metric

    A script from one sequence to a second and a script from there to a third make one
    script that costs no more than both.  Where the second script inserts, it inserts,
    and where the first one deletes, it deletes; otherwise both touch an item in the
    middle, which is left out (`Script.exists_compose`).  Items that are kept twice have
    to be kept, so the test of items has to be transitive.

    The main results are `distance_triangle` and `distance_eq_zero_iff`. -/

namespace Likeness.Edit

variable {α : Type} {same : α → α → Bool} {xs ys zs : List α}

/-! ## Scripts by way of a third sequence -/

/-- **TWO SCRIPTS MAKE ONE**: what turns one sequence into a second, and that into a third,
    turns the first into the third at no higher cost. -/
theorem Script.exists_compose {xs ys zs : List α} (s : Script same xs ys)
    (t : Script same ys zs)
    (htrans : ∀ x ∈ xs, ∀ y ∈ ys, ∀ z ∈ zs, same x y = true → same y z = true →
      same x z = true) :
    ∃ u : Script same xs zs, u.cost ≤ s.cost + t.cost := by
  match s, t with
  | s, .done => exact ⟨s, Nat.le_add_right _ _⟩
  | s, .insert z t =>
      obtain ⟨u, hu⟩ := exists_compose s t
        fun x hx y hy w hw => htrans x hx y hy w (.tail _ hw)
      exact ⟨.insert z u, Nat.succ_le_succ hu⟩
  | .delete x s, t =>
      obtain ⟨u, hu⟩ := exists_compose s t fun w hw => htrans w (.tail _ hw)
      refine ⟨.delete x u, ?_⟩
      simp only [cost]
      omega
  -- From here on both scripts touch the first item in the middle.
  | .insert y s, .delete _ t =>
      obtain ⟨u, hu⟩ := exists_compose s t fun x hx w hw => htrans x hx w (.tail _ hw)
      refine ⟨u, ?_⟩
      simp only [cost]
      omega
  | .insert _ s, .replace _ z t
  | .insert _ s, .keep (y := z) _ t =>
      obtain ⟨u, hu⟩ := exists_compose s t
        fun x hx w hw v hv => htrans x hx w (.tail _ hw) v (.tail _ hv)
      refine ⟨.insert z u, ?_⟩
      simp only [cost]
      omega
  | .replace x _ s, .delete _ t
  | .keep (x := x) _ s, .delete _ t =>
      obtain ⟨u, hu⟩ := exists_compose s t
        fun v hv w hw => htrans v (.tail _ hv) w (.tail _ hw)
      refine ⟨.delete x u, ?_⟩
      simp only [cost]
      omega
  | .replace x _ s, .replace _ z t
  | .replace x _ s, .keep (y := z) _ t
  | .keep (x := x) _ s, .replace _ z t =>
      obtain ⟨u, hu⟩ := exists_compose s t
        fun v hv w hw r hr => htrans v (.tail _ hv) w (.tail _ hw) r (.tail _ hr)
      refine ⟨.replace x z u, ?_⟩
      simp only [cost]
      omega
  | .keep hxy s, .keep hyz t =>
      obtain ⟨u, hu⟩ := exists_compose s t
        fun v hv w hw r hr => htrans v (.tail _ hv) w (.tail _ hw) r (.tail _ hr)
      exact ⟨.keep (htrans _ (.head _) _ (.head _) _ (.head _) hxy hyz) u, hu⟩
termination_by sizeOf s + sizeOf t

/-! ## Scripts that cost nothing -/

/-- A script that costs nothing keeps each item in the place of its partner. -/
theorem Script.forall₂_of_cost_eq_zero (s : Script same xs ys) (h : s.cost = 0) :
    xs.Forall₂ (fun x y => same x y = true) ys := by
  induction s with
  | done => exact .nil
  | insert y rest ih => exact absurd h (Nat.succ_ne_zero rest.cost)
  | delete x rest ih => exact absurd h (Nat.succ_ne_zero rest.cost)
  | replace x y rest ih => exact absurd h (Nat.succ_ne_zero rest.cost)
  | keep hxy rest ih => exact .cons hxy (ih h)

/-- Sequences that are equal item by item are turned into each other for nothing. -/
theorem reaches_of_forall₂ (h : xs.Forall₂ (fun x y => same x y = true) ys) :
    Reaches same xs ys 0 := by
  induction h with
  | nil => exact ⟨.done, rfl⟩
  | cons hxy _ ih =>
      obtain ⟨s, hs⟩ := ih
      exact ⟨.keep hxy s, hs⟩

/-! ## The distance -/

section Distance

variable (hsym : ∀ x ∈ xs, ∀ y ∈ ys, same x y = same y x)
include hsym

/-- With a symmetric test it makes no difference which item is asked. -/
theorem distance_isLeast_of_symm :
    IsLeast (Set.range (Script.cost : Script same xs ys → Nat)) (distance same xs ys) := by
  rw [distance_eq_gap hsym]
  exact gap_isLeast same xs ys

/-- **ONLY EQUAL SEQUENCES HAVE NO DISTANCE** from each other. -/
theorem distance_eq_zero_iff :
    distance same xs ys = 0 ↔ xs.Forall₂ (fun x y => same x y = true) ys := by
  obtain ⟨⟨s, hs⟩, hleast⟩ := distance_isLeast_of_symm hsym
  constructor
  · intro hzero
    exact s.forall₂_of_cost_eq_zero (hs.trans hzero)
  · intro hequal
    exact Nat.eq_zero_of_le_zero (hleast (reaches_of_forall₂ hequal))

/-- Each insertion and each deletion makes up for one item of the difference in length. -/
theorem abs_length_sub_le_distance :
    |(xs.length : Int) - ys.length| ≤ distance same xs ys := by
  rw [distance_eq_gap hsym, abs_sub_le_iff]
  have hlengths := le_gap_add (differ same xs ys) xs.length ys.length
  omega

/-- **THE TRIANGLE INEQUALITY**: a way round is not shorter. -/
theorem distance_triangle (hsym' : ∀ y ∈ ys, ∀ z ∈ zs, same y z = same z y)
    (hsym'' : ∀ x ∈ xs, ∀ z ∈ zs, same x z = same z x)
    (htrans : ∀ x ∈ xs, ∀ y ∈ ys, ∀ z ∈ zs, same x y = true → same y z = true →
      same x z = true) :
    distance same xs zs ≤ distance same xs ys + distance same ys zs := by
  obtain ⟨s, hs⟩ := (distance_isLeast_of_symm hsym).1
  obtain ⟨t, ht⟩ := (distance_isLeast_of_symm hsym').1
  obtain ⟨u, hu⟩ := s.exists_compose t htrans
  calc distance same xs zs ≤ u.cost := (distance_isLeast_of_symm hsym'').2 ⟨u, rfl⟩
    _ ≤ s.cost + t.cost := hu
    _ = distance same xs ys + distance same ys zs := by rw [hs, ht]

end Distance

end Likeness.Edit
