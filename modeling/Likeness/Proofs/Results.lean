import Mathlib.Data.List.Forall2

/-! # Lists of results

    Going through a list with a function that may fail gives the list of its
    results, or the first fault that is met. -/

namespace Likeness

variable {α β ε : Type} {f : α → Except ε β}

/-- Two steps have a result when both of them have. -/
theorem bind_eq_ok {x : Except ε α} {g : α → Except ε β} {b : β} (h : x >>= g = .ok b) :
    ∃ a, x = .ok a ∧ g a = .ok b := by
  cases x with
  | error e => exact nomatch h
  | ok a => exact ⟨a, rfl, h⟩

/-- Two steps have no result when one of them has none. -/
theorem bind_eq_error {x : Except ε α} {g : α → Except ε β} {e : ε} (h : x >>= g = .error e) :
    x = .error e ∨ ∃ a, x = .ok a ∧ g a = .error e := by
  cases x with
  | error e' => exact .inl (congrArg Except.error (Except.error.inj h))
  | ok a => exact .inr ⟨a, rfl, h⟩

/-- Whichever of two first steps is taken, the second one has a result. -/
theorem ite_bind_eq_ok {p : Prop} [Decidable p] {x y : Except ε α} {g : α → Except ε β} {b : β}
    (h : (if p then x >>= g else y >>= g) = .ok b) : ∃ a, g a = .ok b := by
  split_ifs at h
  · obtain ⟨a, -, ha⟩ := bind_eq_ok h
    exact ⟨a, ha⟩
  · obtain ⟨a, -, ha⟩ := bind_eq_ok h
    exact ⟨a, ha⟩

theorem bind_of_eq_ok {x : Except ε α} {g : α → Except ε β} {a : α} (h : x = .ok a) :
    x >>= g = g a := by
  rw [h]
  rfl

theorem ite_bind_of_eq_ok {p : Prop} [Decidable p] {x y : Except ε α} {g : α → Except ε β} {a : α}
    (h : (if p then x else y) = .ok a) : (if p then x >>= g else y >>= g) = g a := by
  split_ifs at h ⊢
  · exact bind_of_eq_ok h
  · exact bind_of_eq_ok h

theorem map_eq_ok {x : Except ε α} {g : α → β} {b : β} (h : x.map g = .ok b) :
    ∃ a, x = .ok a ∧ g a = b := by
  cases x with
  | error e => exact nomatch h
  | ok a => exact ⟨a, rfl, Except.ok.inj h⟩

theorem map_eq_error {x : Except ε α} {g : α → β} {e : ε} (h : x.map g = .error e) :
    x = .error e := by
  cases x with
  | error e' => exact congrArg Except.error (Except.error.inj h)
  | ok a => exact nomatch h

theorem mapError_eq_ok {ε' : Type} {x : Except ε α} {g : ε → ε'} {a : α}
    (h : x.mapError g = .ok a) : x = .ok a := by
  cases x with
  | error e => exact nomatch h
  | ok b => exact congrArg Except.ok (Except.ok.inj h)

theorem mapError_eq_error {ε' : Type} {x : Except ε α} {g : ε → ε'} {e : ε'}
    (h : x.mapError g = .error e) : ∃ e', x = .error e' ∧ g e' = e := by
  cases x with
  | error e' => exact ⟨e', rfl, Except.error.inj h⟩
  | ok a => exact nomatch h

/-- A result that passes a test is there. -/
theorem exists_ok_of_any {x : Except ε α} {p : α → Bool} (h : x.toOption.any p = true) :
    ∃ a, x = .ok a ∧ p a = true := by
  cases x with
  | error e => exact nomatch h
  | ok a => exact ⟨a, rfl, h⟩

theorem mapM_cons_ok {x : α} {y : β} (xs : List α) (h : f x = .ok y) :
    (x :: xs).mapM f = (xs.mapM f).map (y :: ·) := by
  rw [List.mapM_cons, h]
  cases xs.mapM f with
  | error e => rfl
  | ok ys => rfl

/-- The results of two items. -/
theorem mapM_two {x₁ x₂ : α} {y₁ y₂ : β} (h₁ : f x₁ = .ok y₁) (h₂ : f x₂ = .ok y₂) :
    [x₁, x₂].mapM f = .ok [y₁, y₂] := by
  rw [mapM_cons_ok _ h₁, mapM_cons_ok _ h₂]
  rfl

theorem mapM_cons_error {x : α} {e : ε} (xs : List α) (h : f x = .error e) :
    (x :: xs).mapM f = .error e := by
  rw [List.mapM_cons, h]
  rfl

/-- A list of results begins with the result of the first item. -/
theorem mapM_cons_eq_ok {x : α} {xs : List α} {ys : List β} (h : (x :: xs).mapM f = .ok ys) :
    ∃ y zs, f x = .ok y ∧ xs.mapM f = .ok zs ∧ ys = y :: zs := by
  cases hx : f x with
  | error e =>
      rw [mapM_cons_error xs hx] at h
      exact nomatch h
  | ok y =>
      rw [mapM_cons_ok xs hx] at h
      cases hxs : xs.mapM f with
      | error e =>
          rw [hxs] at h
          exact nomatch h
      | ok zs =>
          rw [hxs] at h
          exact ⟨y, zs, rfl, rfl, (Except.ok.inj h).symm⟩

theorem mapM_congr {g : α → Except ε β} {xs : List α} (h : ∀ x ∈ xs, f x = g x) :
    xs.mapM f = xs.mapM g := by
  induction xs with
  | nil => rfl
  | cons x xs ih =>
      rw [List.mapM_cons, List.mapM_cons, h x List.mem_cons_self,
        ih (fun y hy => h y (List.mem_cons_of_mem _ hy))]

/-- Results that are known for every item. -/
theorem mapM_ok {g : α → β} {xs : List α} (h : ∀ x ∈ xs, f x = .ok (g x)) :
    xs.mapM f = .ok (xs.map g) := by
  induction xs with
  | nil => rfl
  | cons x xs ih =>
      rw [mapM_cons_ok xs (h x List.mem_cons_self), ih fun y hy => h y (List.mem_cons_of_mem _ hy)]
      rfl

/-- Results that can only be one each. -/
theorem eq_map_of_mapM {g : α → β} {xs : List α} {ys : List β} (hys : xs.mapM f = .ok ys)
    (h : ∀ x y, f x = .ok y → y = g x) : ys = xs.map g := by
  induction xs generalizing ys with
  | nil =>
      cases hys
      rfl
  | cons x xs ih =>
      obtain ⟨y, zs, hy, hzs, rfl⟩ := mapM_cons_eq_ok hys
      rw [h x y hy, ih hzs]
      rfl

/-- A result in a list is the result of an item. -/
theorem mem_of_mapM {xs : List α} {ys : List β} (hys : xs.mapM f = .ok ys) {y : β}
    (hy : y ∈ ys) : ∃ x ∈ xs, f x = .ok y := by
  induction xs generalizing ys with
  | nil =>
      cases hys
      exact nomatch hy
  | cons x xs ih =>
      obtain ⟨z, zs, hz, hzs, rfl⟩ := mapM_cons_eq_ok hys
      rcases List.mem_cons.mp hy with rfl | hy
      · exact ⟨x, List.mem_cons_self, hz⟩
      · obtain ⟨w, hw, hfw⟩ := ih hzs hy
        exact ⟨w, List.mem_cons_of_mem x hw, hfw⟩

/-- An item with a fault leaves the list without results: it has the fault of that item, or
    that of one before it. -/
theorem mapM_eq_error {xs : List α} {i : Nat} {x : α} {e : ε} (hx : xs[i]? = some x)
    (he : f x = .error e) :
    ∃ j ≤ i, ∃ y e', xs[j]? = some y ∧ f y = .error e' ∧ xs.mapM f = .error e' := by
  induction xs generalizing i with
  | nil => exact nomatch hx
  | cons first rest ih =>
      cases hfirst : f first with
      | error e' => exact ⟨0, Nat.zero_le i, first, e', rfl, hfirst, mapM_cons_error rest hfirst⟩
      | ok y =>
          cases i with
          | zero =>
              cases hx
              exact nomatch hfirst.symm.trans he
          | succ i =>
              obtain ⟨j, hj, z, e', hz, he', hrest⟩ := ih hx
              refine ⟨j + 1, Nat.succ_le_succ hj, z, e', hz, he', ?_⟩
              rw [mapM_cons_ok rest hfirst, hrest]
              rfl

/-- A list has no results because one of its items has none. -/
theorem exists_of_mapM_error {xs : List α} {e : ε} (h : xs.mapM f = .error e) :
    ∃ x ∈ xs, f x = .error e := by
  induction xs with
  | nil => exact nomatch h
  | cons x xs ih =>
      cases hx : f x with
      | error e' =>
          rw [mapM_cons_error xs hx] at h
          exact ⟨x, List.mem_cons_self, hx.trans (congrArg Except.error (Except.error.inj h))⟩
      | ok y =>
          rw [mapM_cons_ok xs hx] at h
          obtain ⟨z, hz, hfz⟩ := ih (map_eq_error h)
          exact ⟨z, List.mem_cons_of_mem x hz, hfz⟩

/-- When every item has a result, so has the list. -/
theorem mapM_total {P : α → β → Prop} {xs : List α} (h : ∀ x ∈ xs, ∃ y, f x = .ok y ∧ P x y) :
    ∃ ys, xs.mapM f = .ok ys ∧ List.Forall₂ P xs ys := by
  induction xs with
  | nil => exact ⟨[], rfl, List.Forall₂.nil⟩
  | cons x xs ih =>
      obtain ⟨y, hy, hP⟩ := h x List.mem_cons_self
      obtain ⟨ys, hys, hall⟩ := ih (fun z hz => h z (List.mem_cons_of_mem _ hz))
      refine ⟨y :: ys, ?_, List.Forall₂.cons hP hall⟩
      rw [mapM_cons_ok xs hy, hys]
      rfl

theorem exists_mapM {xs : List α} (h : ∀ x ∈ xs, ∃ y, f x = .ok y) :
    ∃ ys, xs.mapM f = .ok ys := by
  obtain ⟨ys, hys, -⟩ := mapM_total (P := fun _ _ => True)
    fun x hx => (h x hx).imp fun y hy => ⟨hy, trivial⟩
  exact ⟨ys, hys⟩

/-- What every result of an item has, every result in the list has. -/
theorem exists_mapM_forall {P : β → Prop} {xs : List α} (h : ∀ x ∈ xs, ∃ y, f x = .ok y ∧ P y) :
    ∃ ys, xs.mapM f = .ok ys ∧ ∀ y ∈ ys, P y := by
  obtain ⟨ys, hys⟩ := exists_mapM fun x hx => (h x hx).imp fun y hy => hy.1
  refine ⟨ys, hys, ?_⟩
  intro y hy
  obtain ⟨x, hx, hfound⟩ := mem_of_mapM hys hy
  obtain ⟨z, hz, hP⟩ := h x hx
  rwa [Except.ok.inj (hfound.symm.trans hz)]

/-- Where results were found for every item, each stands at the place of its item. -/
theorem getElem?_of_forall₂ {α β : Type} {P : α → β → Prop} {xs : List α} {ys : List β}
    (h : List.Forall₂ P xs ys) {i : Nat} (hi : i < xs.length) :
    ∃ y, ys[i]? = some y ∧ P xs[i] y := by
  have hlen : i < ys.length := h.length_eq ▸ hi
  exact ⟨ys[i], List.getElem?_eq_getElem hlen, List.Forall₂.get h hi hlen⟩

/-- What was found was found for one of the items. -/
theorem exists_of_forall₂ {α β : Type} {P : α → β → Prop} {xs : List α} {ys : List β}
    (h : List.Forall₂ P xs ys) {y : β} (hy : y ∈ ys) : ∃ x ∈ xs, P x y := by
  obtain ⟨i, hi, rfl⟩ := List.mem_iff_getElem.mp hy
  have hlen : i < xs.length := h.length_eq ▸ hi
  exact ⟨xs[i], List.getElem_mem hlen, h.get hlen hi⟩

/-- Where results were found for items by their places, each stands at its place. -/
theorem exists_mapM_zipIdx {α β : Type} {f : Nat → α → Except ε β} {P : Nat → α → β → Prop}
    {xs : List α} {place : Nat} (h : ∀ x ∈ xs, ∀ i, ∃ y, f i x = .ok y ∧ P i x y) :
    ∃ ys, ((xs.zipIdx place).mapM fun x => f x.2 x.1) = .ok ys ∧ ys.length = xs.length ∧
      ∀ (i : Nat) y, ys[i]? = some y → ∃ x, xs[i]? = some x ∧ P (place + i) x y := by
  have htotal : ∀ x ∈ xs.zipIdx place, ∃ y, f x.2 x.1 = .ok y ∧ P x.2 x.1 y :=
    fun x hx => h x.1 (List.fst_mem_of_mem_zipIdx hx) x.2
  obtain ⟨ys, hys, hall⟩ := mapM_total htotal
  have hlength : ys.length = xs.length := by rw [← hall.length_eq, List.length_zipIdx]
  refine ⟨ys, hys, hlength, fun i y hi => ?_⟩
  obtain ⟨hlt, rfl⟩ := List.getElem?_eq_some_iff.mp hi
  have hx : i < xs.length := hlength ▸ hlt
  have hplaced := hall.get (by rwa [List.length_zipIdx]) hlt
  simp only [List.get_eq_getElem, List.getElem_zipIdx] at hplaced
  exact ⟨xs[i], List.getElem?_eq_getElem hx, hplaced⟩

/-- Putting a result in front of every list of results is putting the list of these
    results in front, column by column. -/
theorem mapM_front {g : α → Except ε (List β)} {h : α → Except ε (List β)}
    (hstep : ∀ x y, f x = .ok y → h x = (g x).map (y :: ·)) :
    ∀ {xs : List α} {ys : List β}, xs.mapM f = .ok ys →
      xs.mapM h = (xs.mapM g).map fun rows => (ys.zip rows).map fun p => p.1 :: p.2 := by
  intro xs
  induction xs with
  | nil =>
      intro ys hys
      cases hys
      rfl
  | cons x xs ih =>
      intro ys hys
      obtain ⟨y, zs, hy, hzs, rfl⟩ := mapM_cons_eq_ok hys
      cases hg : g x with
      | error e =>
          have hx : h x = .error e := by
            rw [hstep x y hy, hg]
            rfl
          rw [mapM_cons_error xs hx, mapM_cons_error xs hg]
          rfl
      | ok row =>
          have hx : h x = .ok (y :: row) := by
            rw [hstep x y hy, hg]
            rfl
          rw [mapM_cons_ok xs hx, mapM_cons_ok xs hg, ih hzs]
          cases xs.mapM g with
          | error e => rfl
          | ok rows => rfl

end Likeness
