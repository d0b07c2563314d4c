import Likeness.Proofs.HashCode.Equality

/-! # The order of members is of no account

    `Value.Reordered` relates a value to those that differ from it in the order of
    members and entries only, at any depth.  Such values are equated whatever numbers
    are taken for equal, and so they have the same codes, as far as these are there.  In
    another order another value may be the first that is refused, which makes no
    difference where all are refused for one reason.

    The main result is `append_reordered`. -/

namespace Likeness

/-! ## Values in another order -/

mutual

/-- One value is another with the members of its sets and the entries of its
    dictionaries in another order, at any depth.  Sequences and records keep theirs. -/
inductive Value.Reordered : Value → Value → Prop where
  | refl (v : Value) : Value.Reordered v v
  | list {xs ys : List Value} (h : Value.ReorderedAll xs ys) :
      Value.Reordered (.list xs) (.list ys)
  | tuple {xs ys : List Value} (h : Value.ReorderedAll xs ys) :
      Value.Reordered (.tuple xs) (.tuple ys)
  | set {frozen : Bool} {xs ys zs : List Value} (h : Value.ReorderedAll xs ys)
      (hperm : ys.Perm zs) : Value.Reordered (.set frozen xs) (.set frozen zs)
  | dict {es fs gs : List (Value × Value)} (h : Value.ReorderedEntries es fs)
      (hperm : fs.Perm gs) : Value.Reordered (.dict es) (.dict gs)
  | record {n : Nat} {fs gs : List (FieldInfo × Option Value)} (h : Value.ReorderedFields fs gs) :
      Value.Reordered (.record n fs) (.record n gs)
  | charRange {span : CharSpan} {v w : Value} (h : Value.Reordered v w) :
      Value.Reordered (.charRange span v) (.charRange span w)

/-- Values in one sequence are those of another, each reordered. -/
inductive Value.ReorderedAll : List Value → List Value → Prop where
  | nil : Value.ReorderedAll [] []
  | cons {x y : Value} {xs ys : List Value} (h : Value.Reordered x y)
      (hs : Value.ReorderedAll xs ys) : Value.ReorderedAll (x :: xs) (y :: ys)

/-- Entries are others, keys and values of each reordered. -/
inductive Value.ReorderedEntries : List (Value × Value) → List (Value × Value) → Prop where
  | nil : Value.ReorderedEntries [] []
  | cons {k l v w : Value} {es fs : List (Value × Value)} (hk : Value.Reordered k l)
      (hv : Value.Reordered v w) (hs : Value.ReorderedEntries es fs) :
      Value.ReorderedEntries ((k, v) :: es) ((l, w) :: fs)

/-- Fields are others, the value of each reordered, as far as there is one. -/
inductive Value.ReorderedFields :
    List (FieldInfo × Option Value) → List (FieldInfo × Option Value) → Prop where
  | nil : Value.ReorderedFields [] []
  | cons {f : FieldInfo} {v w : Value} {fs gs : List (FieldInfo × Option Value)}
      (h : Value.Reordered v w) (hs : Value.ReorderedFields fs gs) :
      Value.ReorderedFields ((f, some v) :: fs) ((f, some w) :: gs)
  | missing {f : FieldInfo} {fs gs : List (FieldInfo × Option Value)}
      (hs : Value.ReorderedFields fs gs) : Value.ReorderedFields ((f, none) :: fs) ((f, none) :: gs)

end

namespace HashCode

/-! ## Reordered values are equated -/

open Value (Equated EquatedAll EquatedEntries EquatedFields)

section Reordered

variable {numbers : Value → Value → Prop}

mutual

theorem equated_of_reordered {v w : Value} (h : v.Reordered w) : Equated numbers v w := by
  cases h with
  | refl => exact .same v
  | list h => exact .list (equatedAll_of_reordered h)
  | tuple h => exact .tuple (equatedAll_of_reordered h)
  | set h hperm => exact .set (equatedAll_of_reordered h) hperm
  | dict h hperm => exact .dict (equatedEntries_of_reordered h) hperm
  | record h => exact .record (equatedFields_of_reordered h)
  | charRange h => exact .charRange (equated_of_reordered h)
termination_by sizeOf v

theorem equatedAll_of_reordered {xs ys : List Value} (h : Value.ReorderedAll xs ys) :
    EquatedAll numbers xs ys := by
  cases h with
  | nil => exact .nil
  | cons h hs => exact .cons (equated_of_reordered h) (equatedAll_of_reordered hs)
termination_by sizeOf xs

theorem equatedEntries_of_reordered {es fs : List (Value × Value)}
    (h : Value.ReorderedEntries es fs) : EquatedEntries numbers es fs := by
  cases h with
  | nil => exact .nil
  | cons hk hv hs =>
      exact .cons (equated_of_reordered hk) (equated_of_reordered hv) (equatedEntries_of_reordered hs)
termination_by sizeOf es

theorem equatedFields_of_reordered {fs gs : List (FieldInfo × Option Value)}
    (h : Value.ReorderedFields fs gs) : EquatedFields numbers fs gs := by
  cases h with
  | nil => exact .nil
  | cons h hs => exact .compared (equated_of_reordered h) (equatedFields_of_reordered hs)
  | missing hs => exact .missing (equatedFields_of_reordered hs)
termination_by sizeOf fs

end

end Reordered

/-- Values in another order are appended as the same codes, as far as these are there: no
    number in them is another. -/
theorem codes_reordered {v w : Value} (h : v.Reordered w) : knownCodes v = knownCodes w := by
  have hequated : Equated (fun _ _ => False) v w := equated_of_reordered h
  exact codes_equated False.elim hequated

/-! ## What lacks no field lacks none in another order -/

mutual

theorem filled_of_reordered {v w : Value} (h : v.Reordered w) (hv : Filled v) : Filled w := by
  cases h with
  | refl => exact hv
  | list h => exact .of_parts (fun _ _ h => nomatch h) (filledAll_of_reordered h hv.parts)
  | tuple h => exact .of_parts (fun _ _ h => nomatch h) (filledAll_of_reordered h hv.parts)
  | set h hperm =>
      refine .of_parts (fun _ _ h => nomatch h) fun x hx => ?_
      exact filledAll_of_reordered h hv.parts x (hperm.mem_iff.mpr hx)
  | @dict es fs gs h hperm =>
      have hentries : ∀ f ∈ fs, Filled f.1 ∧ Filled f.2 :=
        filledEntries_of_reordered h fun e he =>
          ⟨hv.parts _ (Value.key_mem_parts he), hv.parts _ (Value.value_mem_parts he)⟩
      refine .of_parts (fun _ _ h => nomatch h) fun x hx => ?_
      rcases List.mem_append.mp hx with hx | hx
      · obtain ⟨g, hg, rfl⟩ := List.mem_map.mp hx
        exact (hentries g (hperm.mem_iff.mpr hg)).1
      · obtain ⟨g, hg, rfl⟩ := List.mem_map.mp hx
        exact (hentries g (hperm.mem_iff.mpr hg)).2
  | @record n fs gs h =>
      have hequated : EquatedFields (fun _ _ => False) fs gs := equatedFields_of_reordered h
      have hlacks : lacksField fs = lacksField gs := lacksField_equated hequated
      refine .of_parts ?_ (filledFields_of_reordered h hv.parts)
      intro _ _ hrecord
      cases hrecord
      exact hlacks.symm.trans hv.not_lacks
  | charRange h =>
      refine .of_parts (fun _ _ h => nomatch h) (List.forall_mem_singleton.mpr ?_)
      exact filled_of_reordered h (hv.parts _ List.mem_cons_self)
termination_by sizeOf v

theorem filledAll_of_reordered {xs ys : List Value} (h : Value.ReorderedAll xs ys)
    (hxs : ∀ x ∈ xs, Filled x) : ∀ y ∈ ys, Filled y := by
  cases h with
  | nil => exact hxs
  | cons h hs =>
      obtain ⟨hx, hxs⟩ := List.forall_mem_cons.mp hxs
      exact List.forall_mem_cons.mpr ⟨filled_of_reordered h hx, filledAll_of_reordered hs hxs⟩
termination_by sizeOf xs

theorem filledEntries_of_reordered {es fs : List (Value × Value)}
    (h : Value.ReorderedEntries es fs) (hes : ∀ e ∈ es, Filled e.1 ∧ Filled e.2) :
    ∀ f ∈ fs, Filled f.1 ∧ Filled f.2 := by
  cases h with
  | nil => exact hes
  | cons hk hv hs =>
      obtain ⟨⟨hkey, hvalue⟩, hes⟩ := List.forall_mem_cons.mp hes
      exact List.forall_mem_cons.mpr ⟨⟨filled_of_reordered hk hkey, filled_of_reordered hv hvalue⟩,
        filledEntries_of_reordered hs hes⟩
termination_by sizeOf es

theorem filledFields_of_reordered {fs gs : List (FieldInfo × Option Value)}
    (h : Value.ReorderedFields fs gs) (hfs : ∀ x ∈ fs.filterMap (·.2), Filled x) :
    ∀ y ∈ gs.filterMap (·.2), Filled y := by
  cases h with
  | nil => exact hfs
  | cons h hs =>
      obtain ⟨hx, hfs⟩ := List.forall_mem_cons.mp hfs
      exact List.forall_mem_cons.mpr ⟨filled_of_reordered h hx, filledFields_of_reordered hs hfs⟩
  | missing hs =>
      have hrest := filledFields_of_reordered hs hfs
      exact hrest
termination_by sizeOf fs

end

/-- **THE ORDER OF MEMBERS IS OF NO ACCOUNT**: a value and the same in another order are
    appended, to any total and with any multiplier, with one total as the outcome.  Both are
    appended to the end, or both stop; and they stop for one reason, unless an instance among
    them lacks a field that it is hashed by, so that there is more than one. -/
theorem append_reordered {v w : Value} (h : v.Reordered w) (m t : Int) :
    (append m v t).mapError Stopped.total = (append m w t).mapError Stopped.total ∧
      (Filled v → append m v t = append m w t) := by
  have hcodes := codes_reordered h
  rw [append_eq_fold, append_eq_fold]
  refine ⟨fold_congr m hcodes t, fun hv => ?_⟩
  have hw := filled_of_reordered h hv
  rw [eq_of_one_fault hcodes (fun _ => fault_of_mem_codes v hv) fun _ => fault_of_mem_codes w hw]

/-- The entries of a dictionary change places, and so do the members of a set in one of
    them.  In another dictionary, one value lacks a field and one cannot be hashed, and which
    comes first decides why it is refused. -/
theorem append_reordered_nested :
    let v : Value := .list [.dict [(.int 1, .set false [.int 2, .null]), (.null, .bool true)]]
    let w : Value := .list [.dict [(.null, .bool true), (.int 1, .set false [.null, .int 2])]]
    let lacking : Value := .record 0 [(⟨"x", true, none⟩, none)]
    let first : Value := .list [.int 5, .dict [(.int 1, lacking), (.int 2, .unhashable)]]
    let second : Value := .list [.int 5, .dict [(.int 2, .unhashable), (.int 1, lacking)]]
    (v.Reordered w ∧ append 37 v 17 = append 37 w 17) ∧ first.Reordered second ∧
      (append 37 first 17).mapError Stopped.total = (append 37 second 17).mapError Stopped.total := by
  intro v w lacking first second
  have hset : Value.Reordered (.set false [.int 2, .null]) (.set false [.null, .int 2]) :=
    .set (.cons (.refl _) (.cons (.refl _) .nil)) (.swap _ _ _)
  have hentries : Value.ReorderedEntries
      [(.int 1, .set false [.int 2, .null]), (.null, .bool true)]
      [(.int 1, .set false [.null, .int 2]), (.null, .bool true)] :=
    .cons (.refl _) hset (.cons (.refl _) (.refl _) .nil)
  have h : v.Reordered w := .list (.cons (.dict hentries (.swap _ _ _)) .nil)
  have hfilled : Filled v := by
    have hmembers : Filled (.set false [.int 2, .null]) := by
      refine .of_parts (fun _ _ h => nomatch h) ?_
      exact List.forall_mem_cons.mpr ⟨.of_not_compound rfl,
        List.forall_mem_singleton.mpr (.of_not_compound rfl)⟩
    refine .of_parts (fun _ _ h => nomatch h) (List.forall_mem_singleton.mpr ?_)
    refine .of_parts (fun _ _ h => nomatch h) (List.forall_mem_cons.mpr ⟨.of_not_compound rfl, ?_⟩)
    exact List.forall_mem_cons.mpr ⟨.of_not_compound rfl, List.forall_mem_cons.mpr
      ⟨hmembers, List.forall_mem_singleton.mpr (.of_not_compound rfl)⟩⟩
  have hother : first.Reordered second :=
    .list (.cons (.refl _) (.cons (.dict (.cons (.refl _) (.refl _)
      (.cons (.refl _) (.refl _) .nil)) (.swap _ _ _)) .nil))
  exact ⟨⟨h, (append_reordered h 37 17).2 hfilled⟩, hother, (append_reordered hother 37 17).1⟩

end HashCode

end Likeness
