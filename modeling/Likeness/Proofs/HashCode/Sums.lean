import Likeness.Proofs.HashCode.Codes
import Likeness.Proofs.Results
import Likeness.Proofs.Value.Equality

/-! # Sums of codes

    Sets and dictionaries add up the codes of their members, and a sum does not
    depend on the order of its terms (`sumCodes_perm`).  Neither does its failing, but
    for the reason: the first term that is missing gives it.  So codes are compared as
    far as they are there (`knownCodes`), and two appendings that agree in these leave
    one total, whether they stop or not (`fold_congr`).

    Where every record has all fields that it is hashed by, there is one reason only
    (`fault_of_mem_codes`). -/

namespace Likeness.HashCode

/-! ## Codes of their own -/

/-- The code of something that is appended, as some codes, to a total that is started
    for it. -/
def codeFrom (t : Int) (cs : List (Except Fault Int)) : Except Fault Int :=
  alone (fold defaultMultiplier cs t)

theorem alone_append (v : Value) (t : Int) :
    alone (append defaultMultiplier v t) = codeFrom t (codes v) := by
  rw [append_eq_fold]
  rfl

/-- The code of a member of a set. -/
def memberCode (x : Value) : Except Fault Int :=
  codeFrom defaultInitial (codes x)

/-- The code of an entry of a dictionary. -/
def entryCode (e : Value × Value) : Except Fault Int :=
  codeFrom defaultInitial (codes e.1 ++ codes e.2)

/-- The sum of codes, up to the first that is missing. -/
def sumCodes : List (Except Fault Int) → Except Fault Int
  | [] => .ok 0
  | .error e :: _ => .error e
  | .ok code :: cs => (sumCodes cs).map (code + ·)

theorem sumCodes_alone (r : Except Stopped Int) (cs : List (Except Fault Int)) :
    sumCodes (alone r :: cs) =
      match r with
      | .error s => .error s.fault
      | .ok code => (sumCodes cs).map (code + ·) := by
  cases r with
  | ok code => rfl
  | error s => rfl

theorem sumMembers_eq (xs : List Value) : sumMembers xs = sumCodes (xs.map memberCode) := by
  induction xs with
  | nil => rfl
  | cons x xs ih =>
      rw [List.map_cons, memberCode, codeFrom, sumCodes_alone, ← append_eq_fold, ← ih]
      rfl

theorem sumEntries_eq (es : List (Value × Value)) :
    sumEntries es = sumCodes (es.map entryCode) := by
  induction es with
  | nil => rfl
  | cons e es ih =>
      obtain ⟨k, v⟩ := e
      rw [sumEntries, List.map_cons, entryCode, codeFrom, sumCodes_alone, fold_append, ih]
      simp only [append_eq_fold]
      cases fold defaultMultiplier (codes k) defaultInitial with
      | ok t => rfl
      | error s => rfl

theorem recordCode_eq (fs : List (FieldInfo × Option Value)) :
    alone (appendFields defaultMultiplier fs defaultInitial)
      = codeFrom defaultInitial (codesOfAll (hashedFields fs)) := by
  rw [appendFields_eq_appendAll, appendAll_eq_fold]
  rfl

/-! ## Codes that are there -/

/-- The codes of a value as far as they are there. -/
def knownCodes (v : Value) : List (Option Int) := (codes v).map Except.toOption

theorem known_codesOfAll (xs : List Value) :
    (codesOfAll xs).map Except.toOption = (xs.map knownCodes).flatten := by
  rw [codesOfAll_eq_flatten, List.map_flatten, List.map_map]
  rfl

/-- Codes that agree as far as they are there leave one total, whether they are folded to the
    end or not. -/
theorem fold_congr (m : Int) {cs ds : List (Except Fault Int)}
    (h : cs.map Except.toOption = ds.map Except.toOption) (t : Int) :
    (fold m cs t).mapError Stopped.total = (fold m ds t).mapError Stopped.total := by
  induction cs generalizing ds t with
  | nil =>
      obtain rfl := List.map_eq_nil_iff.mp h.symm
      rfl
  | cons c cs ih =>
      obtain ⟨d, ds, rfl, hhead, htail⟩ := List.map_eq_cons_iff.mp h.symm
      cases c with
      | error e =>
          cases d with
          | error e' => rfl
          | ok code => exact nomatch hhead
      | ok code =>
          cases d with
          | error e' => exact nomatch hhead
          | ok code' =>
              obtain rfl := Option.some.inj hhead
              exact ih htail.symm (step m t code')

theorem toOption_alone (r : Except Stopped Int) :
    (alone r).toOption = (r.mapError Stopped.total).toOption := by
  cases r with
  | ok total => rfl
  | error s => rfl

theorem codeFrom_congr (t : Int) {cs ds : List (Except Fault Int)}
    (h : cs.map Except.toOption = ds.map Except.toOption) :
    (codeFrom t cs).toOption = (codeFrom t ds).toOption := by
  rw [codeFrom, codeFrom, toOption_alone, toOption_alone, fold_congr _ h]

theorem memberCode_congr {x y : Value} (h : knownCodes x = knownCodes y) :
    (memberCode x).toOption = (memberCode y).toOption :=
  codeFrom_congr _ h

theorem entryCode_congr {e f : Value × Value} (hkey : knownCodes e.1 = knownCodes f.1)
    (hvalue : knownCodes e.2 = knownCodes f.2) :
    (entryCode e).toOption = (entryCode f).toOption := by
  refine codeFrom_congr _ ?_
  rw [List.map_append, List.map_append]
  exact congrArg₂ (· ++ ·) hkey hvalue

theorem toOption_map (c : Except Fault Int) (f : Int → Int) :
    (c.map f).toOption = c.toOption.map f := by
  cases c with
  | ok code => rfl
  | error e => rfl

theorem sumCodes_cons (c : Except Fault Int) (cs : List (Except Fault Int)) :
    (sumCodes (c :: cs)).toOption
      = c.toOption.bind fun code => (sumCodes cs).toOption.map (code + ·) := by
  cases c with
  | ok code => exact toOption_map _ _
  | error e => rfl

/-- A sum of codes does not depend on their order, and on the codes only as far as they are
    there. -/
theorem sumCodes_congr {cs ds : List (Except Fault Int)}
    (h : cs.map Except.toOption = ds.map Except.toOption) :
    (sumCodes cs).toOption = (sumCodes ds).toOption := by
  induction cs generalizing ds with
  | nil =>
      obtain rfl := List.map_eq_nil_iff.mp h.symm
      rfl
  | cons c cs ih =>
      obtain ⟨d, ds, rfl, hhead, htail⟩ := List.map_eq_cons_iff.mp h.symm
      rw [sumCodes_cons, sumCodes_cons, hhead, ih htail.symm]

@[inherit_doc sumCodes_congr]
theorem sumCodes_perm {cs ds : List (Except Fault Int)} (hperm : cs.Perm ds) :
    (sumCodes cs).toOption = (sumCodes ds).toOption := by
  induction hperm with
  | nil => rfl
  | cons c _ ih => rw [sumCodes_cons, sumCodes_cons, ih]
  | swap c d cs =>
      simp only [sumCodes_cons]
      cases c.toOption with
      | none => cases d.toOption <;> rfl
      | some m =>
          cases d.toOption with
          | none => rfl
          | some n =>
              cases (sumCodes cs).toOption with
              | none => rfl
              | some k => exact congrArg some (Int.add_left_comm n m k)
  | trans _ _ ih ih' => exact ih.trans ih'

/-! ## One reason to refuse -/

theorem mem_of_codeFrom {t : Int} {cs : List (Except Fault Int)} {e : Fault}
    (h : codeFrom t cs = .error e) : .error e ∈ cs := by
  induction cs generalizing t with
  | nil => exact nomatch h
  | cons c cs ih =>
      cases c with
      | ok code => exact List.mem_cons_of_mem _ (ih (t := step defaultMultiplier t code) h)
      | error e' =>
          cases h
          exact List.mem_cons_self

theorem mem_of_sumCodes {cs : List (Except Fault Int)} {e : Fault} (h : sumCodes cs = .error e) :
    .error e ∈ cs := by
  induction cs with
  | nil => exact nomatch h
  | cons c cs ih =>
      cases c with
      | ok code => exact List.mem_cons_of_mem _ (ih (map_eq_error h))
      | error e' =>
          cases h
          exact List.mem_cons_self

theorem not_mem_ok {e : Fault} {vs : List Int} : Except.error e ∉ vs.map Except.ok := by
  intro h
  obtain ⟨v, -, hv⟩ := List.mem_map.mp h
  exact nomatch hv

/-- What is missing from the codes of members is missing from the codes of their items. -/
theorem mem_codesOfAll_of_member {xs : List Value} {e : Fault}
    (h : .error e ∈ xs.map memberCode) : .error e ∈ codesOfAll xs := by
  induction xs with
  | nil => exact nomatch h
  | cons x xs ih =>
      rw [codesOfAll, List.mem_append]
      rcases List.mem_cons.mp h with hx | hxs
      · exact Or.inl (mem_of_codeFrom hx.symm)
      · exact Or.inr (ih hxs)

/-- In the value, and in every value inside it, each field that a record is hashed by has a
    value. -/
inductive Filled : Value → Prop where
  | of_parts {v : Value} (h : ∀ n fs, v = .record n fs → lacksField fs = false)
      (hparts : ∀ x ∈ v.parts, Filled x) : Filled v

theorem Filled.parts {v : Value} (h : Filled v) : ∀ x ∈ v.parts, Filled x := by
  cases h with
  | of_parts _ hparts => exact hparts

theorem Filled.not_lacks {n : Nat} {fs : List (FieldInfo × Option Value)}
    (h : Filled (.record n fs)) : lacksField fs = false := by
  cases h with
  | of_parts h _ => exact h n fs rfl

theorem Filled.of_not_compound {v : Value} (h : v.isCompound = false) : Filled v := by
  refine .of_parts ?_ ?_
  · rintro n fs rfl
    exact nomatch h
  · cases v with
    | list xs => exact nomatch h
    | tuple xs => exact nomatch h
    | set frozen xs => exact nomatch h
    | dict es => exact nomatch h
    | record n fs => exact nomatch h
    | charRange span negated => exact nomatch h
    | _ => exact fun x hx => nomatch hx

mutual

/-- **THERE IS ONE REASON TO REFUSE A VALUE** that lacks no field: its kind, or the kind of a
    value inside it. -/
theorem fault_of_mem_codes (v : Value) (hv : Filled v) {e : Fault} (h : .error e ∈ codes v) :
    e = .wrongKind := by
  cases v with
  | list xs => exact fault_of_mem_codesOfAll xs hv.parts h
  | tuple xs => exact fault_of_mem_codesOfAll xs hv.parts h
  | illFormed points => exact absurd h not_mem_ok
  | text s => exact absurd h not_mem_ok
  | bytes mutable octets => exact absurd h not_mem_ok
  | range a b c => exact absurd h not_mem_ok
  | set frozen xs =>
      have hsum := map_eq_error (List.mem_singleton.mp h).symm
      rw [sumMembers_eq] at hsum
      exact fault_of_mem_codesOfAll xs hv.parts (mem_codesOfAll_of_member (mem_of_sumCodes hsum))
  | dict es =>
      have hsum := map_eq_error (List.mem_singleton.mp h).symm
      rw [sumEntries_eq] at hsum
      refine fault_of_mem_entries es (fun f hf => ?_) (mem_of_sumCodes hsum)
      exact ⟨hv.parts _ (Value.key_mem_parts hf), hv.parts _ (Value.value_mem_parts hf)⟩
  | record n fs =>
      have hcode := (List.mem_singleton.mp h).symm
      rw [hv.not_lacks, if_neg Bool.false_ne_true, recordCode_eq] at hcode
      exact fault_of_mem_fields fs hv.parts (mem_of_codeFrom hcode)
  | charRange r negated =>
      have hcode := (List.mem_singleton.mp h).symm
      rw [alone_append] at hcode
      exact fault_of_mem_codes negated (hv.parts negated List.mem_cons_self) (mem_of_codeFrom hcode)
  | object attributes => cases List.mem_singleton.mp h; rfl
  | slotted classes attributes => cases List.mem_singleton.mp h; rfl
  | declaration fs => cases List.mem_singleton.mp h; rfl
  | unhashable => cases List.mem_singleton.mp h; rfl
  | _ => exact nomatch List.mem_singleton.mp h

theorem fault_of_mem_codesOfAll (xs : List Value) (hxs : ∀ x ∈ xs, Filled x) {e : Fault}
    (h : .error e ∈ codesOfAll xs) : e = .wrongKind := by
  cases xs with
  | nil => exact nomatch h
  | cons x xs =>
      rw [codesOfAll] at h
      obtain ⟨hx, hxs⟩ := List.forall_mem_cons.mp hxs
      rcases List.mem_append.mp h with h | h
      · exact fault_of_mem_codes x hx h
      · exact fault_of_mem_codesOfAll xs hxs h

theorem fault_of_mem_entries (es : List (Value × Value))
    (hes : ∀ f ∈ es, Filled f.1 ∧ Filled f.2) {e : Fault} (h : .error e ∈ es.map entryCode) :
    e = .wrongKind := by
  cases es with
  | nil => exact nomatch h
  | cons f es =>
      obtain ⟨k, v⟩ := f
      obtain ⟨⟨hk, hv⟩, hes⟩ := List.forall_mem_cons.mp hes
      rcases List.mem_cons.mp h with h | h
      · rcases List.mem_append.mp (mem_of_codeFrom h.symm) with h | h
        · exact fault_of_mem_codes k hk h
        · exact fault_of_mem_codes v hv h
      · exact fault_of_mem_entries es hes h

theorem fault_of_mem_fields (fs : List (FieldInfo × Option Value))
    (hfs : ∀ x ∈ fs.filterMap (·.2), Filled x) {e : Fault}
    (h : .error e ∈ codesOfAll (hashedFields fs)) : e = .wrongKind := by
  cases fs with
  | nil => exact nomatch h
  | cons f fs =>
      obtain ⟨f, v⟩ := f
      cases v with
      | none =>
          rw [hashedFields_none] at h
          exact fault_of_mem_fields fs hfs h
      | some v =>
          obtain ⟨hv, hfs⟩ := List.forall_mem_cons.mp hfs
          rw [hashedFields_some] at h
          split at h
          · rw [codesOfAll] at h
            rcases List.mem_append.mp h with h | h
            · exact fault_of_mem_codes v hv h
            · exact fault_of_mem_fields fs hfs h
          · exact fault_of_mem_fields fs hfs h

end

/-- Codes that agree as far as they are there, and are missing for one reason, agree. -/
theorem eq_of_one_fault {cs ds : List (Except Fault Int)}
    (h : cs.map Except.toOption = ds.map Except.toOption)
    (hcs : ∀ e, .error e ∈ cs → e = .wrongKind) (hds : ∀ e, .error e ∈ ds → e = .wrongKind) :
    cs = ds := by
  induction cs generalizing ds with
  | nil => exact (List.map_eq_nil_iff.mp h.symm).symm
  | cons c cs ih =>
      obtain ⟨d, ds, rfl, hhead, htail⟩ := List.map_eq_cons_iff.mp h.symm
      have hrest := ih htail.symm (fun e he => hcs e (List.mem_cons_of_mem _ he))
        fun e he => hds e (List.mem_cons_of_mem _ he)
      rw [hrest]
      refine congrArg (· :: ds) ?_
      cases c with
      | error e =>
          cases d with
          | error e' => rw [hcs e List.mem_cons_self, hds e' List.mem_cons_self]
          | ok code => exact nomatch hhead
      | ok code =>
          cases d with
          | error e' => exact nomatch hhead
          | ok code' => exact congrArg Except.ok (Option.some.inj hhead).symm

end Likeness.HashCode
