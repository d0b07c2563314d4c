import Likeness.Proofs.HashCode.Leaves
import Likeness.Proofs.HashCode.Polynomial

/-! # Selected fields

    An object without slots is hashed by its fields: what its declaration counts, or its
    attributes, less the excluded names, and less the private ones unless these are asked
    for.  Of the others nothing makes a difference but whether they are there: every
    field that counts is asked for before any is left out, and where one has no value
    there is no hash code.  So it is at any depth: values are `Value.AlikeSelected` when
    they are the same but for what instances of declarations hold in fields that are not
    selected.

    The main result is `ofFields_selected`. -/

namespace Likeness

open HashCode

/-! ## Selection -/

/-- An attribute as a field of which nothing is declared. -/
def Value.undeclared (a : String × Value) : FieldInfo × Option Value :=
  (⟨a.1, true, none⟩, some a.2)

/-- The fields of an object without slots, in the order of their declaration, or of its
    attributes, with their values as far as they have one. -/
def Value.ownFields? : Value → Option (List (FieldInfo × Option Value))
  | record _ fs => some fs
  | declaration fs => some fs
  | charRange r negated =>
    some ([("start", ofChars [r.first]), ("end", ofChars [r.last]), ("negated", negated)].map
      undeclared)
  | object attributes => some (attributes.map undeclared)
  | slotted classes attributes =>
    if (Slots.ofClasses classes).isEmpty then some (attributes.map undeclared) else none
  | hashCode multiplier total =>
    some ([("multiplier", int multiplier), ("_total", int total)].map undeclared)
  | hashed code => some ([("_code", int code)].map undeclared)
  | unhashable => some []
  | _ => none

namespace HashCode

/-- A field is selected if it is compared and not kept out of hashing, its name is not
    among the excluded values, and it is not private, unless private ones are asked for. -/
def isSelected (excluded : List Value) (includePrivate : Bool) (f : FieldInfo) : Bool :=
  f.compared && f.hashed != some false && !(excluded.any fun x => x.equal (.text f.name))
    && (includePrivate || !isPrivate f.name)

/-- The values of the selected fields, in order. -/
def selectedValues (excluded : List Value) (includePrivate : Bool)
    (fs : List (FieldInfo × Option Value)) : List Value :=
  (fs.filter fun f => isSelected excluded includePrivate f.1).filterMap (·.2)

/-- The total of a hash code after values are appended one after another. -/
def Builder.totalAfter (b : Builder) (xs : List Value) : Except Fault Int :=
  match b.receiveAll (xs.map .value) with
  | .ok ended => .ok ended.total
  | .error s => .error s.fault

end HashCode

/-! ## Alike but for fields that are not selected -/

mutual

/-- Values are the same, at any depth, but for instances of declarations, which agree in the
    values of selected fields as far as these are alike, and in whether they lack a field. -/
inductive Value.AlikeSelected : Value → Value → Prop where
  | same (v : Value) : Value.AlikeSelected v v
  | list {xs ys : List Value} (h : Value.AlikeSelectedAll xs ys) :
      Value.AlikeSelected (.list xs) (.list ys)
  | tuple {xs ys : List Value} (h : Value.AlikeSelectedAll xs ys) :
      Value.AlikeSelected (.tuple xs) (.tuple ys)
  | set {frozen : Bool} {xs ys : List Value} (h : Value.AlikeSelectedAll xs ys) :
      Value.AlikeSelected (.set frozen xs) (.set frozen ys)
  | dict {es fs : List (Value × Value)} (h : Value.AlikeSelectedEntries es fs) :
      Value.AlikeSelected (.dict es) (.dict fs)
  | instances {v w : Value} {fs gs : List (FieldInfo × Option Value)}
      (hv : isInstance v = true) (hw : isInstance w = true) (hfs : v.ownFields? = some fs)
      (hgs : w.ownFields? = some gs) (hlacks : lacksField fs = lacksField gs)
      (h : Value.AlikeSelectedAll (selectedValues [] false fs) (selectedValues [] false gs)) :
      Value.AlikeSelected v w

/-- Values in one sequence are alike those of another. -/
inductive Value.AlikeSelectedAll : List Value → List Value → Prop where
  | nil : Value.AlikeSelectedAll [] []
  | cons {x y : Value} {xs ys : List Value} (h : Value.AlikeSelected x y)
      (hs : Value.AlikeSelectedAll xs ys) : Value.AlikeSelectedAll (x :: xs) (y :: ys)

/-- Entries are alike in keys and values. -/
inductive Value.AlikeSelectedEntries : List (Value × Value) → List (Value × Value) → Prop where
  | nil : Value.AlikeSelectedEntries [] []
  | cons {k l v w : Value} {es fs : List (Value × Value)} (hk : Value.AlikeSelected k l)
      (hv : Value.AlikeSelected v w) (hs : Value.AlikeSelectedEntries es fs) :
      Value.AlikeSelectedEntries ((k, v) :: es) ((l, w) :: fs)

end

namespace HashCode

/-! ## What is selected is appended -/

theorem Builder.totalAfter_eq (b : Builder) (xs : List Value) :
    b.totalAfter xs = alone (fold b.multiplier (codesOfAll xs) b.total) := by
  have hcodes : (xs.map Call.value).flatMap Call.codes = codesOfAll xs := by
    rw [List.flatMap_map, codesOfAll_eq_flatten, List.flatMap_def]
    rfl
  rw [Builder.totalAfter, b.receiveAll_eq_fold, hcodes]
  cases fold b.multiplier (codesOfAll xs) b.total with
  | ok total => rfl
  | error s => rfl

/-- The values that equal a name are that text, and nothing else. -/
theorem equal_name (x : Value) (name : String) : x.equal (.text name) = true ↔ x = .text name := by
  cases x with
  | text s =>
      show (s == name) = true ↔ _
      rw [beq_iff_eq, Value.text.injEq]
  | _ => exact iff_of_false Bool.false_ne_true nofun

/-- The names among hashable values are the ones that are excluded. -/
theorem excludedNames_eq {exclude : Value} {xs : List Value} (h : exclude.elements? = some xs)
    (hhashable : xs.all Value.isHashable = true) : ∃ names, excludedNames exclude = .ok names ∧
      ∀ name, names.contains name = xs.any fun x => x.equal (.text name) := by
  rw [excludedNames, h]
  refine ⟨_, if_pos hhashable, fun name => ?_⟩
  rw [Bool.eq_iff_iff, List.contains_iff_mem, List.mem_filterMap, List.any_eq_true]
  constructor
  · rintro ⟨x, hx, hname⟩
    cases x with
    | text s =>
        cases hname
        exact ⟨_, hx, (equal_name _ _).mpr rfl⟩
    | _ => exact nomatch hname
  · rintro ⟨x, hx, hequal⟩
    exact ⟨x, hx, by rw [(equal_name x name).mp hequal]⟩

/-- Attributes all count, and all have values. -/
theorem countedFields_undeclared (attributes : List (String × Value)) :
    countedFields (attributes.map Value.undeclared) = attributes := by
  induction attributes with
  | nil => rfl
  | cons a attributes ih =>
      rw [List.map_cons, Value.undeclared, countedFields_some, ih]
      rfl

@[inherit_doc countedFields_undeclared]
theorem lacksField_undeclared (attributes : List (String × Value)) :
    lacksField (attributes.map Value.undeclared) = false := by
  induction attributes with
  | nil => rfl
  | cons a attributes ih =>
      rw [List.map_cons, lacksField_cons, ih]
      rfl

/-- The fields that an object is hashed by are those of its own that count, if none of these
    lacks its value. -/
theorem declaredFields_own {v : Value} {fs : List (FieldInfo × Option Value)}
    (h : v.ownFields? = some fs) :
    declaredFields v = if lacksField fs then .error .noSuchField else .ok (countedFields fs) := by
  cases v with
  | record n fs =>
      cases h
      exact valuedFields_eq fs
  | declaration fs =>
      cases h
      exact valuedFields_eq fs
  | charRange r negated =>
      cases h
      rw [lacksField_undeclared, countedFields_undeclared]
      rfl
  | object attributes =>
      cases h
      rw [lacksField_undeclared, countedFields_undeclared]
      rfl
  | slotted classes attributes =>
      rw [Value.ownFields?] at h
      split_ifs at h with hslots
      cases h
      rw [lacksField_undeclared, countedFields_undeclared, declaredFields,
        List.isEmpty_iff.mp hslots]
      rfl
  | hashCode multiplier total =>
      cases h
      rw [lacksField_undeclared, countedFields_undeclared]
      rfl
  | hashed code =>
      cases h
      rw [lacksField_undeclared, countedFields_undeclared]
      rfl
  | unhashable =>
      cases h
      rfl
  | _ => exact (Option.some_ne_none fs h.symm).elim

theorem selectedValues_none (excluded : List Value) (includePrivate : Bool) (f : FieldInfo)
    (fs : List (FieldInfo × Option Value)) :
    selectedValues excluded includePrivate ((f, none) :: fs)
      = selectedValues excluded includePrivate fs := by
  rw [selectedValues, List.filter_cons]
  split_ifs <;> rfl

theorem selectedValues_some (excluded : List Value) (includePrivate : Bool) (f : FieldInfo)
    (v : Value) (fs : List (FieldInfo × Option Value)) :
    selectedValues excluded includePrivate ((f, some v) :: fs)
      = if isSelected excluded includePrivate f then
          v :: selectedValues excluded includePrivate fs
        else selectedValues excluded includePrivate fs := by
  rw [selectedValues, List.filter_cons, apply_ite (List.filterMap _)]
  rfl

/-- Selecting from the fields that count is selecting from all. -/
theorem selectFields_counted {names : List String} {xs : List Value}
    (hnames : ∀ name, names.contains name = xs.any fun x => x.equal (.text name))
    (includePrivate : Bool) (fs : List (FieldInfo × Option Value)) :
    selectFields names includePrivate (countedFields fs) = selectedValues xs includePrivate fs := by
  induction fs with
  | nil => rfl
  | cons f fs ih =>
      obtain ⟨f, v⟩ := f
      cases v with
      | none => rw [countedFields_none, selectedValues_none, ih]
      | some v =>
          have hcounts : counts f = (f.compared && f.hashed != some false) := by
            rw [counts]
            rcases f.hashed with _ | _ | _ <;> rfl
          rw [countedFields_some, selectedValues_some, ← ih, isSelected, ← hcounts, ← hnames]
          cases counts f with
          | false => rfl
          | true =>
              rw [if_pos rfl, selectFields, List.filter_cons, apply_ite (List.map _), Bool.true_and]
              rfl

section Object

variable {v exclude : Value} {xs : List Value} {includePrivate : Bool} {initial m : Int}

/-- What is there is hashed with the outcome of appending some of its fields. -/
theorem ofFields_selectFields {fields : List (String × Value)} (hv : v ≠ .null)
    (hfields : declaredFields v = .ok fields) (hexclude : exclude.elements? = some xs)
    (hhashable : xs.all Value.isHashable = true) (hinitial : Odd initial) (hm : Odd m) :
    ∃ names, (∀ name, names.contains name = xs.any fun x => x.equal (.text name)) ∧
      ofFields v exclude includePrivate (.int initial) (.int m)
        = Builder.totalAfter ⟨m, wrap initial⟩ (selectFields names includePrivate fields) := by
  obtain ⟨names, hexcluded, hnames⟩ := excludedNames_eq hexclude hhashable
  refine ⟨names, hnames, ?_⟩
  rw [ofFields_of_fields hv hexcluded (start_odd hinitial hm) hfields, Builder.totalAfter_eq]

/-- **AN OBJECT IS HASHED BY ITS SELECTED FIELDS**, and with the outcome of appending them, if it
    lacks no field that counts. -/
theorem ofFields_own {fs : List (FieldInfo × Option Value)} (hfs : v.ownFields? = some fs)
    (hexclude : exclude.elements? = some xs) (hhashable : xs.all Value.isHashable = true)
    (hinitial : Odd initial) (hm : Odd m) :
    ofFields v exclude includePrivate (.int initial) (.int m)
      = if lacksField fs then .error .noSuchField
        else Builder.totalAfter ⟨m, wrap initial⟩ (selectedValues xs includePrivate fs) := by
  have hv : v ≠ .null := by
    rintro rfl
    exact nomatch hfs
  have hfields := declaredFields_own hfs
  cases hlacks : lacksField fs with
  | true =>
      rw [hlacks] at hfields
      obtain ⟨names, hexcluded, -⟩ := excludedNames_eq hexclude hhashable
      exact ofFields_of_no_fields hv hexcluded (start_odd hinitial hm) hfields
  | false =>
      rw [hlacks] at hfields
      obtain ⟨names, hnames, htotal⟩ :=
        ofFields_selectFields hv hfields hexclude hhashable hinitial hm
      rw [htotal, selectFields_counted hnames]
      rfl

end Object

/-! ## Nothing else is appended -/

/-- The code of an instance with some fields: the total of those that are selected by default,
    if none that counts is lacking. -/
def codeOfFields (fs : List (FieldInfo × Option Value)) : Except Fault Int :=
  if lacksField fs then .error .noSuchField
  else Builder.totalAfter ⟨defaultMultiplier, defaultInitial⟩ (selectedValues [] false fs)

/-- An instance among other values is appended as the total of its selected fields. -/
theorem codes_instance {v : Value} {fs : List (FieldInfo × Option Value)}
    (hv : isInstance v = true) (hfs : v.ownFields? = some fs) : codes v = [codeOfFields fs] := by
  have hcode : codes v = [ofInstance v] := by
    cases v with
    | record n fs => exact codes_eq_leaves (.record n fs)
    | charRange r negated => exact codes_eq_leaves (.charRange r negated)
    | _ => exact nomatch hv
  have hown : ofInstance v = if lacksField fs then .error .noSuchField
      else Builder.totalAfter _ (selectedValues [] false fs) :=
    ofFields_own hfs rfl rfl (by decide) (by decide)
  rw [hcode, hown]
  rfl

/-- Values that are alike are appended as the same codes. -/
theorem codes_alike {v w : Value} (h : v.AlikeSelected w) : codes v = codes w := by
  -- the induction is on how they are alike: selected values are no parts of a value
  refine @Value.AlikeSelected.rec (fun v w _ => codes v = codes w)
    (fun xs ys _ => xs.map codes = ys.map codes)
    (fun es fs _ => es.map entryCode = fs.map entryCode)
    ?same ?list ?tuple ?set ?dict ?instances ?nil ?cons ?noEntries ?entry v w h
  case same => exact fun v => rfl
  case list =>
    intro xs ys _ ih
    rw [codes, codes, codesOfAll_eq_flatten, codesOfAll_eq_flatten, ih]
  case tuple =>
    intro xs ys _ ih
    rw [codes, codes, codesOfAll_eq_flatten, codesOfAll_eq_flatten, ih]
  case set =>
    intro frozen xs ys _ ih
    have hmembers := congrArg (List.map (codeFrom defaultInitial)) ih
    rw [List.map_map, List.map_map] at hmembers
    rw [codes, codes, sumMembers_eq, sumMembers_eq]
    exact congrArg (fun cs => [(sumCodes cs).map wrap]) hmembers
  case dict =>
    intro es fs _ ih
    rw [codes, codes, sumEntries_eq, sumEntries_eq, ih]
  case instances =>
    intro v w fs gs hv hw hfs hgs hlacks _ ih
    rw [codes_instance hv hfs, codes_instance hw hgs, codeOfFields, codeOfFields, hlacks,
      Builder.totalAfter_eq, Builder.totalAfter_eq, codesOfAll_eq_flatten, codesOfAll_eq_flatten, ih]
  case nil => rfl
  case cons =>
    intro x y xs ys _ _ ih ihs
    rw [List.map_cons, List.map_cons, ih, ihs]
  case noEntries => rfl
  case entry =>
    intro k l v w es fs _ _ _ ihk ihv ihs
    rw [List.map_cons, List.map_cons, entryCode, entryCode, ihk, ihv, ihs]

theorem codesOfAll_alike {xs ys : List Value} (h : Value.AlikeSelectedAll xs ys) :
    codesOfAll xs = codesOfAll ys := by
  induction xs generalizing ys with
  | nil =>
      cases h
      rfl
  | cons x xs ih =>
      cases h with
      | cons h hs => rw [codesOfAll, codesOfAll, codes_alike h, ih hs]

/-- **ONLY SELECTED FIELDS MATTER**, where none that counts is lacking: an object without slots is
    hashed with the outcome of appending the values of its selected fields, in order, to a
    hash code that is started with the same two odd integers; and it is refused if it lacks a
    field that counts, selected or not.  So two objects that lack none have one outcome if the
    values of their selected fields are the same, or alike, whatever the other fields hold.
    An instance of a declaration is appended, among other values and at any depth, as the
    total of its selected fields, so that values that are alike are appended with one
    outcome. -/
theorem ofFields_selected {exclude : Value} {xs : List Value} {initial m : Int}
    (hexclude : exclude.elements? = some xs) (hhashable : xs.all Value.isHashable = true)
    (hinitial : Odd initial) (hm : Odd m) (includePrivate : Bool) :
    ∃ b, start (.int initial) (.int m) = .ok b ∧
      (∀ v fs, v.ownFields? = some fs →
        ofFields v exclude includePrivate (.int initial) (.int m)
          = if lacksField fs then .error .noSuchField
            else b.totalAfter (selectedValues xs includePrivate fs)) ∧
      (∀ v w fs gs, v.ownFields? = some fs → w.ownFields? = some gs →
        lacksField fs = lacksField gs →
        Value.AlikeSelectedAll (selectedValues xs includePrivate fs)
          (selectedValues xs includePrivate gs) →
        ofFields v exclude includePrivate (.int initial) (.int m)
          = ofFields w exclude includePrivate (.int initial) (.int m)) ∧
      (∀ v fs, isInstance v = true → v.ownFields? = some fs → ∀ b' : Builder,
        b'.receive (.value v) = stepWith b'.multiplier b'.total
          (if lacksField fs then .error .noSuchField
            else Builder.totalAfter ⟨defaultMultiplier, defaultInitial⟩
              (selectedValues [] false fs))) ∧
      ∀ v w, v.AlikeSelected w → ∀ b' : Builder, b'.receive (.value v) = b'.receive (.value w) := by
  refine ⟨⟨m, wrap initial⟩, start_odd hinitial hm, ?_, ?_, ?_, ?_⟩
  · intro v fs hfs
    exact ofFields_own hfs hexclude hhashable hinitial hm
  · intro v w fs gs hfs hgs hlacks h
    rw [ofFields_own hfs hexclude hhashable hinitial hm,
      ofFields_own hgs hexclude hhashable hinitial hm, hlacks, Builder.totalAfter_eq,
      Builder.totalAfter_eq, codesOfAll_alike h]
  · intro v fs hv hfs b'
    rw [b'.receive_eq_fold, Call.codes, codes_instance hv hfs, fold_single]
    rfl
  · intro v w h b'
    rw [b'.receive_eq_fold, b'.receive_eq_fold, Call.codes, Call.codes, codes_alike h]

/-- A field is excluded by name, one is private, and one is kept out of hashing; an instance
    in a list has a field that is not compared.  What cannot be hashed changes places, and
    what is not compared may be lacking. -/
theorem ofFields_selected_nested :
    let inner (x : Option Value) : Value :=
      .record 1 [(⟨"n", true, none⟩, some (.int 4)), (⟨"cache", false, none⟩, x)]
    let outer (x : Option Value) (y : Value) : Value :=
      .record 0 [(⟨"a", true, none⟩, some (.list [inner x])), (⟨"skip", true, none⟩, some y),
        (⟨"_p", true, some true⟩, some (.int 9)), (⟨"note", true, some false⟩, x)]
    let code (v : Value) := ofFields v (.tuple [.text "skip"]) true (.int 3) (.int 5)
    code (outer none .unhashable) = .ok 3249 ∧ code (outer (some .unhashable) .null) = .ok 3249 ∧
    Builder.receive ⟨37, 17⟩ (.value (.list [inner none]))
      = Builder.receive ⟨37, 17⟩ (.value (.list [inner (some .unhashable)])) := by
  intro inner outer code
  obtain ⟨b, hb, hown, halike, -, hnested⟩ :=
    @ofFields_selected (.tuple [.text "skip"]) _ 3 5 rfl rfl (by decide) (by decide) true
  have hinner : (inner none).AlikeSelected (inner (some .unhashable)) :=
    .instances rfl rfl rfl rfl rfl (.cons (.same (.int 4)) .nil)
  have hlist : Value.AlikeSelected (.list [inner none]) (.list [inner (some .unhashable)]) :=
    .list (.cons hinner .nil)
  have hcode : code (outer none .unhashable) = .ok 3249 := by
    cases hb
    exact (hown _ _ rfl).trans rfl
  refine ⟨hcode, ?_, hnested _ _ hlist ⟨37, 17⟩⟩
  rw [← hcode]
  refine (halike (outer none .unhashable) (outer (some .unhashable) .null) _ _ rfl rfl rfl ?_).symm
  exact .cons hlist (.cons (.same (.int 9)) .nil)

/-- **A FIELD THAT IS LEFT OUT HAS TO BE THERE**: an instance without a value for a private field
    is refused, on its own and in a list, although private fields are left out and the only
    selected one has a code.  So is a declaration that has no value for it, and it is the same
    with a field that is excluded by name. -/
theorem unselected_field_missed :
    let title : FieldInfo × Option Value := (⟨"title", true, none⟩, some (.text "a"))
    let fs := [(⟨"_cache", true, none⟩, none), title]
    let gs := [(⟨"cache", true, none⟩, none), title]
    let code (v : Value) (excluded : List Value) :=
      ofFields v (.tuple excluded) false (.int 17) (.int 37)
    code (.record 0 fs) [] = .error .noSuchField ∧ code (.declaration fs) [] = .error .noSuchField ∧
    Builder.totalAfter ⟨37, 17⟩ (selectedValues [] false fs) = .ok 726 ∧
    Builder.receive ⟨37, 17⟩ (.value (.list [.int 5, .record 0 fs])) = .error ⟨634, .noSuchField⟩ ∧
    code (.record 0 gs) [.text "cache"] = .error .noSuchField ∧
    Builder.totalAfter ⟨37, 17⟩ (selectedValues [.text "cache"] false gs) = .ok 726 := by
  intro title fs gs code
  have hprivate : selectedValues [] false fs = [.text "a"] := by
    simp [selectedValues, isSelected, isPrivate, fs, title]
  have hexcluded : selectedValues [.text "cache"] false gs = [.text "a"] := by
    simp [selectedValues, isSelected, isPrivate, gs, title, Value.equal]
  have hcodes : codesOfAll [.text "a"] = [.ok 97] := rfl
  rw [hprivate, hexcluded, Builder.totalAfter_eq, hcodes]
  exact ⟨rfl, rfl, rfl, rfl, rfl, rfl⟩

end HashCode

end Likeness
