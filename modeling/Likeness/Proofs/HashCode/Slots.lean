import Likeness.Proofs.HashCode.Selection

/-! # Slots

    An object of classes that declare slots is hashed by its slots, base first and in the
    order of declaration.  Each is looked for by the name that it is declared by
    (`foundSlots_eq`), while a private slot is kept under the name of its class before its
    own: as long as nothing else is set by a private name, private slots are passed over
    (`foundSlots_public`).  Where all slots are found, every one that is assigned is
    appended (`assignedSlots_sublist`), and once if it is declared once
    (`foundSlots_eq_assignedSlots_iff`); what two classes declare is appended twice.

    The main result is `ofFields_slots`. -/

namespace Likeness

/-! ## Each element once -/

section EraseDups

variable {α β : Type} [BEq α] [LawfulBEq α]

/-- What is left without repetition stands in the order in which it did. -/
theorem eraseDups_once (xs : List α) : xs.eraseDups.Sublist xs ∧ xs.eraseDups.Nodup := by
  -- behind its first element a list is gone through without the repetitions of that
  induction hlength : xs.length using Nat.strong_induction_on generalizing xs with
  | h n ih =>
    cases xs with
    | nil => exact ⟨List.Sublist.refl [], List.nodup_nil⟩
    | cons x xs =>
        have hshort : (xs.filter fun y => !y == x).length < n :=
          hlength ▸ Nat.lt_succ_of_le (List.length_filter_le _ xs)
        obtain ⟨hsub, hnodup⟩ := ih _ hshort _ rfl
        rw [List.eraseDups_cons]
        refine ⟨(hsub.trans List.filter_sublist).cons_cons x, List.nodup_cons.mpr ⟨?_, hnodup⟩⟩
        intro hx
        simpa using List.mem_eraseDups.mp hx

/-- Looking for each element once finds as much as looking for all, if and only if those
    that are found do not repeat. -/
theorem filterMap_eq_filterMap_eraseDups_iff (f : α → Option β) (xs : List α) :
    xs.filterMap f = xs.eraseDups.filterMap f ↔ (xs.filter fun x => (f x).isSome).Nodup := by
  have hlength : ∀ ys : List α,
      (ys.filterMap f).length = (ys.filter fun x => (f x).isSome).length := by
    intro ys
    rw [List.length_filterMap_eq_countP, List.countP_eq_length_filter]
  obtain ⟨hsub, hnodup⟩ := eraseDups_once xs
  have hsubfilter := hsub.filter fun x => (f x).isSome
  have hnodupfilter := hnodup.filter fun x => (f x).isSome
  constructor
  · intro heq
    have hsame := hsubfilter.eq_of_length (by rw [← hlength, ← hlength, heq])
    rw [← hsame]
    exact hnodupfilter
  · intro honce
    have hperm : (xs.eraseDups.filter fun x => (f x).isSome).Perm
        (xs.filter fun x => (f x).isSome) := by
      rw [List.perm_ext_iff_of_nodup hnodupfilter honce]
      intro x
      rw [List.mem_filter, List.mem_filter, List.mem_eraseDups]
    refine ((hsub.filterMap f).eq_of_length ?_).symm
    rw [hlength, hlength, hperm.length_eq]

end EraseDups

/-! ## Names -/

namespace Slots

/-- A name whose second character is no underscore is not private. -/
theorem isPrivate_of_second {name : String} {a c : Char} {rest : List Char}
    (hname : name.toList = a :: c :: rest) (hc : c ≠ '_') : isPrivate name = false := by
  rw [isPrivate, hname]
  split
  · rename_i hsame
    exact absurd (List.cons.inj (List.cons.inj hsame).2).1 hc
  · rfl

/-- A class whose name is not made of underscores keeps no slot under a private name. -/
theorem isPrivate_keptName {owner : String} (howner : ∃ c ∈ owner.toList, c ≠ '_')
    (name : String) : isPrivate (keptName owner name) = false := by
  have hbare : owner.toList.dropWhile (· == '_') ≠ [] := by
    obtain ⟨c, hc, hother⟩ := howner
    intro hnil
    exact hother (beq_iff_eq.mp (List.dropWhile_eq_nil_iff.mp hnil c hc))
  rw [keptName]
  split
  · rename_i c rest hprivate hdrop
    -- the first character that is kept of the class's name is none that was dropped
    have hc : c ≠ '_' := by
      have hhead := List.head_dropWhile_not (· == '_') hbare
      simp only [hdrop, List.head_cons] at hhead
      exact beq_eq_false_iff_ne.mp hhead
    have hkept : ("_" ++ String.ofList (c :: rest) ++ name).toList
        = '_' :: c :: (rest ++ name.toList) := by simp
    exact isPrivate_of_second hkept hc
  · rename_i hnot
    cases hprivate : isPrivate name with
    | false => rfl
    | true =>
        obtain ⟨c, rest, hcons⟩ := List.exists_cons_of_ne_nil hbare
        exact absurd hcons (hnot c rest hprivate)

/-- A slot that is not private is kept under the name that it is declared by. -/
theorem kept_of_public {classes : List ClassInfo} {s : Slot} (hs : s ∈ ofClasses classes)
    (hpublic : isPrivate s.declared = false) : s.kept = s.declared := by
  obtain ⟨c, -, hc⟩ := List.mem_flatMap.mp hs
  obtain ⟨name, -, rfl⟩ := List.mem_map.mp hc
  show keptName c.name name = name
  rw [keptName, hpublic]

/-! ## Attributes -/

/-- Attributes that are put have the names that they are put by. -/
theorem mem_put {name : String} {v : Value} {attributes : List (String × Value)}
    {a : String × Value} (h : a ∈ put name v attributes) : a.1 = name ∨ a ∈ attributes := by
  induction attributes with
  | nil =>
      rw [put, List.mem_singleton] at h
      exact .inl (congrArg Prod.fst h)
  | cons w attributes ih =>
      obtain ⟨n, w⟩ := w
      rw [put] at h
      split_ifs at h with hn
      · rcases List.mem_cons.mp h with rfl | h
        · exact .inl hn
        · exact .inr (List.mem_cons_of_mem _ h)
      · rcases List.mem_cons.mp h with rfl | h
        · exact .inr List.mem_cons_self
        · exact (ih h).imp_right (List.mem_cons_of_mem _)

/-- The attributes of an object have the names of the values that were set. -/
theorem mem_putAll {values : List (String × Value)} {a : String × Value}
    (h : a ∈ putAll values) : ∃ w ∈ values, w.1 = a.1 := by
  -- values are put behind others that are there already
  have hfold : ∀ attributes : List (String × Value),
      a ∈ values.foldl (fun attributes v => put v.1 v.2 attributes) attributes →
        (∃ w ∈ values, w.1 = a.1) ∨ a ∈ attributes := by
    clear h
    induction values with
    | nil => exact fun attributes h => .inr h
    | cons v values ih =>
        intro attributes h
        rcases ih _ h with ⟨w, hw, hname⟩ | h
        · exact .inl ⟨w, List.mem_cons_of_mem v hw, hname⟩
        · rcases mem_put h with hname | h
          · exact .inl ⟨v, List.mem_cons_self, hname.symm⟩
          · exact .inr h
  rcases hfold [] h with hset | hnil
  · exact hset
  · exact absurd hnil List.not_mem_nil

/-- Nothing is found by a private name if nothing was set by one. -/
theorem lookup_private {values : List (String × Value)}
    (hvalues : ∀ a ∈ values, isPrivate a.1 = false) {name : String}
    (hprivate : isPrivate name = true) : (putAll values).lookup name = none := by
  rw [List.lookup_eq_none_iff]
  intro a ha
  obtain ⟨w, hw, hname⟩ := mem_putAll ha
  refine bne_iff_ne.mpr fun hsame => ?_
  have hpublic := hvalues w hw
  rw [hname, ← hsame, hprivate] at hpublic
  exact Bool.noConfusion hpublic

/-- What is made has its classes and what was set. -/
theorem make_eq_ok {classes : List ClassInfo} {values : List (String × Value)} {v : Value}
    (h : make classes values = .ok v) : v = .slotted classes (putAll values) ∧
      ∃ free, check classes = .ok free ∧
        (free = false → ∀ a ∈ values, ∃ s ∈ ofClasses classes, s.kept = a.1) := by
  rw [make] at h
  cases hcheck : check classes with
  | error e =>
      rw [hcheck] at h
      exact nomatch h
  | ok free =>
      rw [hcheck] at h
      change (if (free || _) = true then _ else _) = _ at h
      split_ifs at h with hset
      refine ⟨(Except.ok.inj h).symm, free, rfl, ?_⟩
      rintro rfl a ha
      have hkept := List.all_eq_true.mp hset a ha
      exact List.mem_map.mp (List.contains_iff_mem.mp hkept)

/-- Where only slots can be set, nothing is set by a private name, unless the name of a
    class is made of underscores. -/
theorem make_public {classes : List ClassInfo} {values : List (String × Value)} {v : Value}
    (h : make classes values = .ok v) (hcheck : check classes = .ok false)
    (hclasses : ∀ c ∈ classes, ∃ x ∈ c.name.toList, x ≠ '_') :
    ∀ a ∈ values, isPrivate a.1 = false := by
  obtain ⟨-, free, hfree, hset⟩ := make_eq_ok h
  obtain rfl : free = false := Except.ok.inj (hfree.symm.trans hcheck)
  intro a ha
  obtain ⟨s, hs, hname⟩ := hset rfl a ha
  obtain ⟨c, hc, hmem⟩ := List.mem_flatMap.mp hs
  obtain ⟨name, -, rfl⟩ := List.mem_map.mp hmem
  rw [← hname]
  exact isPrivate_keptName (hclasses c hc) name

/-- A slot is found by the name that it is declared by: there is its value, or nothing if
    it has none. -/
def Slot.IsFound (attributes : List (String × Value)) (s : Slot) : Prop :=
  attributes.lookup s.declared = attributes.lookup s.kept

/-- No slot that is assigned is declared twice. -/
def DeclaredOnce (slots : List Slot) (attributes : List (String × Value)) : Prop :=
  ((slots.map Slot.kept).filter fun name => (attributes.lookup name).isSome).Nodup

instance (slots : List Slot) (attributes : List (String × Value)) :
    Decidable (DeclaredOnce slots attributes) :=
  inferInstanceAs (Decidable (List.Nodup _))

end Slots

/-! ## Slots that are appended -/

namespace HashCode

open Slots (Slot)

/-- The values of the slots that have one: of each once, base first and in the order of
    declaration, whatever name it is kept under. -/
def assignedSlots (slots : List Slot) (attributes : List (String × Value)) : List Value :=
  (slots.map Slot.kept).eraseDups.filterMap fun name => attributes.lookup name

/-- The values of the slots that are found, in the order of declaration. -/
def foundSlots (slots : List Slot) (attributes : List (String × Value)) : List Value :=
  (filledSlots slots attributes).map (·.2)

theorem foundSlots_eq (slots : List Slot) (attributes : List (String × Value)) :
    foundSlots slots attributes = slots.filterMap fun s => attributes.lookup s.declared := by
  rw [foundSlots, filledSlots, List.map_filterMap]
  refine List.filterMap_congr fun s _ => ?_
  cases attributes.lookup s.declared <;> rfl

section Found

variable {slots : List Slot} {attributes : List (String × Value)}

/-- Where slots are found, what is appended is found by the names that they are kept under. -/
theorem foundSlots_eq_kept (hfound : ∀ s ∈ slots, s.IsFound attributes) :
    foundSlots slots attributes
      = (slots.map Slot.kept).filterMap fun name => attributes.lookup name := by
  rw [foundSlots_eq, List.filterMap_map]
  exact List.filterMap_congr hfound

/-- **NO SLOT IS OMITTED** where slots are found, and none changes its place. -/
theorem assignedSlots_sublist (hfound : ∀ s ∈ slots, s.IsFound attributes) :
    (assignedSlots slots attributes).Sublist (foundSlots slots attributes) := by
  rw [foundSlots_eq_kept hfound]
  exact (eraseDups_once _).1.filterMap _

/-- **EACH SLOT COUNTS ONCE** where slots are found, if and only if each that is assigned
    is declared once. -/
theorem foundSlots_eq_assignedSlots_iff (hfound : ∀ s ∈ slots, s.IsFound attributes) :
    foundSlots slots attributes = assignedSlots slots attributes
      ↔ Slots.DeclaredOnce slots attributes := by
  rw [foundSlots_eq_kept hfound]
  exact filterMap_eq_filterMap_eraseDups_iff _ _

end Found

section Private

variable {classes : List ClassInfo} {values : List (String × Value)}

/-- **PRIVATE SLOTS ARE PASSED OVER** where nothing is set by a private name. -/
theorem foundSlots_public (hvalues : ∀ a ∈ values, Slots.isPrivate a.1 = false)
    (slots : List Slot) :
    foundSlots slots (Slots.putAll values)
      = foundSlots (slots.filter fun s => !Slots.isPrivate s.declared) (Slots.putAll values) := by
  rw [foundSlots_eq, foundSlots_eq, List.filterMap_filter]
  refine List.filterMap_congr fun s _ => ?_
  cases hprivate : Slots.isPrivate s.declared with
  | false => rfl
  | true => exact Slots.lookup_private hvalues hprivate

/-- So the slots that are not found are the private ones that are assigned. -/
theorem isFound_iff (hvalues : ∀ a ∈ values, Slots.isPrivate a.1 = false) {s : Slot}
    (hs : s ∈ Slots.ofClasses classes) : s.IsFound (Slots.putAll values) ↔
      (Slots.isPrivate s.declared = true → (Slots.putAll values).lookup s.kept = none) := by
  rw [Slot.IsFound]
  cases hprivate : Slots.isPrivate s.declared with
  | false => simp [Slots.kept_of_public hs hprivate]
  | true => simp [Slots.lookup_private hvalues hprivate, eq_comm]

end Private

/-- An object of classes with slots is appended as the slots that are found. -/
theorem ofFields_foundSlots {classes : List ClassInfo} {attributes : List (String × Value)}
    {exclude : Value} {initial m : Int} (hslots : Slots.ofClasses classes ≠ [])
    (hexclude : exclude.elements? = some []) (hinitial : Odd initial) (hm : Odd m) :
    ofFields (.slotted classes attributes) exclude true (.int initial) (.int m)
      = Builder.totalAfter ⟨m, wrap initial⟩
          (foundSlots (Slots.ofClasses classes) attributes) := by
  have hfields : declaredFields (.slotted classes attributes)
      = .ok (filledSlots (Slots.ofClasses classes) attributes) := by
    rw [declaredFields]
    split
    · exact absurd ‹_› hslots
    · rfl
  have hv : Value.slotted classes attributes ≠ .null := by
    intro h
    cases h
  obtain ⟨names, hnames, htotal⟩ := ofFields_selectFields hv hfields hexclude rfl hinitial hm
  -- no name is excluded, and none is private where these are asked for
  have hall : selectFields names true (filledSlots (Slots.ofClasses classes) attributes)
      = foundSlots (Slots.ofClasses classes) attributes := by
    refine congrArg (List.map Prod.snd) (List.filter_eq_self.mpr fun f _ => ?_)
    rw [hnames]
    rfl
  rw [htotal, hall]

/-- **SLOTS ARE LOOKED FOR BY THEIR DECLARED NAMES**: with nothing excluded and private names
    asked for, an object of classes that declare slots is hashed with the outcome of
    appending the values of the slots that are found.  If all are found, no slot that is
    assigned is omitted, and each counts once if and only if none of these is declared
    twice.  If nothing is set by a private name, private slots are passed over, whether
    they are assigned or not, and all others are found.  Nothing is set by a private name
    where objects have no dictionary of attributes and the classes have ordinary names. -/
theorem ofFields_slots {classes : List ClassInfo} {values : List (String × Value)}
    {v exclude : Value} {initial m : Int} (hmake : Slots.make classes values = .ok v)
    (hslots : Slots.ofClasses classes ≠ []) (hexclude : exclude.elements? = some [])
    (hinitial : Odd initial) (hm : Odd m) :
    let slots := Slots.ofClasses classes
    let attributes := Slots.putAll values
    (∃ b, start (.int initial) (.int m) = .ok b ∧
      ofFields v exclude true (.int initial) (.int m)
        = b.totalAfter (foundSlots slots attributes)) ∧
    ((∀ s ∈ slots, s.IsFound attributes) →
      (assignedSlots slots attributes).Sublist (foundSlots slots attributes) ∧
      (foundSlots slots attributes = assignedSlots slots attributes
        ↔ Slots.DeclaredOnce slots attributes)) ∧
    ((∀ a ∈ values, Slots.isPrivate a.1 = false) →
      foundSlots slots attributes
        = foundSlots (slots.filter fun s => !Slots.isPrivate s.declared) attributes ∧
      ∀ s ∈ slots, s.IsFound attributes ↔
        (Slots.isPrivate s.declared = true → attributes.lookup s.kept = none)) ∧
    (Slots.check classes = .ok false → (∀ c ∈ classes, ∃ x ∈ c.name.toList, x ≠ '_') →
      ∀ a ∈ values, Slots.isPrivate a.1 = false) := by
  intro slots attributes
  refine ⟨⟨_, start_odd hinitial hm, ?_⟩, ?_, ?_, ?_⟩
  · obtain ⟨rfl, -⟩ := Slots.make_eq_ok hmake
    exact ofFields_foundSlots hslots hexclude hinitial hm
  · intro hfound
    exact ⟨assignedSlots_sublist hfound, foundSlots_eq_assignedSlots_iff hfound⟩
  · intro hvalues
    exact ⟨foundSlots_public hvalues slots, fun s hs => isFound_iff hvalues hs⟩
  · exact Slots.make_public hmake

/-- A base declares two slots, and its heir a private one, which has no value. -/
theorem ofFields_slots_inherited :
    let classes : List ClassInfo :=
      [⟨"Base", some (.several ["b", "a"])⟩, ⟨"Heir", some (.one "__c")⟩]
    let values : List (String × Value) := [("a", .int 2), ("b", .int 1)]
    foundSlots (Slots.ofClasses classes) (Slots.putAll values)
        = assignedSlots (Slots.ofClasses classes) (Slots.putAll values) ∧
    ∃ v, Slots.make classes values = .ok v ∧
      ofFields v (.tuple []) true (.int 3) (.int 5) = .ok 82 := by
  intro classes values
  obtain ⟨⟨b, hb, htotal⟩, hfound, hpublic, hset⟩ :=
    @ofFields_slots classes values _ (.tuple []) 3 5 rfl (by decide) rfl (by decide) (by decide)
  have hnames : ∀ c ∈ classes, ∃ x ∈ c.name.toList, x ≠ '_' := by
    rw [List.forall_mem_cons, List.forall_mem_singleton]
    exact ⟨⟨'B', by simp, by decide⟩, ⟨'H', by simp, by decide⟩⟩
  obtain ⟨-, hiff⟩ := hpublic (hset rfl hnames)
  have hslots : Slots.ofClasses classes = [⟨"b", "b"⟩, ⟨"a", "a"⟩, ⟨"__c", "_Heir__c"⟩] := rfl
  have hall : ∀ s ∈ Slots.ofClasses classes, s.IsFound (Slots.putAll values) := by
    intro s hs
    rw [hiff s hs]
    rw [hslots] at hs
    revert s
    simp only [List.forall_mem_cons]
    -- only the third slot is private
    exact ⟨nofun, nofun, fun _ => rfl, nofun⟩
  refine ⟨(hfound hall).2.mpr (by decide +kernel), _, rfl, ?_⟩
  cases hb
  exact htotal.trans rfl

/-- A private slot is omitted although it is assigned, and one that is declared by the
    base and by its heir counts twice. -/
theorem slots_missed_and_repeated :
    let folded (classes : List ClassInfo) (values : List (String × Value)) :=
      (Slots.make classes values).bind fun v => ofFields v (.tuple []) true (.int 17) (.int 37)
    let expected (classes : List ClassInfo) (values : List (String × Value)) :=
      Builder.totalAfter ⟨37, 17⟩ (assignedSlots (Slots.ofClasses classes) (Slots.putAll values))
    let hidden : List ClassInfo := [⟨"Slotted", some (.several ["__x", "a"])⟩]
    let hiddenValues : List (String × Value) := [("_Slotted__x", .int 5), ("a", .int 2)]
    let inherited : List ClassInfo := [⟨"Base", some (.one "a")⟩, ⟨"Heir", some (.one "a")⟩]
    let inheritedValues : List (String × Value) := [("a", .int 5)]
    folded hidden hiddenValues = .ok 631 ∧ expected hidden hiddenValues = .ok 23460 ∧
    folded inherited inheritedValues = .ok 23463 ∧ expected inherited inheritedValues = .ok 634 := by
  exact ⟨rfl, rfl, rfl, rfl⟩

end HashCode

end Likeness
