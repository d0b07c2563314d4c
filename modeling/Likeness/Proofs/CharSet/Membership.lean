import Likeness.Proofs.CharSet.Definition

/-! # What belongs to a character set

    A character belongs to a set when it belongs to some range that some definition
    names (`contains_ofDefinitions`).  The shortcuts that the operations take for blank
    definitions and for texts without characters give what the operations would give
    anyway, so that all an operation sees of its definitions is which characters belong
    to them.  This makes definitions interchangeable that differ in their order, in
    repetitions and in blank ones (`varied_interchangeable`). -/

namespace Likeness.CharSet

/-! ## The ranges of a set -/

theorem mem_keepNew {kept : List CharRange} {q r : CharRange} :
    q ∈ keepNew kept r ↔ q ∈ kept ∨ q = r := by
  rw [keepNew]
  split_ifs with hmem
  · constructor
    · exact Or.inl
    · rintro (hq | rfl)
      · exact hq
      · exact hmem
  · rw [List.mem_append, List.mem_singleton]

theorem mem_foldl_keepNew {ranges kept : List CharRange} {q : CharRange} :
    q ∈ ranges.foldl keepNew kept ↔ q ∈ kept ∨ q ∈ ranges := by
  induction ranges generalizing kept with
  | nil => rw [List.foldl_nil, List.mem_nil_iff, or_false]
  | cons r rest ih => rw [List.foldl_cons, ih, mem_keepNew, or_assoc, List.mem_cons]

/-- No range is lost when each is kept where it first occurs. -/
theorem mem_keepFirst {ranges : List CharRange} {r : CharRange} :
    r ∈ keepFirst ranges ↔ r ∈ ranges := by
  show r ∈ ranges.foldl keepNew [] ↔ r ∈ ranges
  rw [mem_foldl_keepNew, List.mem_nil_iff, false_or]

theorem mem_rangesOf {definitions : List (Option (List Char))} {r : CharRange} :
    r ∈ rangesOf definitions ↔ ∃ d ∈ definitions, r ∈ CharRange.parse (d.getD []) :=
  List.mem_flatMap

theorem same_iff {s t : CharSet} : s.same t = true ↔ ∀ r, r ∈ s.ranges ↔ r ∈ t.ranges := by
  simp only [same, Bool.and_eq_true, List.all_eq_true, decide_eq_true_eq]
  constructor
  · rintro ⟨hst, hts⟩ r
    exact ⟨hst r, hts r⟩
  · intro h
    exact ⟨fun r hr => (h r).mp hr, fun r hr => (h r).mpr hr⟩

/-! ## The characters of a set -/

theorem contains_iff {s : CharSet} {c : Char} :
    s.contains c = true ↔ ∃ r ∈ s.ranges, r.contains c = true :=
  List.any_eq_true

/-- **A CHARACTER BELONGS** to the set of some definitions when it belongs to a range that
    one of them names. -/
theorem contains_ofDefinitions {definitions : List (Option (List Char))} {c : Char} :
    (ofDefinitions definitions).contains c = true
      ↔ ∃ d ∈ definitions, ∃ r ∈ CharRange.parse (d.getD []), r.contains c = true := by
  rw [contains_iff]
  constructor
  · rintro ⟨r, hr, hc⟩
    obtain ⟨d, hd, hparse⟩ := mem_rangesOf.mp (mem_keepFirst.mp hr)
    exact ⟨d, hd, r, hparse, hc⟩
  · rintro ⟨d, hd, r, hparse, hc⟩
    exact ⟨r, mem_keepFirst.mpr (mem_rangesOf.mpr ⟨d, hd, hparse⟩), hc⟩

/-- Sets with the same ranges have the same characters. -/
theorem contains_of_same {s t : CharSet} (h : s.same t = true) (c : Char) :
    s.contains c = t.contains c := by
  rw [Bool.eq_iff_iff, contains_iff, contains_iff]
  simp only [same_iff.mp h]

/-- Nothing belongs to definitions without characters. -/
theorem contains_of_blank {definitions : List (Option (List Char))}
    (h : blankDefinitions definitions = true) (c : Char) :
    (ofDefinitions definitions).contains c = false := by
  rw [Bool.eq_false_iff, ne_eq, contains_ofDefinitions]
  rintro ⟨d, hd, r, hparse, -⟩
  have hempty : d.getD [] = [] := List.isEmpty_iff.mp (List.all_eq_true.mp h d hd)
  rw [hempty] at hparse
  exact List.not_mem_nil hparse

/-! ## Operations without their shortcuts -/

variable {definitions : List (Option (List Char))}

/-- A text with each run of a member collapsed to one. -/
def squeezed (set : CharSet) : List Char → List Char
  | [] => []
  | c :: rest => c :: squeezeAfter set c rest

/-- A shortcut is taken only where no character of the text belongs to the set. -/
theorem ite_shortcut {β : Type} {text : List Char} {early full : β}
    (h : (∀ c ∈ text, (ofDefinitions definitions).contains c = false) → early = full) :
    (if text.isEmpty || blankDefinitions definitions then early else full) = full := by
  split_ifs with hshort
  · -- Either the text has no characters or the set has none.
    refine h fun c hc => ?_
    obtain hempty | hblank := Bool.or_eq_true_iff.mp hshort
    · rw [List.isEmpty_iff.mp hempty] at hc
      exact absurd hc List.not_mem_nil
    · exact contains_of_blank hblank c
  · rfl

theorem count_eq (s : Option (List Char)) :
    count s definitions = (s.getD []).countP (ofDefinitions definitions).contains := by
  refine ite_shortcut fun hnone => ?_
  rw [eq_comm, List.countP_eq_zero]
  intro c hc
  exact Bool.eq_false_iff.mp (hnone c hc)

theorem containsAny_eq (s : Option (List Char)) :
    containsAny s definitions = (s.getD []).any (ofDefinitions definitions).contains := by
  refine ite_shortcut fun hnone => ?_
  rw [eq_comm, List.any_eq_false]
  intro c hc
  exact Bool.eq_false_iff.mp (hnone c hc)

theorem keep_eq (s : Option (List Char)) :
    keep s definitions = s.map (List.filter (ofDefinitions definitions).contains) := by
  refine congrArg s.map (funext fun text => ite_shortcut fun hnone => ?_)
  rw [eq_comm, List.filter_eq_nil_iff]
  intro c hc
  exact Bool.eq_false_iff.mp (hnone c hc)

theorem delete_eq (s : Option (List Char)) :
    delete s definitions
      = s.map (List.filter fun c => !(ofDefinitions definitions).contains c) := by
  refine congrArg s.map (funext fun text => ite_shortcut fun hnone => ?_)
  rw [eq_comm, List.filter_eq_self]
  intro c hc
  rw [hnone c hc, Bool.not_false]

theorem squeezeAfter_of_none {set : CharSet} (h : ∀ c, set.contains c = false) (last : Char)
    (text : List Char) : squeezeAfter set last text = text := by
  induction text generalizing last with
  | nil => rfl
  | cons c rest ih =>
      rw [squeezeAfter, h c, Bool.and_false, if_neg Bool.false_ne_true, ih]

theorem squeeze_eq (s : Option (List Char)) :
    squeeze s definitions = s.map (ofDefinitions definitions).squeezed := by
  refine congrArg s.map (funext fun text => ?_)
  show (if blankDefinitions definitions then text else squeezed _ text) = squeezed _ text
  split_ifs with hblank
  · cases text with
    | nil => rfl
    | cons c rest => rw [squeezed, squeezeAfter_of_none (contains_of_blank hblank)]
  · rfl

/-! ## Definitions that describe the same characters -/

theorem squeezed_congr {s t : CharSet} (h : s.contains = t.contains) (text : List Char) :
    s.squeezed text = t.squeezed text := by
  have hafter (last : Char) (text : List Char) :
      squeezeAfter s last text = squeezeAfter t last text := by
    induction text generalizing last with
    | nil => rfl
    | cons c rest ih => rw [squeezeAfter, squeezeAfter, h, ih, ih]
  cases text with
  | nil => rfl
  | cons c rest => rw [squeezed, squeezed, hafter]

/-- All that an operation sees of its definitions is which characters belong to them. -/
theorem operations_congr {d e : List (Option (List Char))}
    (h : (ofDefinitions d).contains = (ofDefinitions e).contains) (s : Option (List Char)) :
    count s d = count s e ∧ containsAny s d = containsAny s e ∧ delete s d = delete s e ∧
      keep s d = keep s e ∧ squeeze s d = squeeze s e := by
  refine ⟨?_, ?_, ?_, ?_, ?_⟩
  · rw [count_eq, count_eq, h]
  · rw [containsAny_eq, containsAny_eq, h]
  · rw [delete_eq, delete_eq, h]
  · rw [keep_eq, keep_eq, h]
  · rw [squeeze_eq, squeeze_eq]
    exact congrArg s.map (funext (squeezed_congr h))

/-- Definitions are varied when they are moved, and when definitions that are there already
    or that have no characters are added. -/
inductive Varied : List (Option (List Char)) → List (Option (List Char)) → Prop where
  | moved {d e : List (Option (List Char))} (h : d.Perm e) : Varied d e
  | repeated {x : Option (List Char)} {d : List (Option (List Char))} (h : x ∈ d) :
      Varied d (x :: d)
  | blank {x : Option (List Char)} {d : List (Option (List Char))} (h : x.getD [] = []) :
      Varied d (x :: d)
  | trans {d e f : List (Option (List Char))} (hd : Varied d e) (he : Varied e f) : Varied d f

/-- Varied definitions name the same ranges, if not in the same order. -/
theorem Varied.mem_rangesOf_iff {d e : List (Option (List Char))} (h : Varied d e)
    (r : CharRange) : r ∈ rangesOf d ↔ r ∈ rangesOf e := by
  -- A repeated definition names what is named already, and a blank one names nothing.
  induction h with
  | moved hperm => simp only [mem_rangesOf, hperm.mem_iff]
  | repeated hmem =>
      simp only [mem_rangesOf, List.exists_mem_cons_iff]
      constructor
      · exact Or.inr
      · rintro (hr | hr)
        · exact ⟨_, hmem, hr⟩
        · exact hr
  | blank hblank =>
      simp only [mem_rangesOf, List.exists_mem_cons_iff, hblank, CharRange.parse,
        List.not_mem_nil, false_or]
  | trans _ _ ihd ihe => exact ihd.trans ihe

theorem Varied.same {d e : List (Option (List Char))} (h : Varied d e) :
    (ofDefinitions d).same (ofDefinitions e) = true := by
  refine same_iff.mpr fun r => ?_
  show r ∈ keepFirst _ ↔ r ∈ keepFirst _
  rw [mem_keepFirst, mem_keepFirst, h.mem_rangesOf_iff]

/-- **VARIED DEFINITIONS ARE INTERCHANGEABLE.**  Moving definitions, repeating them and adding
    blank ones gives an equal set, and no operation gives a different result.  No set stores
    a range twice, its characters are those of the ranges that its definitions name, and
    equal sets have the same characters. -/
theorem varied_interchangeable {d e : List (Option (List Char))} (h : Varied d e) :
    (ofDefinitions d).same (ofDefinitions e) = true ∧
    (∀ s : Option (List Char),
      count s d = count s e ∧ containsAny s d = containsAny s e ∧ delete s d = delete s e ∧
        keep s d = keep s e ∧ squeeze s d = squeeze s e) ∧
    (∀ definitions : List (Option (List Char)),
      (ofDefinitions definitions).ranges.Nodup ∧
      ∀ c, (ofDefinitions definitions).contains c = true
        ↔ ∃ x ∈ definitions, ∃ r ∈ CharRange.parse (x.getD []), r.contains c = true) ∧
    ∀ s t : CharSet, s.same t = true → ∀ c, s.contains c = t.contains c := by
  refine ⟨h.same, operations_congr (funext (contains_of_same h.same)), ?_, ?_⟩
  · intro definitions
    exact ⟨keepFirst_nodup _, fun c => contains_ofDefinitions⟩
  · intro s t
    exact contains_of_same

/-- A definition comes twice, out of order and between blank ones: what is squeezed out of a
    text stays the same. -/
theorem varied_interchangeable_moved :
    Varied [some ['a', '-', 'c'], some ['^', 'b']]
      [none, some ['^', 'b'], some [], some ['a', '-', 'c'], some ['^', 'b']] ∧
    squeeze (some ['b', 'b', 'x', 'x']) [some ['a', '-', 'c'], some ['^', 'b']]
      = squeeze (some ['b', 'b', 'x', 'x'])
        [none, some ['^', 'b'], some [], some ['a', '-', 'c'], some ['^', 'b']] := by
  have hblank : Varied [some ['a', '-', 'c'], some ['^', 'b']]
      [none, some ['a', '-', 'c'], some ['^', 'b']] := .blank rfl
  have hrepeated : Varied [none, some ['a', '-', 'c'], some ['^', 'b']]
      [some ['^', 'b'], none, some ['a', '-', 'c'], some ['^', 'b']] := .repeated (by decide)
  have hempty : Varied [some ['^', 'b'], none, some ['a', '-', 'c'], some ['^', 'b']]
      [some [], some ['^', 'b'], none, some ['a', '-', 'c'], some ['^', 'b']] := .blank rfl
  have hmoved : Varied [some [], some ['^', 'b'], none, some ['a', '-', 'c'], some ['^', 'b']]
      [none, some ['^', 'b'], some [], some ['a', '-', 'c'], some ['^', 'b']] :=
    .moved (by decide)
  have hvaried := ((hblank.trans hrepeated).trans hempty).trans hmoved
  exact ⟨hvaried, ((varied_interchangeable hvaried).2.1 _).2.2.2.2⟩

end Likeness.CharSet
