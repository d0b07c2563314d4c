import Likeness.CharSet.Filter
import Mathlib.Data.List.Nodup

/-! # What a character set is written as

    A range is written in one of four forms, and each of them is read as that range
    and nothing else, also where a bound is one of the signs that the forms are made
    of (`CharRange.parse_definition`).  A set that definitions describe repeats no
    range, so what it is written as describes it again
    (`CharSet.ofDefinitions_written`), and what a range keeps of a text is what the
    definition of its complement leaves of it (`CharSet.delete_complement`). -/

namespace Likeness

/-! ## Definitions of ranges -/

namespace CharRange

/-- The characters outside a range. -/
def complement (r : CharRange) : CharRange := { r with negated := !r.negated }

theorem contains_complement (r : CharRange) (c : Char) :
    r.complement.contains c = !r.contains c := by
  show (r.toCharSpan.containsText [c] != !r.negated) = !(r.toCharSpan.containsText [c] != r.negated)
  cases r.toCharSpan.containsText [c] <;> cases r.negated <;> rfl

theorem definition_ne_nil (r : CharRange) : r.definition ≠ [] := by
  obtain ⟨span, negated⟩ := r
  cases negated with
  | true => exact List.cons_ne_nil _ _
  | false =>
      show span.definition ≠ []
      rw [CharSpan.definition]
      split <;> exact List.cons_ne_nil _ _

/-- Bounds in order are not turned round. -/
theorem between_of_ordered (span : CharSpan) (negated : Bool) :
    between span.first span.last negated = ⟨span, negated⟩ := by
  rw [between, CharSpan.between, dif_pos span.ordered]

/-- The last character of a definition stands for itself, whatever it is. -/
theorem parse_last (c : Char) : parse [c] = [single c false] := by
  simp [parse]

/-- Two characters of which the first negates: there are too few for a join. -/
theorem parse_negated (c : Char) : parse ['^', c] = [single c true] := by
  simp [parse]

/-- A join of three characters.  A `^` in front of it is a bound, for a negated join has
    four of them. -/
theorem parse_joined (a b : Char) : parse [a, '-', b] = [between a b false] := by
  simp [parse]

theorem parse_negated_joined (a b : Char) : parse ['^', a, '-', b] = [between a b true] := by
  simp [parse]

/-- **WHAT A RANGE IS WRITTEN AS IS READ AS THAT RANGE** alone. -/
theorem parse_definition (r : CharRange) : parse r.definition = [r] := by
  obtain ⟨span, negated⟩ := r
  -- One bound is written if there is but one, so the cases are the four forms.
  by_cases hone : span.first = span.last
  · have hsingle : span = .single span.first := by
      obtain ⟨first, last, ordered⟩ := span
      cases hone
      rfl
    cases negated with
    | false =>
        show parse span.definition = _
        rw [CharSpan.definition, if_pos hone, parse_last, single, ← hsingle]
    | true =>
        show parse ('^' :: span.definition) = _
        rw [CharSpan.definition, if_pos hone, parse_negated, single, ← hsingle]
  · cases negated with
    | false =>
        show parse span.definition = _
        rw [CharSpan.definition, if_neg hone, parse_joined, between_of_ordered]
    | true =>
        show parse ('^' :: span.definition) = _
        rw [CharSpan.definition, if_neg hone, parse_negated_joined, between_of_ordered]

/-- Ranges whose bounds are signs of the forms: all from `-` to `^`, and all but `^`. -/
example : parse ['-', '-', '^'] = [between '-' '^' false] ∧ parse ['^', '^'] = [single '^' true] := by
  decide

end CharRange

/-! ## Definitions of sets -/

namespace CharSet

/-- One more range of a list, kept unless it is there. -/
def keepNew (kept : List CharRange) (r : CharRange) : List CharRange :=
  if r ∈ kept then kept else kept ++ [r]

theorem keepNew_nodup {kept : List CharRange} (h : kept.Nodup) (r : CharRange) :
    (keepNew kept r).Nodup := by
  rw [keepNew]
  split_ifs with hmem
  · exact h
  · exact h.append (List.nodup_singleton r) (List.disjoint_singleton.mpr hmem)

theorem foldl_keepNew_nodup (ranges : List CharRange) {kept : List CharRange} (h : kept.Nodup) :
    (ranges.foldl keepNew kept).Nodup := by
  induction ranges generalizing kept with
  | nil => exact h
  | cons r rest ih => exact ih (keepNew_nodup h r)

/-- No range is kept twice. -/
theorem keepFirst_nodup (ranges : List CharRange) : (keepFirst ranges).Nodup :=
  foldl_keepNew_nodup ranges List.nodup_nil

/-- Where no range is repeated, all of them are new. -/
theorem foldl_keepNew_of_nodup {ranges kept : List CharRange} (h : (kept ++ ranges).Nodup) :
    ranges.foldl keepNew kept = kept ++ ranges := by
  induction ranges generalizing kept with
  | nil => exact (List.append_nil kept).symm
  | cons r rest ih =>
      have hnew : r ∉ kept := by
        intro hmem
        exact (List.nodup_append.mp h).2.2 r hmem r List.mem_cons_self rfl
      rw [List.foldl_cons, keepNew, if_neg hnew, ih]
      · rw [List.append_assoc, List.singleton_append]
      · rwa [List.append_assoc, List.singleton_append]

theorem keepFirst_of_nodup {ranges : List CharRange} (h : ranges.Nodup) :
    keepFirst ranges = ranges := by
  have hnew : ([] ++ ranges).Nodup := h
  exact foldl_keepNew_of_nodup hnew

/-- What a set is written as: the definitions of its ranges, in their order. -/
def written (s : CharSet) : List (List Char) := s.ranges.map CharRange.definition

/-- What is written of ranges names these ranges, in their order. -/
theorem rangesOf_written (s : CharSet) : rangesOf (s.written.map some) = s.ranges := by
  obtain ⟨ranges⟩ := s
  induction ranges with
  | nil => rfl
  | cons r rest ih =>
      show CharRange.parse r.definition ++ rangesOf ((CharSet.mk rest).written.map some) = r :: rest
      rw [CharRange.parse_definition, ih]
      rfl

theorem ofDefinitions_written {s : CharSet} (h : s.ranges.Nodup) :
    ofDefinitions (s.written.map some) = s := by
  rw [ofDefinitions, rangesOf_written, keepFirst_of_nodup h]

/-! ## Deleting by a complement -/

theorem ofDefinitions_single (r : CharRange) : ofDefinitions [some r.definition] = ⟨[r]⟩ :=
  ofDefinitions_written (s := ⟨[r]⟩) (List.nodup_singleton r)

theorem contains_single (r : CharRange) (c : Char) :
    (ofDefinitions [some r.definition]).contains c = r.contains c := by
  rw [ofDefinitions_single]
  exact Bool.or_false _

theorem blankDefinitions_single (r : CharRange) : blankDefinitions [some r.definition] = false := by
  show ((r.definition).isEmpty && true) = false
  rw [List.isEmpty_eq_false_iff.mpr r.definition_ne_nil]
  rfl

/-- **WHAT THE COMPLEMENT OF A RANGE DELETES** leaves what the range keeps. -/
theorem delete_complement (s : Option (List Char)) (r : CharRange) :
    delete s [some r.complement.definition] = keep s [some r.definition] := by
  cases s with
  | none => rfl
  | some text =>
      refine congrArg some ?_
      show (if text.isEmpty || _ then text else _) = if text.isEmpty || _ then [] else _
      rw [blankDefinitions_single, blankDefinitions_single, Bool.or_false]
      split_ifs with hempty
      · exact List.isEmpty_iff.mp hempty
      · refine List.filter_congr ?_
        intro c _
        rw [contains_single, contains_single, CharRange.contains_complement, Bool.not_not]

/-- **DEFINITIONS ARE READ BACK.**  What a range is written as is read as that range alone.
    The definitions that a set is shown by describe that set, with its ranges in their order.
    And to delete by the definition of a complement is to keep by that of the range. -/
theorem definitions_read_back :
    (∀ r : CharRange, CharRange.parse r.definition = [r]) ∧
    (∀ definitions : List (Option (List Char)),
      (ofDefinitions definitions).shown = "CharSet(" ++ String.intercalate ", "
        ((ofDefinitions definitions).written.map fun d => Text.quoted (String.ofList d)) ++ ")" ∧
      ofDefinitions ((ofDefinitions definitions).written.map some) = ofDefinitions definitions) ∧
    ∀ (s : Option (List Char)) (r : CharRange),
      delete s [some r.complement.definition] = keep s [some r.definition] := by
  refine ⟨CharRange.parse_definition, ?_, delete_complement⟩
  intro definitions
  constructor
  · rw [written, List.map_map]
    rfl
  · exact ofDefinitions_written (keepFirst_nodup _)

end CharSet

end Likeness
