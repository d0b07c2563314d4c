import Likeness.Value.Equality
import Mathlib.Data.Fin.Basic
import Mathlib.Data.List.Basic

/-! # Texts by their code points

    A text is a list of code points.  A value holds it as characters if it can, and by
    the numbers of the code points if some of them are halves of characters
    (`ofPoints_cases`).  Which of the two it is does not show in its items, nor in what it
    is equal to (`equal_ofPoints`). -/

namespace Likeness.Value

/-- A code point: that of a character, or of half a character. -/
abbrev CodePoint := Fin 0x110000

/-- The text of some code points. -/
def ofPoints (s : List CodePoint) : Value :=
  ofCodes (s.map Fin.val)

/-- A code point that is no half is that of a character. -/
theorem toNat_ofNat_of_whole {p : Nat} (hp : p < 0x110000) (hwhole : isHalf p = false) :
    (Char.ofNat p).toNat = p := by
  have hvalid : p.isValidChar := by
    rw [isHalf, Bool.and_eq_false_iff, decide_eq_false_iff_not, decide_eq_false_iff_not] at hwhole
    rw [Nat.isValidChar]
    omega
  rw [Char.ofNat, dif_pos hvalid]
  rfl

theorem ofPoints_cases (s : List CodePoint) :
    (∃ cs : List Char, ofPoints s = ofChars cs ∧ cs.map Char.toNat = s.map Fin.val ∧
      ∀ p ∈ s, isHalf p = false) ∨
    (ofPoints s = illFormed (s.map Fin.val) ∧ ∃ p ∈ s, isHalf p = true) := by
  by_cases hhalf : (s.map Fin.val).any isHalf = true
  · refine Or.inr ⟨if_pos hhalf, ?_⟩
    obtain ⟨n, hn, hhalf⟩ := List.any_eq_true.mp hhalf
    obtain ⟨p, hp, rfl⟩ := List.mem_map.mp hn
    exact ⟨p, hp, hhalf⟩
  · have hwhole : ∀ p ∈ s, isHalf p = false := by
      intro p hp
      rw [Bool.not_eq_true, List.any_eq_false] at hhalf
      exact Bool.eq_false_iff.mpr (hhalf p (List.mem_map_of_mem hp))
    refine Or.inl ⟨_, if_neg hhalf, ?_, hwhole⟩
    rw [List.map_map, List.map_map]
    exact List.map_congr_left fun p hp => toNat_ofNat_of_whole p.isLt (hwhole p hp)

theorem ofPoints_single (p : CodePoint) : ofPoints [p] = ofCodes [p.val] :=
  rfl

/-- The items of a text are the texts of its code points. -/
theorem items?_ofPoints (s : List CodePoint) :
    (ofPoints s).items? = some (s.map fun p => ofPoints [p]) := by
  rcases ofPoints_cases s with ⟨cs, hs, hcodes, hwhole⟩ | ⟨hs, -⟩
  · have hchars : cs = s.map fun p => Char.ofNat p.val := by
      have hback := congrArg (List.map Char.ofNat) hcodes
      rw [List.map_map, List.map_map] at hback
      rw [← List.map_id cs]
      exact (List.map_congr_left fun c _ => (Char.ofNat_toNat c).symm).trans hback
    rw [hs]
    show some ((String.ofList cs).toList.map fun c => ofChars [c]) = _
    rw [String.toList_ofList, hchars, List.map_map]
    refine congrArg some (List.map_congr_left fun p hp => ?_)
    have hsingle : ([p.val].any isHalf) = false := by
      rw [List.any_cons, hwhole p hp]
      rfl
    rw [ofPoints_single, ofCodes, hsingle]
    rfl
  · rw [hs]
    show some ((s.map Fin.val).map fun c => ofCodes [c]) = _
    rw [List.map_map]
    rfl

theorem map_val_injective : Function.Injective (List.map (Fin.val : CodePoint → Nat)) :=
  List.map_injective_iff.mpr Fin.val_injective

/-- Texts are equal when their code points are the same. -/
theorem equal_ofPoints (s t : List CodePoint) : (ofPoints s).equal (ofPoints t) = decide (s = t) := by
  rw [Bool.eq_iff_iff, decide_eq_true_eq]
  rcases ofPoints_cases s with ⟨cs, hs, hcs, hwhole⟩ | ⟨hs, p, hp, hhalf⟩
  · rcases ofPoints_cases t with ⟨ds, ht, hds, -⟩ | ⟨ht, q, hq, hhalf⟩
    · rw [hs, ht]
      show (String.ofList cs == String.ofList ds) = true ↔ s = t
      rw [beq_iff_eq, String.ofList_inj, ← map_val_injective.eq_iff, ← hcs, ← hds]
      refine ⟨fun h => h ▸ rfl, fun h => ?_⟩
      exact (List.map_injective_iff.mpr fun c d => Char.toNat_inj.mp) h
    · rw [hs, ht]
      refine iff_of_false Bool.false_ne_true ?_
      rintro rfl
      exact Bool.false_ne_true ((hwhole q hq).symm.trans hhalf)
  · rcases ofPoints_cases t with ⟨ds, ht, -, hwhole⟩ | ⟨ht, -⟩
    · rw [hs, ht]
      refine iff_of_false Bool.false_ne_true ?_
      rintro rfl
      exact Bool.false_ne_true ((hwhole p hp).symm.trans hhalf)
    · rw [hs, ht]
      show (s.map Fin.val == t.map Fin.val) = true ↔ s = t
      rw [beq_iff_eq, map_val_injective.eq_iff]

end Likeness.Value
