import Likeness.Match.Subsequence

/-! # Bounds of the query score

    A character of a query scores three points at most, and case folding makes
    three characters of one at most.  The first character found has none before it
    and scores one; a query that is looked up in itself loses nothing else
    (`subsequenceScore_le_self`). -/

namespace Likeness

namespace Text

theorem length_foldChar_le (c : Char) : (foldChar c).length ≤ 3 := by
  have hexpansions : ∀ e ∈ foldingExpansions, e.2.length ≤ 3 := by decide
  unfold foldChar CaseTable.image
  cases hcodes : foldingTable.expansions.lookup c.toNat with
  | some codes =>
      obtain ⟨front, back, happ, -⟩ := List.lookup_eq_some_iff.mp hcodes
      have hmem : (c.toNat, codes) ∈ foldingExpansions := by
        show _ ∈ foldingTable.expansions
        rw [happ]
        simp
      simpa using hexpansions _ hmem
  | none =>
      cases foldingTable.shifts.find? (·.covers c.toNat) with
      | some s => simp
      | none => simp

theorem length_fold_le (s : List Char) : (fold s).length ≤ 3 * s.length := by
  induction s with
  | nil => exact Nat.le_refl 0
  | cons c cs ih =>
      have hc := length_foldChar_le c
      simp only [fold, List.flatMap_cons, List.length_append, List.length_cons] at ih ⊢
      omega

end Text

namespace Match

theorem scoreFrom_le (adjacent : Bool) (term query : List Char) :
    scoreFrom adjacent term query ≤ 3 * query.length := by
  fun_induction scoreFrom adjacent term query with
  | case1 => simp
  | case2 => simp
  | case3 adjacent t term q query heq ih =>
      simp only [List.length_cons]
      split <;> omega
  | case4 adjacent t term q query hne ih =>
      simpa using ih

/-- Without a character before it, the first one found scores two points less. -/
theorem scoreFrom_false_le (term query : List Char) :
    scoreFrom false term query ≤ 3 * query.length - 2 := by
  induction term with
  | nil =>
      cases query with
      | nil => exact Nat.le_refl 0
      | cons q query => exact Nat.zero_le _
  | cons t term ih =>
      cases query with
      | nil => exact Nat.le_refl 0
      | cons q query =>
          rw [scoreFrom]
          split
          · have hrest := scoreFrom_le true term query
            rw [List.length_cons]
            show 1 + _ ≤ _
            omega
          · exact ih

theorem scoreFrom_true_self (query : List Char) :
    scoreFrom true query query = 3 * query.length := by
  induction query with
  | nil => rfl
  | cons q query ih =>
      rw [scoreFrom, if_pos (beq_self_eq_true q), ih, List.length_cons]
      show 3 + _ = _
      omega

theorem scoreFrom_false_self (query : List Char) :
    scoreFrom false query query = 3 * query.length - 2 := by
  cases query with
  | nil => rfl
  | cons q query =>
      rw [scoreFrom, if_pos (beq_self_eq_true q), scoreFrom_true_self, List.length_cons]
      show 1 + _ = _
      omega

/-- **NO TERM SCORES A QUERY HIGHER** than the query itself. -/
theorem subsequenceScore_le_self (term query : List Char) :
    subsequenceScore term query ≤ subsequenceScore query query := by
  rw [subsequenceScore, subsequenceScore, scoreFrom_false_self]
  exact scoreFrom_false_le _ _

theorem subsequenceScore_le (term query : List Char) :
    subsequenceScore term query ≤ 9 * query.length := by
  have hscore := scoreFrom_le false (Text.fold term) (Text.fold query)
  have hfold := Text.length_fold_le query
  unfold subsequenceScore
  omega

end Match

end Likeness
