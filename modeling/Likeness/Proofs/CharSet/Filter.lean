import Likeness.Proofs.CharSet.Membership

/-! # What is kept and what is deleted

    A character of a text is kept when it belongs to the set and deleted otherwise, so the
    kept and the left characters are each in their order and together the text
    (`interleaves_filter`).  The other operations are read off these two
    (`keep_delete_complementary`). -/

namespace Likeness

variable {α : Type}

/-! ## Interleaving -/

/-- The third sequence consists of the first and the second, each in its order. -/
inductive Interleaves : List α → List α → List α → Prop where
  | nil : Interleaves [] [] []
  | left {x : α} {xs ys zs : List α} (h : Interleaves xs ys zs) :
      Interleaves (x :: xs) ys (x :: zs)
  | right {y : α} {xs ys zs : List α} (h : Interleaves xs ys zs) :
      Interleaves xs (y :: ys) (y :: zs)

theorem Interleaves.length_eq {xs ys zs : List α} (h : Interleaves xs ys zs) :
    xs.length + ys.length = zs.length := by
  induction h with
  | nil => rfl
  | left _ ih => rw [List.length_cons, List.length_cons, Nat.add_right_comm, ih]
  | right _ ih => rw [List.length_cons, List.length_cons, ← Nat.add_assoc, ih]

/-- What passes a test and what does not make up the whole. -/
theorem interleaves_filter (p : α → Bool) (zs : List α) :
    Interleaves (zs.filter p) (zs.filter fun z => !p z) zs := by
  induction zs with
  | nil => exact .nil
  | cons z zs ih =>
      by_cases hz : p z = true
      · rw [List.filter_cons_of_pos hz, List.filter_cons_of_neg (by simp [hz])]
        exact ih.left
      · rw [List.filter_cons_of_neg hz, List.filter_cons_of_pos (by simp [hz])]
        exact ih.right

namespace CharSet

variable {definitions : List (Option (List Char))} {text : List Char}

/-! ## Texts of members, and of strangers -/

theorem keep_of_members (h : ∀ c ∈ text, (ofDefinitions definitions).contains c = true) :
    keep (some text) definitions = some text ∧ delete (some text) definitions = some [] := by
  rw [keep_eq, delete_eq]
  constructor
  · exact congrArg some (List.filter_eq_self.mpr h)
  · refine congrArg some (List.filter_eq_nil_iff.mpr ?_)
    intro c hc
    rw [h c hc]
    exact Bool.false_ne_true

theorem keep_of_strangers (h : ∀ c ∈ text, (ofDefinitions definitions).contains c = false) :
    keep (some text) definitions = some [] ∧ delete (some text) definitions = some text := by
  rw [keep_eq, delete_eq]
  constructor
  · refine congrArg some (List.filter_eq_nil_iff.mpr ?_)
    intro c hc
    exact Bool.eq_false_iff.mp (h c hc)
  · refine congrArg some (List.filter_eq_self.mpr ?_)
    intro c hc
    rw [h c hc, Bool.not_false]

/-- Something is found when anything is counted. -/
theorem containsAny_iff {s : Option (List Char)} :
    containsAny s definitions = true ↔ 0 < count s definitions := by
  rw [containsAny_eq, count_eq, List.any_eq_true, List.countP_pos_iff]

/-! ## The two parts of a text -/

/-- **KEEPING AND DELETING ARE COMPLEMENTARY.**  A text is the kept and the left characters,
    each in their order, and the kept ones are those that belong to the set.  As many are
    kept as are counted, and something is found when anything is counted.  Keeping again or
    deleting again changes nothing, and of what the one operation leaves the other takes all. -/
theorem keep_delete_complementary (text : List Char) (definitions : List (Option (List Char))) :
    ∃ kept left : List Char,
      keep (some text) definitions = some kept ∧ delete (some text) definitions = some left ∧
      Interleaves kept left text ∧
      (∀ c ∈ kept, (ofDefinitions definitions).contains c = true) ∧
      (∀ c ∈ left, (ofDefinitions definitions).contains c = false) ∧
      kept.length = count (some text) definitions ∧
      left.length + count (some text) definitions = text.length ∧
      (containsAny (some text) definitions = true ↔ 0 < count (some text) definitions) ∧
      keep (some kept) definitions = some kept ∧ delete (some left) definitions = some left ∧
      keep (some left) definitions = some [] ∧ delete (some kept) definitions = some [] := by
  let p := (ofDefinitions definitions).contains
  have hmembers : ∀ c ∈ text.filter p, p c = true := by
    intro c hc
    exact List.of_mem_filter hc
  have hstrangers : ∀ c ∈ text.filter (fun c => !p c), p c = false := by
    intro c hc
    have hneg : (!p c) = true := (List.mem_filter.mp hc).2
    rwa [Bool.not_eq_true'] at hneg
  have hcount : (text.filter p).length = count (some text) definitions := by
    rw [count_eq]
    exact List.countP_eq_length_filter.symm
  have hparts : Interleaves (text.filter p) (text.filter fun c => !p c) text :=
    interleaves_filter p text
  -- The laws about a second pass hold of any text of members or of strangers.
  refine ⟨text.filter p, text.filter fun c => !p c, keep_eq _, delete_eq _, hparts, hmembers,
    hstrangers, hcount, ?_, containsAny_iff, (keep_of_members hmembers).1,
    (keep_of_strangers hstrangers).2, (keep_of_strangers hstrangers).1,
    (keep_of_members hmembers).2⟩
  rw [← hcount, Nat.add_comm, hparts.length_eq]

end CharSet

end Likeness
