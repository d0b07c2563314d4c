import Likeness.Proofs.Text.Utf8
import Likeness.Text.Blank

/-! # Reading lines that were written

    Lines without breaks in them, each with a line feed behind it, are the lines
    of the text; and a line that neither begins nor ends with a blank is not
    trimmed. -/

namespace Likeness.Text

/-! ## Breaks -/

theorem unifyBreaks_eq {cs : List Char} (h : '\r' ∉ cs) : unifyBreaks cs = cs := by
  fun_induction unifyBreaks cs with
  | case1 => rfl
  | case2 rest ih => exact absurd List.mem_cons_self h
  | case3 rest hfeed ih => exact absurd List.mem_cons_self h
  | case4 c rest hbreak hreturn ih => rw [ih fun hmem => h (List.mem_cons_of_mem _ hmem)]

theorem splitLines_cons {l : List Char} (h : '\n' ∉ l) (rest : List Char) :
    splitLines (l ++ '\n' :: rest) = (l :: (splitLines rest).1, (splitLines rest).2) := by
  induction l with
  | nil => rfl
  | cons c l ih =>
      rw [List.mem_cons, not_or] at h
      rw [List.cons_append, splitLines, ih h.2]
      exact if_neg (Ne.symm h.1)

/-- Lines are read as they were written. -/
theorem linesOf_lines {ls : List (List Char)} (h : ∀ l ∈ ls, '\n' ∉ l) :
    linesOf (ls.flatMap fun l => l ++ ['\n']) = ls := by
  have hsplit : splitLines (ls.flatMap fun l => l ++ ['\n']) = (ls, []) := by
    induction ls with
    | nil => rfl
    | cons l ls ih =>
        rw [List.flatMap_cons, List.append_assoc, List.singleton_append,
          splitLines_cons (h l List.mem_cons_self),
          ih fun l hl => h l (List.mem_cons_of_mem _ hl)]
  rw [linesOf, hsplit]
  rfl

/-- The lines of a file are those that were written into it. -/
theorem streamLines_encode {ls : List (List Char)} (h : ∀ l ∈ ls, '\n' ∉ l ∧ '\r' ∉ l) :
    streamLines (Utf8.encode (ls.flatMap fun l => l ++ ['\n'])) = ⟨ls, none⟩ := by
  have hreturn : '\r' ∉ ls.flatMap fun l => l ++ ['\n'] := by
    intro hmem
    obtain ⟨l, hl, hmem⟩ := List.mem_flatMap.mp hmem
    rcases List.mem_append.mp hmem with hmem | hmem
    · exact (h l hl).2 hmem
    · exact absurd (List.mem_singleton.mp hmem) (by decide)
  rw [streamLines, decodeStream_encode]
  show Streamed.mk (linesOf (unifyBreaks _)) none = _
  rw [unifyBreaks_eq hreturn, linesOf_lines fun l hl => (h l hl).1]

/-! ## Blanks at the ends -/

/-- A text that a class of characters leaves alone at both ends. -/
structure Framed (p : Char → Bool) (cs : List Char) : Prop where
  head : ∃ c, cs.head? = some c ∧ p c = false
  last : ∃ c, cs.getLast? = some c ∧ p c = false

theorem Framed.ne_nil {p : Char → Bool} {cs : List Char} (h : Framed p cs) : cs ≠ [] := by
  rintro rfl
  obtain ⟨c, hc, _⟩ := h.head
  exact nomatch hc

theorem dropWhile_eq {p : Char → Bool} {cs : List Char} (h : ∃ c, cs.head? = some c ∧ p c = false) :
    cs.dropWhile p = cs := by
  obtain ⟨c, hc, hp⟩ := h
  cases cs with
  | nil => rfl
  | cons d ds =>
      cases hc
      exact List.dropWhile_cons_of_neg (by rw [hp]; exact Bool.false_ne_true)

theorem trimBoth_framed {p : Char → Bool} {cs : List Char} (h : Framed p cs) :
    trimBoth p cs = cs := by
  have hlast : ∃ c, cs.reverse.head? = some c ∧ p c = false := by
    rw [List.head?_reverse]
    exact h.last
  rw [trimBoth, dropWhile_eq h.head, dropWhile_eq hlast, List.reverse_reverse]

end Likeness.Text
