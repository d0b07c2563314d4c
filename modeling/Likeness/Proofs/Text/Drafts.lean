import Likeness.Text.Draft

/-! # Drafts that do not break off

    What is written by parts is finished when every part is, and it is then the
    parts one after another. -/

namespace Likeness.Text.Draft

theorem of_append_of (cs ds : List Char) : of cs ++ of ds = of (cs ++ ds) := rfl

theorem finished_eq_ok {d : Draft} {cs : List Char} (h : d.finished = .ok cs) : d = of cs := by
  obtain ⟨chars, fault⟩ := d
  cases fault with
  | none =>
      cases h
      rfl
  | some e => exact nomatch h

theorem ofExcept_eq_of {r : Except Fault (List Char)} {cs : List Char} (h : ofExcept r = of cs) :
    r = .ok cs := by
  cases r with
  | error e => exact nomatch congrArg fault h
  | ok ds => exact congrArg Except.ok (congrArg chars h)

/-- Both parts are finished. -/
theorem append_eq_of {d e : Draft} {cs : List Char} (h : d ++ e = of cs) :
    ∃ as bs, d = of as ∧ e = of bs ∧ cs = as ++ bs := by
  obtain ⟨as, fault⟩ := d
  cases fault with
  | some f => exact nomatch congrArg Draft.fault h
  | none =>
      refine ⟨as, e.chars, rfl, ?_, (congrArg chars h).symm⟩
      obtain ⟨bs, fault⟩ := e
      cases fault with
      | some f => exact nomatch congrArg Draft.fault h
      | none => rfl

/-- The first of the parts is finished, and so are the others. -/
theorem concat_cons_eq_of {d : Draft} {ds : List Draft} {cs : List Char}
    (h : concat (d :: ds) = of cs) :
    ∃ as bs, d = of as ∧ concat ds = of bs ∧ cs = as ++ bs :=
  append_eq_of (d := d) (e := concat ds) h

end Likeness.Text.Draft
