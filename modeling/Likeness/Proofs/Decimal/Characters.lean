import Likeness.Decimal.Layout
import Likeness.Decimal.Numeral
import Mathlib.Data.List.Basic

/-! # The characters of numbers

    Numbers are written with digits, signs, a point, a mark for the exponent and
    the letters of the values that have no digits.  So whatever a text does with
    blanks, quotes and the ends of lines, it leaves the numbers in it alone. -/

namespace Likeness.Decimal

/-- A character that numbers are written with. -/
def isNumeral (c : Char) : Bool := isDigit c || "+-.eINafinty".toList.contains c

theorem digitsOf_isDigit (n : Nat) : ∀ c ∈ digitsOf n, isDigit c = true := by
  intro c hc
  have hdigit := Nat.isDigit_of_mem_toDigits (by decide) (by decide) hc
  simp only [Char.isDigit, Bool.and_eq_true, decide_eq_true_eq] at hdigit
  rw [isDigit, Bool.and_eq_true, decide_eq_true_eq, decide_eq_true_eq]
  exact hdigit

theorem digitsOf_numeral (n : Nat) : (digitsOf n).all isNumeral = true := by
  rw [List.all_eq_true]
  intro c hc
  rw [isNumeral, digitsOf_isDigit n c hc]
  rfl

theorem digitsOf_ne_nil (n : Nat) : digitsOf n ≠ [] := Nat.toDigits_ne_nil

/-- A sign in front of a number, if there is one. -/
theorem signed_numeral {cs : List Char} (h : cs.all isNumeral = true) (negative : Bool) :
    (String.ofList (if negative then '-' :: cs else cs)).toList.all isNumeral = true := by
  rw [String.toList_ofList]
  cases negative with
  | false => exact h
  | true => exact h

theorem intText_numeral (n : Int) : (intText n).toList.all isNumeral = true := by
  have hsigned := signed_numeral (digitsOf_numeral n.natAbs) (decide (n < 0))
  rw [intText]
  simpa only [decide_eq_true_eq] using hsigned

theorem zeros_numeral (n : Nat) : (List.replicate n '0').all isNumeral = true := by
  rw [List.all_eq_true]
  intro c hc
  rw [List.eq_of_mem_replicate hc]
  rfl

theorem padLeft_numeral {cs : List Char} (h : cs.all isNumeral = true) (width : Nat) :
    (padLeft width '0' cs).all isNumeral = true := by
  rw [padLeft, List.all_append, zeros_numeral, h]
  rfl

theorem take_numeral {cs : List Char} (h : cs.all isNumeral = true) (n : Nat) :
    (cs.take n).all isNumeral = true := by
  rw [List.all_eq_true] at h ⊢
  exact fun c hc => h c (List.mem_of_mem_take hc)

theorem drop_numeral {cs : List Char} (h : cs.all isNumeral = true) (n : Nat) :
    (cs.drop n).all isNumeral = true := by
  rw [List.all_eq_true] at h ⊢
  exact fun c hc => h c (List.mem_of_mem_drop hc)

theorem Layout.digits_numeral (l : Layout) (d : Digits) :
    (l.digits d).all isNumeral = true := by
  have hcs := digitsOf_numeral d.digits
  unfold Layout.digits
  dsimp only
  generalize digitsOf d.digits = cs at hcs
  split_ifs
  · simp only [List.all_cons, List.all_append, zeros_numeral, hcs]
    rfl
  · simp only [List.all_cons, List.all_append, zeros_numeral, take_numeral hcs]
    rfl
  · simp only [List.all_cons, List.all_append, zeros_numeral, take_numeral hcs,
      drop_numeral hcs]
    rfl
  all_goals
    rw [List.all_append, Bool.and_eq_true, List.all_cons, List.all_cons,
      padLeft_numeral (digitsOf_numeral _)]
    refine ⟨?_, rfl⟩
    rcases cs with - | ⟨c, - | ⟨d, rest⟩⟩
    · rfl
    · exact hcs
    · rw [List.all_cons, Bool.and_eq_true] at hcs
      rw [List.all_cons, List.all_cons, hcs.1, hcs.2]
      rfl

theorem Layout.text_numeral {l : Layout} (hnan : l.nan.toList.all isNumeral = true)
    (hinfinity : l.infinity.toList.all isNumeral = true) (x : Float) :
    (l.text x).toList.all isNumeral = true := by
  unfold Layout.text
  cases Reading.ofFloat x with
  | nan => exact hnan
  | infinite negative =>
      cases negative with
      | false => exact hinfinity
      | true =>
          show ("-" ++ l.infinity).toList.all isNumeral = true
          rw [String.toList_append, List.all_append, hinfinity]
          rfl
  | finite negative m =>
      refine signed_numeral ?_ negative
      split_ifs
      · rfl
      · exact l.digits_numeral m.shortest

theorem fixedText_numeral (places : Nat) (x : Float) :
    (fixedText places x).toList.all isNumeral = true := by
  unfold fixedText
  cases Reading.ofFloat x with
  | nan => exact (by decide : "nan".toList.all isNumeral = true)
  | infinite negative =>
      cases negative with
      | false => exact (by decide : "inf".toList.all isNumeral = true)
      | true => exact (by decide : "-inf".toList.all isNumeral = true)
  | finite negative m =>
      dsimp only
      refine signed_numeral ?_ negative
      have hcs := padLeft_numeral
        (digitsOf_numeral (roundHalfEven (m.ratio.1 * tenTo places) m.ratio.2)) (places + 1)
      rw [List.all_append, take_numeral hcs]
      split_ifs
      · rfl
      · rw [List.all_cons, drop_numeral hcs]
        rfl

end Likeness.Decimal
