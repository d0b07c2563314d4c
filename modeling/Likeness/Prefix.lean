/-!
# Shared prefixes

Where two sequences first differ, what of a text lies behind that place, and the
longest prefix that several texts share.  A text is a list of characters or of code
points; all that matters is which of them are the same.
-/

namespace Likeness

variable {α : Type}

/-- How many leading items two sequences share. -/
def sharedLength (same : α → α → Bool) : List α → List α → Nat
  | x :: xs, y :: ys => if same x y then sharedLength same xs ys + 1 else 0
  | _, _ => 0

/-- The first place where two sequences differ, or where one of them ends before
    the other; none when they are equal. -/
def firstDifference? (same : α → α → Bool) (a b : List α) : Option Nat :=
  let n := sharedLength same a b
  if n = a.length ∧ n = b.length then none else some n

variable [DecidableEq α]

/-- The tail of the second text from the first difference on; an absent text
    leaves the other as it is. -/
def difference : Option (List α) → Option (List α) → Option (List α)
  | none, b => b
  | a, none => a
  | some a, some b =>
    match firstDifference? (· == ·) a b with
    | none => some []
    | some n => some (b.drop n)

/-- The first shortest of some texts. -/
def shortestOf (first : List α) : List (List α) → List α
  | [] => first
  | s :: rest => shortestOf (if s.length < first.length then s else first) rest

/-- Whether some text has another character at a place.  They are asked one after
    another up to the first that has; a text that has none there is a failure. -/
def differsAt? (i : Nat) (c : α) : List (List α) → Option Bool
  | [] => some false
  | s :: rest =>
    match s[i]? with
    | none => none
    | some d => if d = c then differsAt? i c rest else some true

/-- The characters of one text, from a place on, up to the first at which some text
    differs. -/
def agreeing? (texts : List (List α)) : Nat → List α → Option (List α)
  | _, [] => some []
  | i, c :: rest =>
    match differsAt? i c texts with
    | none => none
    | some true => some []
    | some false => (agreeing? texts (i + 1) rest).map (c :: ·)

/-- The longest prefix shared by all texts: empty when there is none, or when one is
    absent or empty. -/
def commonPrefix? (texts : List (Option (List α))) : Option (List α) :=
  match texts.mapM (·.filter (· ≠ [])) with
  | some (s :: rest) => agreeing? (s :: rest) 0 (shortestOf s rest)
  | _ => some []

end Likeness
