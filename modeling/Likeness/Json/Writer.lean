import Likeness.Json.Quoted
import Likeness.Json.Reader
import Likeness.Text.Draft

/-!
# Writing JSON

Values are written on one line, or with every item on a line of its own.  Not
every value has a form in JSON; writing then breaks off where it is met.  Names
of entries are texts; numbers, truth values and null are written as texts there.
-/

namespace Likeness.Json

open Text (Draft)

/-- How the parts of an array or object are set apart: on one line, or on lines
    of their own with a text in front of them for each level. -/
structure Layout where
  indent : Option (List Char)
  deriving Repr, DecidableEq

/-- Everything on one line. -/
def Layout.inline : Layout := ⟨none⟩

/-- Parts on lines of their own that are moved in by a number of blanks. -/
def Layout.blanks (n : Nat) : Layout := ⟨some (List.replicate n ' ')⟩

/-- The layout that a value asks for: one line, a number of blanks, or a text. -/
def Layout.ofValue : Value → Except Fault Layout
  | .null => .ok inline
  | .text s => .ok ⟨some s.toList⟩
  | v => v.int?.elim (.error .wrongKind) fun n => .ok (blanks n.toNat)

/-- What stands in front of an item at a level, behind the bracket or the comma. -/
def Layout.lead (l : Layout) (level : Nat) : List Char :=
  match l.indent with
  | none => []
  | some s => '\n' :: (List.replicate level s).flatten

/-- What stands between two items at a level. -/
def Layout.comma (l : Layout) (level : Nat) : List Char :=
  match l.indent with
  | none => [',', ' ']
  | some _ => ',' :: l.lead level

/-- An integer; very long ones are not written. -/
def integer (n : Int) : Except Fault (List Char) :=
  let cs := (Decimal.intText n).toList
  if digitLimit < (Decimal.digitsOf n.natAbs).length then .error (.tooManyDigits none) else .ok cs

/-- The halves of characters that lead a list of code points. -/
def leadingHalves (codes : List Nat) : Nat := (codes.takeWhile Value.isHalf).length

/-- The fault of code points that are to be written behind some characters, at the
    first of them that is half of a character. -/
def notEncodable (front : List Char) (codes : List Nat) : Fault :=
  let whole := codes.takeWhile fun c => !Value.isHalf c
  let rest := codes.drop whole.length
  .notEncodable (rest.headD 0) (front.length + whole.length) (leadingHalves rest)

/-- The form of a value that has no parts; none for arrays, objects and what has
    no form in JSON. -/
def scalarForm? : Value → Option (Except Fault (List Char))
  | .null => some (.ok "null".toList)
  | .bool b => some (.ok (if b then "true".toList else "false".toList))
  | .int n => some (integer n)
  | .real x => some (.ok (Decimal.Layout.json.text x).toList)
  | .text s => some (.ok (Quoted.encode s.toList))
  | .nan _ => some (.ok (Decimal.Layout.json.text (0 / 0)).toList)
  | .illFormed codes => some (.error (notEncodable [] (Quoted.encodeCodes codes)))
  | _ => none

/-- The name of an entry. -/
def nameForm : Value → Except Fault (List Char)
  | .text s => .ok (Quoted.encode s.toList)
  | .illFormed codes => .error (notEncodable [] (Quoted.encodeCodes codes))
  | v =>
    match scalarForm? v with
    | some form => form.map fun cs => '"' :: cs ++ ['"']
    | none => .error .wrongKind

mutual

/-- A value at a level. -/
def draft (l : Layout) (level : Nat) (v : Value) : Draft :=
  match v with
  | .list xs | .tuple xs =>
    if xs.isEmpty then .of "[]".toList
    else
      draftItems l (level + 1) ('[' :: l.lead (level + 1)) xs ++ .of (l.lead level) ++ .of [']']
  | .dict es =>
    if es.isEmpty then .of "\x7b\x7d".toList
    else
      .of ('\x7b' :: l.lead (level + 1)) ++ draftEntries l (level + 1) [] es ++ .of (l.lead level)
        ++ .of ['\x7d']
  | v =>
    match scalarForm? v with
    | some form => .ofExcept form
    | none => .stop .wrongKind
termination_by structural v

/-- Items, each behind what stands in front of it.  A number that is too long is
    found out before anything of it is written. -/
def draftItems (l : Layout) (level : Nat) (front : List Char) (xs : List Value) : Draft :=
  match xs with
  | [] => .of []
  | x :: xs =>
    (match scalarForm? x with
      | some form => .ofExcept (form.map fun cs => front ++ cs)
      | none => .of front ++ draft l level x)
      ++ draftItems l level (l.comma level) xs
termination_by structural xs

/-- Entries, each behind what stands in front of it. -/
def draftEntries (l : Layout) (level : Nat) (front : List Char)
    (es : List (Value × Value)) : Draft :=
  match es with
  | [] => .of []
  | (k, v) :: es =>
    .ofExcept ((nameForm k).map fun cs => front ++ cs) ++ .of [':', ' '] ++ draft l level v
      ++ draftEntries l level (l.comma level) es
termination_by structural es

end

/-- A value in JSON. -/
def write (l : Layout) (v : Value) : Draft := draft l 0 v

end Likeness.Json
