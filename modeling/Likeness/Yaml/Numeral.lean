import Likeness.Decimal.Numeral
import Likeness.Fault
import Likeness.Text.Blank
import Likeness.Text.DecimalDigit

/-!
# Numbers in scalars

A scalar that is said to be an integer or a number is read more leniently than its
form would allow: with the digits of any script, with blanks around it, and with the
mark of its base in front.  A text is given by its code points, because messages show
it as it was.
-/

namespace Likeness.Yaml.Numeral

/-- The characters of a text with the blanks and digits of all scripts as those of
    ASCII.  What is neither ends the text with a question mark, except in a text of
    ASCII alone. -/
def plain (codes : List Nat) : List Char :=
  if codes.all (· < 128) then codes.map Char.ofNat else go codes
where
  /-- The characters of a text that is not ASCII alone. -/
  go : List Nat → List Char
    | [] => []
    | code :: rest =>
      let c := Char.ofNat code
      if code < 127 then c :: go rest
      else if Text.isBlank c then ' ' :: go rest
      else
        match Text.digitValue? c with
        | some n => Char.ofNat (48 + n) :: go rest
        | none => ['?']

/-- A blank of ASCII. -/
def isBlank (c : Char) : Bool := c == ' ' || ('\t' ≤ c && c ≤ '\r')

/-- The letter that marks a base, in small letters. -/
def mark? (base : Nat) : Option Char :=
  match base with
  | 2 => some 'b'
  | 8 => some 'o'
  | 16 => some 'x'
  | _ => none

/-- A text without the mark of its base. -/
def cutMark (base : Nat) (cs : List Char) : List Char :=
  match cs with
  | '0' :: m :: rest => if some m.toLower = mark? base then rest else cs
  | cs => cs

/-- How many decimal digits an integer may have. -/
def digitLimit : Nat := 4300

/-- How much of a text that is no integer is shown. -/
def shownLimit : Nat := 200

/-- The text is no integer. -/
def noInteger {α : Type} (base : Nat) (codes : List Nat) : Except Fault α :=
  .error (.notInteger base (String.ofList ((Text.quotedCodes codes).toList.take shownLimit)))

/-- The integer that a text spells in a base.  Too many decimal digits count before
    anything that follows them. -/
def integer (base : Nat) (codes : List Nat) : Except Fault Int :=
  let (negative, body) := Decimal.cutSign ((plain codes).dropWhile isBlank)
  let body := cutMark base body
  let digits := body.takeWhile fun c => (Decimal.digitIn? base c).isSome
  let rest := body.drop digits.length
  if base = 10 ∧ digitLimit < digits.length then .error (.tooManyDigits (some digits.length))
  else
    match Decimal.readNat? base digits with
    | some n =>
      if rest.all isBlank then .ok (if negative then -(n : Int) else (n : Int))
      else noInteger base codes
    | none => noInteger base codes

/-- The number that a text spells. -/
def number (codes : List Nat) : Except Fault Float :=
  match Decimal.floatNotation? (Text.trimBoth isBlank (plain codes)) with
  | some x => .ok x
  | none => .error (.notNumber (Text.quotedCodes codes))

end Likeness.Yaml.Numeral
