import Likeness.Decimal.Numeral
import Likeness.Schema.Complaint
import Likeness.Text.Blank
import Likeness.Text.Utf8
import Likeness.Value.Equality

/-!
# Reading fields

A field holds a text, an integer, a number or a truth value.  The readings are
lenient: a number may be written as a text, a whole number may come as a double,
a truth value may come as a word.  What cannot be read is a problem of the field.
-/

namespace Likeness.Schema

/-- Octets as a text. -/
def octetText (octets : List UInt8) : Except Problem (List Char) :=
  let decoded := Text.Utf8.decode octets
  if decoded.fault.isSome then .error .textNotUtf8 else .ok decoded.chars

/-- The text of a field: a text, or octets in UTF-8. -/
def text : Value → Except Problem String
  | .text s => .ok s
  | .bytes _ octets => (octetText octets).map String.ofList
  | .illFormed _ => .error .textNotUtf8
  | _ => .error .noText

/-! ## Integers -/

/-- How many digits a written integer may have. -/
def integerLimit : Nat := 4300

/-- The sign and the digits of an integer in its plain form: a zero alone, or
    digits of which the first is none, behind a minus if it is negative.  What
    follows the digits is not looked at. -/
def leadingInteger? (cs : List Char) : Option (Bool × List Char × List Char) :=
  let (negative, body) := match cs with
    | '-' :: rest => (true, rest)
    | cs => (false, cs)
  match body with
  | [] => none
  | c :: rest =>
    if c = '0' then some (negative, ['0'], rest)
    else if Decimal.isDigit c then
      some (negative, c :: rest.takeWhile Decimal.isDigit, rest.dropWhile Decimal.isDigit)
    else none

/-- An integer in its plain form, or what is wrong with it: too many digits count
    before anything that follows them. -/
def plainInteger (cs : List Char) : Except Problem Int :=
  match leadingInteger? cs with
  | none => .error .integerUnreadable
  | some (negative, digits, rest) =>
    if integerLimit < digits.length then .error .integerTooLong
    else if !rest.isEmpty then .error .integerUnreadable
    else
      let n := (Decimal.readNat? 10 digits).getD 0
      .ok (if negative then -(n : Int) else (n : Int))

/-- What is left of a text that began with a zero, whose last zero or underscore
    was `last`: further zeros and underscores are dropped, but one character
    stays in front of a point or of the end. -/
def dropZeros (last : Char) : List Char → Option (List Char)
  | [] => some [last]
  | c :: rest =>
    if c = '0' ∨ c = '_' then dropZeros c rest
    else if c = '.' then some (last :: '.' :: rest)
    else if Decimal.isDigit c ∨ c = '-' then some (c :: rest)
    else none

/-- A text without leading zeros; one that begins with neither a digit nor a
    minus is no integer. -/
def cutLeadingZeros? : List Char → Option (List Char)
  | [] => none
  | '0' :: rest => dropZeros '0' rest
  | c :: rest => if Decimal.isDigit c ∨ c = '-' then some (c :: rest) else none

/-- A text without the leading zeros behind its minus, if it has one. -/
def cutSignedZeros? : List Char → Option (List Char)
  | '-' :: rest => (cutLeadingZeros? rest).map ('-' :: ·)
  | cs => cutLeadingZeros? cs

/-- A text without a fraction, if that has zeros only. -/
def cutZeroFraction (cs : List Char) : List Char :=
  match cs.dropWhile (· ≠ '.') with
  | _ :: places =>
    if !places.isEmpty && places.all (· = '0') then cs.takeWhile (· ≠ '.') else cs
  | [] => cs

/-- Two underscores stand side by side. -/
def hasDoubleUnderscore : List Char → Bool
  | '_' :: '_' :: _ => true
  | _ :: rest => hasDoubleUnderscore rest
  | [] => false

/-- A text without its underscores, if it has some and each stands between two
    other characters. -/
def cutUnderscores? (cs : List Char) : Option (List Char) :=
  if cs.contains '_' && cs.head? ≠ some '_' && cs.getLast? ≠ some '_'
      && !hasDoubleUnderscore cs then
    some (cs.filter (· ≠ '_'))
  else none

/-- A text freed of what an integer may carry besides its plain form: blanks at
    the ends, a plus, leading zeros, a zero fraction, underscores. -/
def strippedInteger? (cs : List Char) : Option (List Char) := do
  let trimmed := Text.trimBoth Text.isWhiteSpace cs
  let unsigned ← match trimmed with
    | '+' :: '-' :: _ => none
    | '+' :: rest => some rest
    | cs => some cs
  let whole := cutZeroFraction (← cutSignedZeros? unsigned)
  some ((cutUnderscores? whole).getD whole)

/-- An integer written as a text: in its plain form, or with what may be stripped
    from it.  Only the plain form is told that it has too many digits. -/
def integerOfText (cs : List Char) : Except Problem Int :=
  match plainInteger cs with
  | .error .integerUnreadable =>
    match strippedInteger? cs with
    | none => .error .integerUnreadable
    | some stripped => (plainInteger stripped).mapError fun _ => .integerUnreadable
  | outcome => outcome

/-- The integer that a double is. -/
def integerOfFloat (x : Float) : Except Problem Int :=
  match Decimal.Exact.ofFloat x with
  | .ratio num den =>
    match (Decimal.Exact.ratio num den).whole? with
    | none => .error .integerWithFraction
    | some n => if n.natAbs < twoTo 63 then .ok n else .error .integerTooLong
  | _ => .error .notFinite

/-- The integer of a field. -/
def integer : Value → Except Problem Int
  | .int n => .ok n
  | .bool b => .ok (if b then 1 else 0)
  | .real x => integerOfFloat x
  | .nan _ => .error .notFinite
  | .text s => integerOfText s.toList
  | .bytes false octets =>
    (octetText octets).mapError (fun _ => .integerUnreadable) >>= integerOfText
  | .illFormed _ => .error .textNotUtf8
  | _ => .error .noInteger

/-- An integer of a field that may not be negative. -/
def natural (v : Value) : Except Problem Nat := do
  let n ← integer v
  if n < 0 then .error .negative else .ok n.toNat

/-! ## Numbers -/

/-- A number written as a text, with blanks at the ends or underscores inside. -/
def numberOfText (cs : List Char) : Except Problem Float :=
  match Decimal.floatNotation? (Text.trimBoth Text.isWhiteSpace cs) with
  | some x => .ok x
  | none =>
    match (cutUnderscores? cs).bind Decimal.floatNotation? with
    | some x => .ok x
    | none => .error .numberUnreadable

/-- The number of a field. -/
def number : Value → Except Problem Float
  | .real x => .ok x
  | .nan bits => .ok (Float.ofBits bits)
  | .bool b => .ok (if b then 1 else 0)
  | .int n => (Scalar.ofInt? n).elim (.error .noNumber) .ok
  | .text s => numberOfText s.toList
  | .bytes false octets =>
    (octetText octets).mapError (fun _ => .numberUnreadable) >>= numberOfText
  | .illFormed _ => .error .textNotUtf8
  | _ => .error .noNumber

/-- A number of a field that is at least zero. -/
def magnitude (v : Value) : Except Problem Float := do
  let x ← number v
  if (0 : Float) ≤ x then .ok x else .error .negative

/-! ## Truth values -/

/-- The words for false. -/
def falseWords : List String := ["0", "off", "f", "false", "n", "no"]

/-- The words for true. -/
def trueWords : List String := ["1", "on", "t", "true", "y", "yes"]

/-- A truth value written as a word. -/
def truthOfText (cs : List Char) : Except Problem Bool :=
  let word := String.ofList (Decimal.lowerAscii cs)
  if falseWords.contains word then .ok false
  else if trueWords.contains word then .ok true
  else .error .truthValueUnreadable

/-- The truth value that an integer is. -/
def truthOfInteger (n : Int) : Except Problem Bool :=
  if n = 0 then .ok false
  else if n = 1 then .ok true
  else if -(twoTo 63) ≤ n ∧ n < twoTo 63 then .error .truthValueUnreadable
  else .error .noTruthValue

/-- The truth value of a field. -/
def truth : Value → Except Problem Bool
  | .bool b => .ok b
  | .int n => truthOfInteger n
  | .real x =>
    match integerOfFloat x with
    | .ok n => truthOfInteger n
    | .error _ => .error .noTruthValue
  | .text s => truthOfText s.toList
  | .bytes false octets =>
    (octetText octets).mapError (fun _ => .truthValueUnreadable) >>= truthOfText
  | .illFormed _ => .error .textNotUtf8
  | _ => .error .noTruthValue

/-! ## Fields -/

/-- The field of a mapping, or what it is when it is missing. -/
def optional {α : Type} (entries : List (Value × Value)) (name : String) (default : α)
    (read : Value → Except Problem α) : Except Complaint α :=
  match Value.field? name entries with
  | none => .ok default
  | some v => (read v).mapError fun p => ⟨some name, p⟩

/-- The field of a mapping that has to be there. -/
def required {α : Type} (entries : List (Value × Value)) (name : String)
    (read : Value → Except Problem α) : Except Complaint α :=
  match Value.field? name entries with
  | none => .error ⟨some name, .missing⟩
  | some v => (read v).mapError fun p => ⟨some name, p⟩

/-- A field that may hold nothing. -/
def nullable {α : Type} (read : Value → Except Problem α) : Value → Except Problem (Option α)
  | .null => .ok none
  | v => (read v).map some

/-- The complaint about a field that was refused. -/
def complaint? {α : Type} : Except Complaint α → Option Complaint
  | .ok _ => none
  | .error c => some c

end Likeness.Schema
