import Likeness.Text.Base64
import Likeness.Text.Small
import Likeness.Yaml.Cursor
import Likeness.Yaml.Form
import Likeness.Yaml.Numeral
import Likeness.Yaml.Refusal

/-!
# What scalars stand for

The value of a scalar with a tag.  The text need not have the form that the tag
suggests; what is wrong with it then depends on the tag.
-/

namespace Likeness.Yaml.Scalar

/-- A text without underscores. -/
def joined (codes : List Nat) : List Nat := codes.filter (· ≠ '_'.toNat)

/-- A text in small letters; halves of characters stay. -/
def small (codes : List Nat) : List Nat :=
  (codes.splitBy fun a b => Value.isHalf a == Value.isHalf b).flatMap fun part =>
    if part.any Value.isHalf then part else codesOf (Text.small (part.map Char.ofNat))

/-- The parts of a text between colons. -/
def parts (codes : List Nat) : List (List Nat) :=
  codes.foldr (fun c ps =>
    if c = ':'.toNat then [] :: ps
    else
      match ps with
      | [] => [[c]]
      | p :: ps => (c :: p) :: ps) [[]]

/-- A sign in front of a text, and whether it is a minus. -/
def cutSign (codes : List Nat) : Except Fault (Bool × List Nat) :=
  match codes with
  | [] => .error .noSuchPlace
  | c :: rest =>
    if c = '-'.toNat then .ok (true, rest)
    else if c = '+'.toNat then .ok (false, rest)
    else .ok (false, codes)

/-! ## Integers and numbers -/

/-- The integer of parts in base sixty. -/
def sexagesimal (parts : List Int) : Int := parts.foldl (fun n d => 60 * n + d) 0

/-- The integer of a text without its sign. -/
def magnitude (codes : List Nat) : Except Fault Int :=
  match codes with
  | [] => .error .noSuchPlace
  | c :: rest =>
    if c = '0'.toNat then
      match rest with
      | [] => .ok 0
      | m :: digits =>
        if m = 'b'.toNat then Numeral.integer 2 digits
        else if m = 'x'.toNat then Numeral.integer 16 digits
        else Numeral.integer 8 codes
    else if codes.contains ':'.toNat then
      ((parts codes).mapM (Numeral.integer 10)).map sexagesimal
    else Numeral.integer 10 codes

/-- The integer of a text. -/
def integer (codes : List Nat) : Except Fault Int := do
  let (negative, body) ← cutSign (joined codes)
  let n ← magnitude body
  .ok (if negative then -n else n)

/-- The number of parts in base sixty, summed up from the last part on.  The value of
    a place has to be in the range of numbers. -/
def sexagesimalNumber (parts : List Float) : Except Fault Float := do
  let (sum, _) ← parts.reverse.foldlM (fun ((sum : Float), (place : Int)) d =>
    match Scalar.ofInt? place with
    | some (scale : Float) => .ok (sum + d * scale, place * 60)
    | none => .error .outOfRange) ((0 : Float), (1 : Int))
  .ok sum

/-- The number of a text. -/
def number (codes : List Nat) : Except Fault Float := do
  let (negative, body) ← cutSign (small (joined codes))
  let x ←
    if body = codesOf ".inf".toList then .ok Decimal.infinity
    else if body = codesOf ".nan".toList then .ok (0 / 0)
    else if body.contains ':'.toNat then (parts body).mapM Numeral.number >>= sexagesimalNumber
    else Numeral.number body
  .ok (if negative then -x else x)

/-! ## Values -/

/-- The truth value of a word in any case of letters. -/
def truth (codes : List Nat) : Except Fault Bool :=
  let word := small codes
  if (Form.trueWords.map fun w => codesOf w.toList).contains word then .ok true
  else if (Form.falseWords.map fun w => codesOf w.toList).contains word then .ok false
  else .error (.noSuchKey (Text.quotedCodes word))

/-- Refuses a text that is no date, or the text of a date that does not exist. -/
def checkTime (codes : List Nat) : Except Fault Unit :=
  match Timestamp.read? false (Form.line (codes.map Char.ofNat)) with
  | none => .error .noSuchField
  | some t =>
    match t.problem? with
    | some p => .error (.noSuchTime p)
    | none => .ok ()

/-- The octets of a text. -/
def octets (codes : List Nat) : Except Fault (List UInt8) :=
  if codes.any (128 ≤ ·) then unmade
  else (Text.Base64.decode (codes.map Char.ofNat)).elim unmade .ok

/-- The value of a scalar with a tag; a date is a value that settings have no use
    for. -/
def value (tag : Tag) (codes : List Nat) : Except Fault Value :=
  match tag with
  | .null => .ok .null
  | .truth => (truth codes).map .bool
  | .integer => (integer codes).map .int
  | .number => (number codes).map .real
  | .time => (checkTime codes).map fun _ => .object []
  | .text => .ok (.ofCodes codes)
  | .octets => (octets codes).map (.bytes false)
  | .sequence | .mapping | .set | .orderedMapping | .pairs | .merge | .default | .unknown => unmade

end Likeness.Yaml.Scalar
