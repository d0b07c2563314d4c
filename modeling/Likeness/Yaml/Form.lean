import Likeness.Text.Split
import Likeness.Value.Basic
import Likeness.Yaml.Tag
import Likeness.Yaml.Timestamp

/-!
# What scalars look like

A plain scalar stands for what its form suggests: nothing, a truth value, an
integer, a number, a date, or else a text.  A line feed at its end does not count.
-/

namespace Likeness.Yaml.Form

/-- Words for nothing. -/
def nullWords : List String := ["", "~", "null", "Null", "NULL"]

/-- Words for true. -/
def trueWords : List String := ["yes", "Yes", "YES", "true", "True", "TRUE", "on", "On", "ON"]

/-- Words for false. -/
def falseWords : List String := ["no", "No", "NO", "false", "False", "FALSE", "off", "Off", "OFF"]

/-- A digit, or an underscore. -/
def isSpaced (p : Char → Bool) (c : Char) : Bool := p c || c == '_'

/-- A text behind its sign. -/
def unsigned (cs : List Char) : List Char := (Decimal.cutSign cs).2

/-- A digit, then digits and underscores. -/
def isDigits : List Char → Bool
  | [] => false
  | c :: rest => Decimal.isDigit c && rest.all (isSpaced Decimal.isDigit)

/-- One digit from another on, then digits and underscores. -/
def isPositive (cs : List Char) : Bool := isDigits cs && cs.head? ≠ some '0'

/-- A part behind a colon: a number below sixty in one digit or two. -/
def isSixtieth : List Char → Bool
  | [c] => Decimal.isDigit c
  | [c, d] => '0' ≤ c && c ≤ '5' && Decimal.isDigit d
  | _ => false

/-- Parts separated by colons, two at least; `first` is what the first has to be. -/
def isSexagesimal (first : List Char → Bool) (cs : List Char) : Bool :=
  match Text.splitWhen (· == ':') cs with
  | p :: q :: ps => first p && (q :: ps).all isSixtieth
  | _ => false

/-- An integer: in base two, eight, ten, sixteen or sixty. -/
def isInteger (cs : List Char) : Bool :=
  match unsigned cs with
  | ['0'] => true
  | '0' :: 'b' :: ds => !ds.isEmpty && ds.all (isSpaced fun c => c == '0' || c == '1')
  | '0' :: 'x' :: ds => !ds.isEmpty && ds.all (isSpaced fun c => (Decimal.digitIn? 16 c).isSome)
  | '0' :: ds => ds.all (isSpaced fun c => '0' ≤ c && c ≤ '7')
  | ds => isPositive ds || isSexagesimal isPositive ds

/-- An exponent, with its sign, or nothing. -/
def isExponent : List Char → Bool
  | [] => true
  | e :: sign :: ds =>
    (e == 'e' || e == 'E') && (sign == '+' || sign == '-') && !ds.isEmpty
      && ds.all Decimal.isDigit
  | _ => false

/-- Digits and underscores, then maybe an exponent. -/
def isFraction (cs : List Char) : Bool := isExponent (cs.dropWhile (isSpaced Decimal.isDigit))

/-- A number with a point: a decimal, one in base sixty, or a special value. -/
def isNumber (cs : List Char) : Bool :=
  let body := unsigned cs
  match body.dropWhile (· ≠ '.') with
  | [] => false
  | _ :: places =>
    let front := body.takeWhile (· ≠ '.')
    if front.isEmpty then
      ["inf".toList, "Inf".toList, "INF".toList].contains places
        || (body.length = cs.length
          && (["nan".toList, "NaN".toList, "NAN".toList].contains places
            || (places.head?.any Decimal.isDigit && isFraction places)))
    else
      (isDigits front && isFraction places)
        || (isSexagesimal isDigits front && places.all (isSpaced Decimal.isDigit))

/-- Marks that have no meaning alone. -/
def loneMarks : List String := ["!", "&", "*"]

/-- The tag that the form of a line suggests. -/
def tagOfLine (cs : List Char) : Tag :=
  let word := String.ofList cs
  if nullWords.contains word then .null
  else if trueWords.contains word || falseWords.contains word then .truth
  else if isNumber cs then .number
  else if isInteger cs then .integer
  else if (Timestamp.read? true cs).isSome then .time
  else if word = "<<" then .merge
  else if word = "=" then .default
  else if loneMarks.contains word then .unknown
  else .text

/-- A text without the line feed at its end; one that is nothing else keeps it. -/
def line (cs : List Char) : List Char :=
  if cs ≠ ['\n'] ∧ cs.getLast? = some '\n' then cs.dropLast else cs

/-- The tag that the form of a scalar suggests. -/
def tag (codes : List Nat) : Tag :=
  if codes.any Value.isHalf then .text else tagOfLine (line (codes.map Char.ofNat))

end Likeness.Yaml.Form
