import Likeness.Decimal.Binary

/-!
# Reading numbers

Numbers arrive as text in files, in settings and on the command line.  What all
of these notations share is here: digits in a base, and the decimal notation of
a double with a point and an exponent.  Which of them a place admits is its own
decision.
-/

namespace Likeness.Decimal

/-- The value of a digit or letter in a base up to sixteen. -/
def digitIn? (base : Nat) (c : Char) : Option Nat :=
  let n :=
    if '0' ≤ c ∧ c ≤ '9' then c.toNat - 48
    else if 'a' ≤ c ∧ c ≤ 'f' then c.toNat - 87
    else if 'A' ≤ c ∧ c ≤ 'F' then c.toNat - 55
    else base
  if n < base then some n else none

/-- A decimal digit. -/
def isDigit (c : Char) : Bool := '0' ≤ c && c ≤ '9'

/-- The number that digit values spell in a base. -/
def ofDigits (base : Nat) (ds : List Nat) : Nat := ds.foldl (fun n d => base * n + d) 0

/-- One digit or more in a base, and nothing else. -/
def readNat? (base : Nat) (cs : List Char) : Option Nat :=
  if cs.isEmpty then none else (cs.mapM (digitIn? base)).map (ofDigits base)

/-- A sign in front of a text, and whether it is a minus. -/
def cutSign : List Char → Bool × List Char
  | '-' :: rest => (true, rest)
  | '+' :: rest => (false, rest)
  | cs => (false, cs)

/-- The exponent part of a decimal: nothing, or a mark with an integer. -/
def readExponent? : List Char → Option Int
  | [] => some 0
  | c :: rest =>
    if c = 'e' ∨ c = 'E' then
      let (negative, ds) := cutSign rest
      (readNat? 10 ds).map fun n => if negative then -(n : Int) else (n : Int)
    else none

/-- A decimal with an optional sign, point and exponent; a point needs a digit on
    one of its sides. -/
def readFloat? (cs : List Char) : Option Float :=
  let (negative, body) := cutSign cs
  let front := body.takeWhile isDigit
  let rest := body.dropWhile isDigit
  let (places, tail) :=
    match rest with
    | '.' :: rest => (rest.takeWhile isDigit, rest.dropWhile isDigit)
    | rest => ([], rest)
  match readNat? 10 (front ++ places), readExponent? tail with
  | some n, some e => some (Binary.ofDecimal negative n (e - places.length))
  | _, _ => none

/-- Letters of the ASCII range in lower case. -/
def lowerAscii (cs : List Char) : List Char := cs.map Char.toLower

/-- Infinity. -/
def infinity : Float := Binary.ofDecimal false 1 1000

/-- A decimal, or one of the special values by name in any case of letters. -/
def floatNotation? (cs : List Char) : Option Float :=
  let (negative, body) := cutSign cs
  let word := String.ofList (lowerAscii body)
  let special (x : Float) : Option Float := some (if negative then -x else x)
  if word = "inf" ∨ word = "infinity" then special infinity
  else if word = "nan" then special (0.0 / 0.0)
  else readFloat? cs

end Likeness.Decimal
