import Likeness.Decimal.Shortest

/-!
# How numbers are written

Numbers appear in messages, in JSON and in tables.  In messages and JSON a
double is written with the fewest digits that read back; in tables it has a
fixed number of places.  Which exponents are written positionally and how the
exponent looks are the fields of one `Layout`.
-/

namespace Likeness.Decimal

/-- The decisions of a number format beyond the digits. -/
structure Layout where
  /-- Exponents of the leading digit from here on are written positionally. -/
  plainFrom : Int
  /-- Exponents of the leading digit from here on need an exponent. -/
  plainBelow : Int
  /-- The least number of exponent digits. -/
  exponentWidth : Nat
  /-- The texts of the values that have no digits. -/
  nan : String
  infinity : String

/-- Doubles in messages are positional for exponents from -4 to 15, and name
    the special values in lower case. -/
def Layout.message : Layout where
  plainFrom := -4
  plainBelow := 16
  exponentWidth := 2
  nan := "nan"
  infinity := "inf"

/-- Doubles in JSON files differ from those in messages in the special values. -/
def Layout.json : Layout where
  plainFrom := -4
  plainBelow := 16
  exponentWidth := 2
  nan := "NaN"
  infinity := "Infinity"

/-- The decimal digits of a natural number. -/
def digitsOf (n : Nat) : List Char := Nat.toDigits 10 n

/-- An integer in decimal. -/
def intText (n : Int) : String :=
  String.ofList (if n < 0 then '-' :: digitsOf n.natAbs else digitsOf n.natAbs)

/-- A list filled up on the left to a width. -/
def padLeft (width : Nat) (c : Char) (cs : List Char) : List Char :=
  List.replicate (width - cs.length) c ++ cs

/-- The digits of a decimal laid out: positionally with at least one place after
    the point, or with a signed exponent. -/
def Layout.digits (l : Layout) (d : Digits) : List Char :=
  let cs := digitsOf d.digits
  let lead : Int := d.exponent + cs.length - 1
  if l.plainFrom ≤ lead ∧ lead < l.plainBelow then
    if lead < 0 then
      '0' :: '.' :: (List.replicate (-lead - 1).toNat '0' ++ cs)
    else
      let whole := (lead + 1).toNat
      let places := cs.drop whole
      let front := cs.take whole ++ List.replicate (whole - cs.length) '0'
      front ++ '.' :: (if places.isEmpty then ['0'] else places)
  else
    let front := match cs with
      | [] => ['0']
      | [c] => [c]
      | c :: rest => c :: '.' :: rest
    let sign := if lead < 0 then '-' else '+'
    front ++ 'e' :: sign :: padLeft l.exponentWidth '0' (digitsOf lead.natAbs)

/-- A double written with the fewest digits that read back. -/
def Layout.text (l : Layout) (x : Float) : String :=
  match Reading.ofFloat x with
  | .nan => l.nan
  | .infinite negative => if negative then "-" ++ l.infinity else l.infinity
  | .finite negative m =>
    let cs := if m.mantissa = 0 then ['0', '.', '0'] else l.digits m.shortest
    String.ofList (if negative then '-' :: cs else cs)

/-- A double with a fixed number of places.  The exact binary value is rounded,
    a half to the even neighbour, and the sign stays even on a zero. -/
def fixedText (places : Nat) (x : Float) : String :=
  match Reading.ofFloat x with
  | .nan => "nan"
  | .infinite negative => if negative then "-inf" else "inf"
  | .finite negative m =>
    let (num, den) := m.ratio
    let cs := padLeft (places + 1) '0' (digitsOf (roundHalfEven (num * tenTo places) den))
    let cut := cs.length - places
    let body := cs.take cut ++ (if places = 0 then [] else '.' :: cs.drop cut)
    String.ofList (if negative then '-' :: body else body)

end Likeness.Decimal
