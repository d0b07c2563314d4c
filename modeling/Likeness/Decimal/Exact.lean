import Likeness.Decimal.Binary

/-!
# Exact numbers

What a number denotes, without rounding: a fraction, or one of the special
values of doubles.  Numbers of different kinds are compared in this form, and
sums are taken in it.
-/

namespace Likeness.Decimal

/-- The number that something denotes. -/
inductive Exact where
  | nan
  | infinite (negative : Bool)
  /-- The quotient of an integer by a positive natural. -/
  | ratio (num : Int) (den : Nat)
  deriving Repr, DecidableEq

namespace Exact

/-- A natural with a sign. -/
def signed (negative : Bool) (n : Nat) : Int := if negative then -(n : Int) else (n : Int)

/-- The number that a double denotes. -/
def ofFloat (x : Float) : Exact :=
  match Reading.ofFloat x with
  | .nan => .nan
  | .infinite negative => .infinite negative
  | .finite negative m => .ratio (signed negative m.ratio.1) m.ratio.2

/-- An integer as an exact number. -/
def ofInt (n : Int) : Exact := .ratio n 1

/-- Two numbers are equal. -/
def equal : Exact → Exact → Bool
  | .ratio a b, .ratio c d => a * (d : Int) == c * (b : Int)
  | .infinite s, .infinite t => s == t
  | _, _ => false

/-- One number is less than another. -/
def below : Exact → Exact → Bool
  | .ratio a b, .ratio c d => decide (a * (d : Int) < c * (b : Int))
  | .ratio _ _, .infinite negative => !negative
  | .infinite negative, .ratio _ _ => negative
  | .infinite s, .infinite t => s && !t
  | _, _ => false

/-- The number rounded towards zero; the special values count as zero. -/
def truncate : Exact → Int
  | .ratio num den => Int.tdiv num den
  | _ => 0

/-- Whether the number is a whole one, and which. -/
def whole? : Exact → Option Int
  | .ratio num den => if num % (den : Int) = 0 then some (num / (den : Int)) else none
  | _ => none

end Exact

end Likeness.Decimal
