import Likeness.Decimal.Exact
import Likeness.Decimal.Layout

/-!
# Scores and the numbers they are computed in

Distances are integers.  Similarities come from formulas with quotients, over
any type with the operations of `Scalar`: the program computes them in doubles,
and a statement about a formula may read it over exact fractions.
-/

namespace Likeness

/-- The numbers a similarity formula is computed in. -/
class Scalar (K : Type) extends Add K, Sub K, Mul K, Div K where
  /-- A count. -/
  ofNat : Nat → K
  /-- A number that was read. -/
  ofFloat : Float → K
  /-- The number nearest to a quotient, none when that is out of range. -/
  nearest? : Int → Nat → Option K
  /-- At most; what cannot be compared is at most nothing. -/
  atMost : K → K → Bool
  /-- What the number denotes. -/
  exact : K → Decimal.Exact
  /-- The number as messages show it. -/
  text : K → String

instance : Scalar Float where
  ofNat := Float.ofNat
  ofFloat x := x
  nearest? := Decimal.Binary.ofQuotient?
  atMost x y := x ≤ y
  exact := Decimal.Exact.ofFloat
  text := Decimal.Layout.message.text

namespace Scalar

variable {K : Type} [Scalar K]

/-- Strictly below: at most, and not the other way round. -/
def below (x y : K) : Bool :=
  atMost x y && !atMost y x

/-- The number nearest to an integer, none when that is out of range. -/
def ofInt? (n : Int) : Option K := nearest? n 1

/-- The number rounded towards zero. -/
def truncate (x : K) : Int := (exact x).truncate

end Scalar

/-- A score, or a parameter of one: an integer or a number of the formulas. -/
inductive Score (K : Type) where
  | whole (n : Int)
  | real (x : K)

namespace Score

variable {K : Type} [Scalar K]

/-- A score that was read, in other numbers. -/
def ofFloat : Score Float → Score K
  | .whole n => .whole n
  | .real x => .real (Scalar.ofFloat x)

/-- The score is an integer. -/
def isWhole : Score K → Bool
  | .whole _ => true
  | .real _ => false

/-- The score as messages show it. -/
def text : Score K → String
  | .whole n => Decimal.intText n
  | .real x => Scalar.text x

/-- The score is at least zero; what cannot be compared with zero is not. -/
def isRanked : Score K → Bool
  | .whole n => 0 ≤ n
  | .real x => Scalar.atMost (Scalar.ofNat 0) x

/-- One score is at most the other; an integer is brought to the numbers of the
    formulas when the other is one of them. -/
def atMost : Score K → Score K → Bool
  | .whole m, .whole n => m ≤ n
  | .real x, .real y => Scalar.atMost x y
  | .whole m, .real y => (Scalar.ofInt? m).any (Scalar.atMost · y)
  | .real x, .whole n => (Scalar.ofInt? n).any (Scalar.atMost x ·)

/-- The score is below zero. -/
def isNegative : Score K → Bool
  | .whole n => n < 0
  | .real x => Scalar.below x (Scalar.ofNat 0)

/-- What the score denotes. -/
def exact : Score K → Decimal.Exact
  | .whole n => .ofInt n
  | .real x => Scalar.exact x

/-- Two scores are equal as numbers. -/
def equal (s t : Score K) : Bool := s.exact.equal t.exact

/-- One score is less than another as a number. -/
def below (s t : Score K) : Bool := s.exact.below t.exact

end Score

end Likeness
