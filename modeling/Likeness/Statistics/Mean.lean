import Likeness.Fault
import Likeness.Scalar

/-!
# Means

The mean of integers and numbers is taken exactly and rounded once.  It stays an
integer when all of them are integers and the mean is one.
-/

namespace Likeness.Statistics

variable {K : Type} [Scalar K]

/-- The sum of two fractions, over the least common denominator. -/
def addRatio (a b : Int × Nat) : Int × Nat :=
  let den := Nat.lcm a.2 b.2
  (a.1 * ((den / a.2 : Nat) : Int) + b.1 * ((den / b.2 : Nat) : Int), den)

/-- The fraction that a number is, unless it is a special value. -/
def ratio? : Decimal.Exact → Option (Int × Nat)
  | .ratio num den => some (num, den)
  | _ => none

/-- The sum of numbers: of fractions exactly, else the special value that the
    special values among them add up to. -/
def total (xs : List Decimal.Exact) : Decimal.Exact :=
  match xs.mapM ratio? with
  | some ratios =>
    let sum := ratios.foldl addRatio (0, 1)
    .ratio sum.1 sum.2
  | none =>
    match xs.contains .nan, xs.contains (.infinite true), xs.contains (.infinite false) with
    | false, true, false => .infinite true
    | false, false, true => .infinite false
    | _, _, _ => .nan

/-- A special value as a double. -/
def special : Decimal.Exact → Float
  | .infinite negative => Decimal.Binary.ofDecimal negative 1 1000
  | _ => 0 / 0

/-- The number nearest to a quotient. -/
def rounded (num : Int) (den : Nat) : Except Fault (Score K) :=
  (Scalar.nearest? num den).elim (.error .outOfRange) fun x => .ok (.real x)

/-- The mean of some scores. -/
def mean (xs : List (Score K)) : Except Fault (Score K) :=
  match total (xs.map Score.exact) with
  | .ratio num den =>
    let scale := den * xs.length
    if xs.all Score.isWhole && num % (scale : Int) == 0 then .ok (.whole (num / (scale : Int)))
    else rounded num scale
  | t => .ok (.real (Scalar.ofFloat (special t)))

/-- The number in the middle of two: for integers exact and rounded once, else by
    the operations of the numbers. -/
def midpoint : Score K → Score K → Except Fault (Score K)
  | .whole m, .whole n => rounded (m + n) 2
  | .real x, .real y => .ok (.real ((x + y) / Scalar.ofNat 2))
  | .whole m, .real y =>
    (Scalar.ofInt? m).elim (.error .outOfRange) fun x => .ok (.real ((x + y) / Scalar.ofNat 2))
  | .real x, .whole n =>
    (Scalar.ofInt? n).elim (.error .outOfRange) fun y => .ok (.real ((x + y) / Scalar.ofNat 2))

end Likeness.Statistics
