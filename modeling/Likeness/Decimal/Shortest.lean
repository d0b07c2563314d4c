import Likeness.Decimal.Binary

/-!
# The fewest digits that read back

The reals that round to a double form an interval around it.  The decimal
chosen for a double lies on the coarsest power-of-ten grid that has a point in
that interval, and is the point nearest to the double.  All comparisons are
between naturals.
-/

namespace Likeness.Decimal

/-- A decimal `digits * 10 ^ exponent`. -/
structure Digits where
  digits : Nat
  exponent : Int
  deriving Repr, DecidableEq

/-- Compares `a * 10 ^ i` with `b * 2 ^ j`. -/
def compareScaled (a : Nat) (i : Int) (b : Nat) (j : Int) : Ordering :=
  compare (a * tenTo i.toNat * twoTo (-j).toNat) (b * twoTo j.toNat * tenTo (-i).toNat)

/-- The decimal lies among the reals that round to the double.  The ends of the
    interval are halfway to the two neighbours, and belong to it when the
    mantissa is even. -/
def Binary.readsBack (x : Binary) (d : Digits) : Bool :=
  let low := if x.narrowBelow then 4 * x.mantissa - 1 else 4 * x.mantissa - 2
  let high := 4 * x.mantissa + 2
  let closed := x.mantissa % 2 == 0
  let below := compareScaled d.digits d.exponent low (x.exponent - 2)
  let above := compareScaled d.digits d.exponent high (x.exponent - 2)
  (below == .gt || (closed && below == .eq)) && (above == .lt || (closed && above == .eq))

/-- The least `k` with the value below `10 ^ k`, searched near its binary
    logarithm. -/
def Binary.scale (x : Binary) : Int :=
  let guess := (((Nat.log2 x.mantissa : Int) + x.exponent) * 30103).fdiv 100000
  let fits (k : Int) : Bool := compareScaled 1 k x.mantissa x.exponent == .gt
  if fits (guess - 1) then guess - 1
  else if fits guess then guess
  else if fits (guess + 1) then guess + 1
  else guess + 2

/-- The point of the grid `10 ^ k` that is nearest to the value among its two
    neighbours that read back, the even one at a tie. -/
def Binary.gridPoint? (x : Binary) (k : Int) : Option Digits :=
  let num := x.mantissa * twoTo x.exponent.toNat * tenTo (-k).toNat
  let den := twoTo (-x.exponent).toNat * tenTo k.toNat
  let n := num / den
  let down : Digits := ⟨n, k⟩
  let up : Digits := ⟨n + 1, k⟩
  match x.readsBack down, x.readsBack up with
  | true, true => some ⟨roundHalfEven num den, k⟩
  | true, false => some down
  | false, true => some up
  | false, false => none

/-- Trailing zeros moved into the exponent, at most `fuel` of them. -/
def Digits.strip : Nat → Digits → Digits
  | 0, d => d
  | fuel + 1, d =>
    if d.digits ≠ 0 ∧ d.digits % 10 = 0 then Digits.strip fuel ⟨d.digits / 10, d.exponent + 1⟩
    else d

/-- The exact decimal value of a double. -/
def Binary.exact (x : Binary) : Digits :=
  ⟨x.mantissa * twoTo x.exponent.toNat * Nat.pow 5 (-x.exponent).toNat, min x.exponent 0⟩

/-- The decimal with the fewest digits that reads back to the double. -/
def Binary.shortest (x : Binary) : Digits :=
  if x.mantissa = 0 then ⟨0, 0⟩
  else
    let k := x.scale
    match (List.range 17).findSome? fun (n : Nat) => x.gridPoint? (k - 1 - (n : Int)) with
    | some d => d.strip 20
    | none => x.exact

end Likeness.Decimal
