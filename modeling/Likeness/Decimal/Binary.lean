import Likeness.Power

/-!
# Binary64 numbers as exact fractions

A finite double is a whole mantissa times a power of two.  Everything that has
to be exact about doubles (their decimal text, their order against whole
numbers, the mean of many of them) is computed on that form in `Nat` and `Int`
and rounded once, in `Binary.ofRatio`.
-/

namespace Likeness.Decimal

/-- The magnitude of a finite double: `mantissa * 2 ^ exponent`. -/
structure Binary where
  /-- The mantissa, below 2^53. -/
  mantissa : Nat
  /-- The power of two, at least -1074. -/
  exponent : Int
  /-- The gap to the double below is half the gap to the double above. -/
  narrowBelow : Bool
  deriving Repr, DecidableEq

/-- What the 64 bits of a double stand for. -/
inductive Reading where
  | nan
  | infinite (negative : Bool)
  | finite (negative : Bool) (magnitude : Binary)
  deriving Repr, DecidableEq

/-- The parts of 64 bits: sign, exponent field, fraction field. -/
def Reading.ofBits (bits : Nat) : Reading :=
  let negative := decide (bits / twoTo 63 % 2 = 1)
  let field : Nat := bits / twoTo 52 % twoTo 11
  let fraction : Nat := bits % twoTo 52
  if field = 2047 then
    if fraction = 0 then .infinite negative else .nan
  else if field = 0 then
    .finite negative ⟨fraction, -1074, false⟩
  else
    .finite negative ⟨twoTo 52 + fraction, (field : Int) - 1075, decide (fraction = 0 ∧ 1 < field)⟩

/-- The reading of a double. -/
def Reading.ofFloat (x : Float) : Reading :=
  Reading.ofBits x.toBits.toNat

/-- `mantissa * 2 ^ exponent` as a quotient of naturals. -/
def Binary.ratio (x : Binary) : Nat × Nat :=
  (x.mantissa * twoTo x.exponent.toNat, twoTo (-x.exponent).toNat)

/-- A quotient rounded to the nearest natural, a half to the even neighbour. -/
def roundHalfEven (num den : Nat) : Nat :=
  let q := num / den
  let r := num % den
  if 2 * r < den then q
  else if den < 2 * r then q + 1
  else if q % 2 = 0 then q else q + 1

/-- The exponent at which the quotient of two positive naturals keeps 53 bits,
    or the least exponent there is. -/
def Binary.exponentFor (num den : Nat) : Int :=
  let q : Int := max ((Nat.log2 num : Int) - (Nat.log2 den : Int) - 53) (-1074)
  let whole := num * twoTo (-q).toNat / (den * twoTo q.toNat)
  if twoTo 53 ≤ whole then q + 1 else q

/-- The bits of the double nearest to a quotient of naturals, ties to even; none
    when the quotient is beyond the largest double.  A carry out of the mantissa
    runs into the exponent field, which is what rounding up a power of two means. -/
def Binary.bitsOfRatio? (num den : Nat) : Option Nat :=
  if num = 0 then some 0
  else
    let q := Binary.exponentFor num den
    let m := roundHalfEven (num * twoTo (-q).toNat) (den * twoTo q.toNat)
    let bits := ((q + 1074) * twoTo 52).toNat + m
    if bits < 2047 * twoTo 52 then some bits else none

/-- The double nearest to `num / den` with a sign, or none when out of range. -/
def Binary.ofRatio? (negative : Bool) (num den : Nat) : Option Float :=
  (Binary.bitsOfRatio? num den).map fun bits =>
    Float.ofBits (UInt64.ofNat (if negative then bits + twoTo 63 else bits))

/-- The double nearest to a quotient of integers, or none when out of range. -/
def Binary.ofQuotient? (num : Int) (den : Nat) : Option Float :=
  Binary.ofRatio? (decide (num < 0)) num.natAbs den

/-- The double nearest to `digits * 10 ^ exponent`; what is too large is infinite.
    The place of the leading digit settles the extreme exponents, so that no
    power is computed for them. -/
def Binary.ofDecimal (negative : Bool) (digits : Nat) (exponent : Int) : Float :=
  let lead : Int := exponent + (Nat.log2 digits : Int) * 30103 / 100000
  let magnitude :=
    if digits = 0 ∨ lead < -400 then some 0
    else if 400 < lead then none
    else Binary.bitsOfRatio? (digits * tenTo exponent.toNat) (tenTo (-exponent).toNat)
  let bits := magnitude.getD (2047 * twoTo 52)
  Float.ofBits (UInt64.ofNat (if negative then bits + twoTo 63 else bits))

end Likeness.Decimal
