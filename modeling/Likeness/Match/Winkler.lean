import Likeness.Match.Jaro
import Likeness.Parameter
import Likeness.Prefix

/-!
# The Jaro-Winkler similarity

The Jaro similarity, raised for a shared prefix: each shared leading item, up to
a limit, closes the gap to one by the scaling factor.  The factor times the limit
may not exceed one, or the similarity could.
-/

namespace Likeness.Match

variable {α K : Type} [Scalar K]

/-- The parameters of the boost. -/
structure Boost (K : Type) where
  /-- The share of the gap that one leading item closes. -/
  scaling : Parameter K
  /-- How many leading items count. -/
  prefixLimit : Parameter K

/-- The share of the gap that one leading item closes, unless given. -/
def defaultScaling : Float := 0.1

/-- How many leading items count, unless given. -/
def defaultPrefixLimit : Nat := 4

/-- The product of two parameters; an integer is brought to the numbers of the
    formulas when the other is one of them. -/
def times? : Score K → Score K → Except Fault (Score K)
  | .whole m, .whole n => .ok (.whole (m * n))
  | .real x, .real y => .ok (.real (x * y))
  | .real x, .whole n => (Scalar.ofInt? n).elim (.error .outOfRange) fun y => .ok (.real (x * y))
  | .whole m, .real y => (Scalar.ofInt? m).elim (.error .outOfRange) fun x => .ok (.real (x * y))

/-- A parameter as a number of the formula. -/
def toScalar? : Score K → Except Fault K
  | .whole n => (Scalar.ofInt? n).elim (.error .outOfRange) .ok
  | .real x => .ok x

/-- A parameter is more than one. -/
def exceedsOne : Score K → Bool
  | .whole n => 1 < n
  | .real x => Scalar.below (Scalar.ofNat 1) x

/-- Refuses parameters that could lead out of the range of a similarity. -/
def Boost.check (p : Boost K) : Except Fault Unit :=
  if p.prefixLimit.value.isNegative then .error (.negativePrefixLimit p.prefixLimit.text)
  else if p.scaling.value.isNegative then
    .error (.scalingOutOfRange p.scaling.text p.prefixLimit.text)
  else
    match times? p.scaling.value p.prefixLimit.value with
    | .error e => .error e
    | .ok product =>
      if exceedsOne product then .error (.scalingOutOfRange p.scaling.text p.prefixLimit.text)
      else .ok ()

/-- The parameters that two values give.  A limit that is negative is reported even
    if the scaling is no number. -/
def Boost.ofValues (scaling prefixLimit : Value) : Except Fault (Boost K) :=
  match Parameter.ofValue? scaling, Parameter.ofValue? prefixLimit with
  | some scaling, some limit => .ok ⟨scaling, limit⟩
  | none, some (limit : Parameter K) =>
    .error (if limit.value.isNegative then .negativePrefixLimit limit.text else .wrongKind)
  | _, none => .error .wrongKind

/-- How many of the shared leading items count for the boost: all of them, unless
    the limit is lower. -/
def Boost.reach (p : Boost K) (shared : Nat) : Score K :=
  if p.prefixLimit.value.below (.whole shared) then p.prefixLimit.value else .whole shared

/-- A similarity, raised for a number of shared leading items. -/
def Boost.raise (p : Boost K) (base : K) (shared : Nat) : Except Fault K := do
  let boost ← toScalar? (← times? (p.reach shared) p.scaling.value)
  .ok (base + boost * (Scalar.ofNat 1 - base))

/-- The Jaro-Winkler similarity of two sequences. -/
def jaroWinkler (same : α → α → Bool) (p : Boost K) (a b : List α) : Except Fault K :=
  match p.check with
  | .error e => .error e
  | .ok () => p.raise (jaro same a b) (sharedLength same a b)

end Likeness.Match
