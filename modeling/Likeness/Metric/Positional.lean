import Likeness.Metric.Basic

/-!
# Metrics place by place

Metrics that only look at what stands at the same place, and some that do less.
They are not built in; they can be registered under any name.
-/

namespace Likeness.Metric

variable {K : Type} [Scalar K]

/-- How many places of the common length hold different items, and how much
    longer one sequence is. -/
def hammingCount {α : Type} (same : α → α → Bool) (a b : List α) : Nat :=
  (a.zip b).countP (fun p => !same p.1 p.2) + (max a.length b.length - min a.length b.length)

/-- How many places hold equal items. -/
def overlapCount {α : Type} (same : α → α → Bool) (a b : List α) : Nat :=
  (a.zip b).countP fun p => same p.1 p.2

/-- The number of differing places. -/
def hamming (name : String) : Metric K where
  name := name
  higherIsBetter := false
  symmetric := true
  score a b := (onCounted hammingCount a b).map fun n => .whole n

/-- Half the number of differing places. -/
def halfHamming (name : String) : Metric K where
  name := name
  higherIsBetter := false
  symmetric := true
  score a b := (onCounted hammingCount a b).map fun n =>
    .real (Scalar.ofNat n / Scalar.ofNat 2)

/-- The number of differing places, counted downwards from zero. -/
def negatedHamming (name : String) : Metric K where
  name := name
  higherIsBetter := false
  symmetric := true
  score a b := (onCounted hammingCount a b).map fun n => .whole (-(n : Int))

/-- The number of equal places. -/
def overlap (name : String) : Metric K where
  name := name
  higherIsBetter := true
  symmetric := true
  score a b := (onItems overlapCount a b).map fun n => .whole n

/-- The length of the first value. -/
def firstLength (name : String) : Metric K where
  name := name
  higherIsBetter := true
  symmetric := true
  score a _ := a.count.map fun (n : Nat) => .whole n

/-- A metric that does not say how to score. -/
def unscored (name : String) : Metric K where
  name := name
  higherIsBetter := false
  symmetric := true
  score _ _ := .error .unscored

end Likeness.Metric
