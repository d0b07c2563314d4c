import Likeness.Metric.Basic

/-!
# Matrices of scores

Every item of a list scored against every other.  A symmetric metric is asked
for the pairs on and above the diagonal only, from which the rest follows.  The
whole matrix holds one kind of numbers, which the direction of the metric
decides: similarities are held as numbers of the formulas, distances as integers
of 64 bits.
-/

namespace Likeness.Matrix

variable {K : Type} [Scalar K]

/-- An integer as a matrix of distances holds it. -/
def heldInteger (n : Int) : Except Fault (Score K) :=
  if -(twoTo 63) ≤ n ∧ n < twoTo 63 then .ok (.whole n) else .error .outOfRange

/-- A score as a matrix of a direction holds it. -/
def held (higherIsBetter : Bool) : Score K → Except Fault (Score K)
  | .whole n =>
    if higherIsBetter then (Scalar.ofInt? n).elim (.error .outOfRange) fun x => .ok (.real x)
    else heldInteger n
  | .real x =>
    if higherIsBetter then .ok (.real x)
    else
      match Scalar.exact x with
      | .nan => .error .nanToInteger
      | .infinite _ => .error .outOfRange
      | .ratio _ _ => heldInteger (Scalar.truncate x)

/-- A cell of the matrix. -/
def cell (m : Metric K) (a b : Value) : Except Fault (Score K) :=
  (m.score a b).bind (held m.higherIsBetter)

/-- The rows on and right of the diagonal. -/
def upperRows (m : Metric K) : List Value → Except Fault (List (List (Score K)))
  | [] => .ok []
  | x :: xs => do
    let row ← (x :: xs).mapM (cell m x)
    let rest ← upperRows m xs
    .ok (row :: rest)

/-- Puts a row above rows, and its cells in front of them. -/
def border : List (Score K) → List (List (Score K)) → List (List (Score K))
  | [], rows => rows
  | corner :: row, rows => (corner :: row) :: (row.zip rows).map fun p => p.1 :: p.2

/-- The whole matrix from its rows on and right of the diagonal. -/
def complete : List (List (Score K)) → List (List (Score K))
  | [] => []
  | row :: rows => border row (complete rows)

/-- The matrix of scores of some items. -/
def pairwise (m : Metric K) (items : List Value) : Except Fault (List (List (Score K))) :=
  if m.symmetric then (upperRows m items).map complete
  else items.mapM fun a => items.mapM (cell m a)

end Likeness.Matrix
