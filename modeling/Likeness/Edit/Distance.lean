/-!
# The edit distance

The least number of insertions, deletions and replacements that turn one
sequence into another.  Items are compared with a test supplied by the caller,
of which only symmetry is expected: an item need not be equal to itself.

The table of prefix distances is filled row by row over the shorter sequence,
and only the last row is kept.
-/

namespace Likeness.Edit

variable {α : Type}

/-- One row of the table from the row before it: `left` is the cell to the left,
    the list holds the cell diagonally above and the cells above. -/
def sweep (same : α → α → Bool) (x : α) : Nat → List Nat → List α → List Nat
  | left, diagonal :: above :: cells, y :: ys =>
    let cell := min (min (left + 1) (above + 1)) (diagonal + if same x y then 0 else 1)
    cell :: sweep same x cell (above :: cells) ys
  | _, _, _ => []

/-- The rows for the items `xs`, the first of which has number `i`. -/
def rows (same : α → α → Bool) (ys : List α) : Nat → List α → List Nat → List Nat
  | _, [], row => row
  | i, x :: xs, row => rows same ys (i + 1) xs (i :: sweep same x i row ys)

/-- The distance between a sequence and one that is not longer. -/
def tableDistance (same : α → α → Bool) (xs ys : List α) : Nat :=
  (rows same ys 1 xs (List.range (ys.length + 1))).getLastD xs.length

/-- The edit distance of two sequences. -/
def distance (same : α → α → Bool) (a b : List α) : Nat :=
  if a.length < b.length then tableDistance same b a else tableDistance same a b

end Likeness.Edit
