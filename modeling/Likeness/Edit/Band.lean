import Likeness.Power

/-!
# The edit distance under a threshold

When distances beyond a threshold are of no interest, only the cells of the
table within the threshold of the diagonal have to be filled.  Two row buffers
take turns and are never cleared, so a buffer holds, beside the band of its row,
cells of the row two rows earlier.  What is read of those must not matter: the
cell left of the band is marked unreachable before it is read, and the cells
right of the band have not been written in that buffer.
-/

namespace Likeness.Edit

variable {α : Type}

/-- Marks a cell that no row has reached; more than any distance. -/
def unreachable : Nat := twoTo 63 - 1

/-- The two row buffers. -/
structure Buffers where
  previous : Array Nat
  current : Array Nat

/-- A cell of a row. -/
def cell (row : Array Nat) (i : Nat) : Nat := row.getD i unreachable

/-- Fills `count` cells of a row from cell `i` on, and keeps the least of them. -/
def fill (same : α → α → Bool) (short : Array α) (y : α) (previous : Array Nat) :
    (count i : Nat) → (row : Array Nat) → (least : Nat) → Array Nat × Nat
  | 0, _, row, least => (row, least)
  | count + 1, i, row, least =>
    let matched := (short[i - 1]?).any (same · y)
    let value :=
      if matched then cell previous (i - 1)
      else 1 + min (min (cell row (i - 1)) (cell previous i)) (cell previous (i - 1))
    fill same short y previous count (i + 1) (row.setIfInBounds i value)
      (if value < least then value else least)

/-- The row of the item `y` with number `j`; none when every cell of its band is
    beyond the threshold. -/
def bandRow (same : α → α → Bool) (short : Array α) (threshold j : Nat) (y : α)
    (b : Buffers) : Option Buffers :=
  let low := max 1 (j - threshold)
  let high := min short.size (j + threshold)
  if high < low then none
  else
    let row := b.current.setIfInBounds 0 j
    let row := if 1 < low then row.setIfInBounds (low - 1) unreachable else row
    let filled := fill same short y b.previous (high + 1 - low) low row unreachable
    if threshold < filled.2 then none else some ⟨filled.1, b.previous⟩

/-- The rows of the items of the longer sequence, the first of which has number
    `j`. -/
def bandRows (same : α → α → Bool) (short : Array α) (threshold : Nat) :
    Nat → List α → Buffers → Option Buffers
  | _, [], b => some b
  | j, y :: ys, b =>
    match bandRow same short threshold j y b with
    | none => none
    | some b => bandRows same short threshold (j + 1) ys b

/-- The buffers before the first row: in reach are the cells up to the threshold. -/
def startBuffers (n threshold : Nat) : Buffers where
  previous := ((List.range (n + 1)).map fun i =>
    if i < min n threshold + 1 then i else unreachable).toArray
  current := Array.replicate (n + 1) unreachable

/-- The distance between a sequence and one that is not shorter, unless it is
    beyond the threshold. -/
def bandDistance? (same : α → α → Bool) (short long : List α) (threshold : Nat) : Option Nat :=
  if threshold < long.length - short.length then none
  else if short.isEmpty then some long.length
  else
    match bandRows same short.toArray threshold 1 long (startBuffers short.length threshold) with
    | none => none
    | some b =>
      let d := cell b.previous short.length
      if d ≤ threshold then some d else none

/-- The edit distance of two sequences, unless it is beyond the threshold. -/
def distanceWithin? (same : α → α → Bool) (a b : List α) (threshold : Nat) : Option Nat :=
  if b.length < a.length then bandDistance? same b a threshold
  else bandDistance? same a b threshold

end Likeness.Edit
