import Likeness.Edit.Band
import Likeness.Fault
import Likeness.Scalar

/-!
# The edit distance when items are looked up

Some sequences say how long they are, but an item has to be asked for by its place
and may not be there.  Their bounded distance is found as in `Edit.Band`, where the
first item that is missing ends the search.  The bound may be a double here; then
it has to leave the band as wide as the table.
-/

namespace Likeness.Edit

variable {α : Type}

/-- A sequence whose items are asked for by their places. -/
structure Places (α : Type) where
  size : Nat
  item : Nat → Except Fault α

/-- A distance is beyond a bound. -/
def beyond (bound : Score Float) (d : Nat) : Bool := bound.below (.whole d)

/-- A distance is within a bound. -/
def within (bound : Score Float) (d : Nat) : Bool :=
  (Score.whole d).below bound || (Score.whole d).equal bound

/-- The first and the last cell of the band in row `j`. -/
def bandEnds (bound : Score Float) (n j : Nat) : Except Fault (Nat × Nat) :=
  match bound with
  | .whole t => .ok (max 1 (j - t.toNat), min n (j + t.toNat))
  | .real x =>
    if 1 < Float.ofNat j - x || Float.ofNat j + x < Float.ofNat n then .error .wrongKind
    else .ok (1, n)

/-- A cell of the row before the first can be reached. -/
def startsInReach (bound : Score Float) (n i : Nat) : Bool :=
  match bound with
  | .whole t => i < min n t.toNat + 1
  | .real x => if x < Float.ofNat n then Float.ofNat i < x + 1 else true

/-- Fills `count` cells of a row from cell `i` on, and keeps the least of them. -/
def fillByLookup (same : α → α → Bool) (short : Places α) (y : α) (previous : Array Nat) :
    (count i : Nat) → (row : Array Nat) → (least : Nat) → Except Fault (Array Nat × Nat)
  | 0, _, row, least => .ok (row, least)
  | count + 1, i, row, least => do
    let x ← short.item (i - 1)
    let value :=
      if same x y then cell previous (i - 1)
      else 1 + min (min (cell row (i - 1)) (cell previous i)) (cell previous (i - 1))
    fillByLookup same short y previous count (i + 1) (row.setIfInBounds i value)
      (if value < least then value else least)

/-- The last `count` rows, the first of which has number `j`; none when every cell
    of a band is beyond the bound. -/
def rowsByLookup (same : α → α → Bool) (short long : Places α) (bound : Score Float) :
    (count j : Nat) → Buffers → Except Fault (Option Buffers)
  | 0, _, b => .ok (some b)
  | count + 1, j, b => do
    let y ← long.item (j - 1)
    let (low, high) ← bandEnds bound short.size j
    if high < low then .ok none
    else
      let row := b.current.setIfInBounds 0 j
      let row := if 1 < low then row.setIfInBounds (low - 1) unreachable else row
      let filled ← fillByLookup same short y b.previous (high + 1 - low) low row unreachable
      if beyond bound filled.2 then .ok none
      else rowsByLookup same short long bound count (j + 1) ⟨filled.1, b.previous⟩

/-- The distance between a sequence and one that is not shorter, unless it is
    beyond the bound. -/
def orderedByLookup? (same : α → α → Bool) (short long : Places α) (bound : Score Float) :
    Except Fault (Option Nat) :=
  if beyond bound (long.size - short.size) then .ok none
  else if short.size = 0 then .ok (some long.size)
  else do
    let start : Buffers := {
      previous := ((List.range (short.size + 1)).map fun i =>
        if startsInReach bound short.size i then i else unreachable).toArray
      current := Array.replicate (short.size + 1) unreachable }
    match ← rowsByLookup same short long bound long.size 1 start with
    | none => .ok none
    | some b =>
      let d := cell b.previous short.size
      .ok (if within bound d then some d else none)

/-- The edit distance of two sequences, unless it is beyond the bound. -/
def distanceByLookup? (same : α → α → Bool) (a b : Places α) (bound : Score Float) :
    Except Fault (Option Nat) :=
  if b.size < a.size then orderedByLookup? same b a bound else orderedByLookup? same a b bound

end Likeness.Edit
