/-!
# Ranges of code points

Character properties are data: ascending lists of closed ranges of code points,
and runs of code points that map elsewhere by one shift.  The tables follow
version 14 of the Unicode character database.
-/

namespace Likeness.Text

/-- A code point lies in one of the closed ranges. -/
def inRanges (ranges : List (Nat × Nat)) (code : Nat) : Bool :=
  ranges.any fun r => r.1 ≤ code && code ≤ r.2

/-- A run of code points `first, first + stride, …, last` that map to the code
    point `offset` further. -/
structure Shift where
  first : Nat
  last : Nat
  stride : Nat
  offset : Int

/-- A code point belongs to the run. -/
def Shift.covers (s : Shift) (code : Nat) : Bool :=
  s.first ≤ code && code ≤ s.last && (code - s.first) % s.stride == 0

/-- A mapping of characters to texts: single shifts, and characters whose image
    is more than one character. -/
structure CaseTable where
  shifts : List Shift
  expansions : List (Nat × List Nat)

/-- The image of one character; what the table does not name stays. -/
def CaseTable.image (t : CaseTable) (c : Char) : List Char :=
  match t.expansions.lookup c.toNat with
  | some codes => codes.map Char.ofNat
  | none =>
    match t.shifts.find? (·.covers c.toNat) with
    | some s => [Char.ofNat ((c.toNat : Int) + s.offset).toNat]
    | none => [c]

end Likeness.Text
