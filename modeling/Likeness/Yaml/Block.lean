import Likeness.Decimal.Numeral
import Likeness.Yaml.Cursor
import Likeness.Yaml.Refusal

/-!
# Block scalars

A scalar of whole lines that are moved in.  A literal one keeps its breaks, a
folded one joins lines.  The header may say how far the lines are moved in and
what becomes of the breaks at the end.
-/

namespace Likeness.Yaml.Block

/-- What becomes of the breaks at the end: none is kept, one is, or all are. -/
inductive Chomping where
  | strip
  | clip
  | keep
  deriving DecidableEq

/-- The header of a scalar. -/
structure Header where
  chomping : Chomping
  increment : Option Nat

/-- The chomping that a sign asks for. -/
def chomping? (c : Cursor) : Option Chomping :=
  if c.seesChar '+' then some .keep else if c.seesChar '-' then some .strip else none

/-- The digit that says how far lines are moved in; it is not zero. -/
def increment (c : Cursor) : Except Fault (Option Nat × Cursor) :=
  match c.peek.bind (Decimal.digitIn? 10) with
  | none => .ok (none, c)
  | some 0 => refuse .token
  | some n => .ok (some n, c.next)

/-- The signs of the header, in either order. -/
def header (c : Cursor) : Except Fault (Header × Cursor) := do
  match chomping? c with
  | some ch =>
    let (n, c) ← increment c.next
    .ok (⟨ch, n⟩, c)
  | none =>
    let (n, c) ← increment c
    match n, chomping? c with
    | some n, some ch => .ok (⟨ch, some n⟩, c.next)
    | n, _ => .ok (⟨.clip, n⟩, c)

/-- The rest of the line of the header, which may hold a comment. -/
def restOfHeader (c : Cursor) : Except Fault Cursor :=
  if !c.endsAt 0 (fun ch => ch == ' ' || isBreak ch) then refuse .token
  else
    let c := (c.skip (· == ' ')).skipComment
    if c.endsAt 0 isBreak then .ok c.lineBreak.2 else refuse .token

/-- Empty lines in front of the first one that is not, and how far blanks in them
    reach. -/
def leading : Nat → Nat → Cursor → List Char × Nat × Cursor
  | 0, widest, c => ([], widest, c)
  | fuel + 1, widest, c =>
    if c.sees isBreak then
      let (b, c) := c.lineBreak
      let (bs, widest, c) := leading fuel widest c
      (b ++ bs, widest, c)
    else if c.seesChar ' ' then leading fuel (max widest c.next.column) c.next
    else ([], widest, c)

/-- Skips blanks up to a column. -/
def skipTo (indent : Nat) : Nat → Cursor → Cursor
  | 0, c => c
  | fuel + 1, c =>
    if c.column < indent && c.seesChar ' ' then skipTo indent fuel c.next else c

/-- Empty lines, and the blanks in front of the next one. -/
def breaks (indent : Nat) : Nat → Cursor → List Char × Cursor
  | 0, c => ([], c)
  | fuel + 1, c =>
    let c := skipTo indent c.fuel c
    if c.sees isBreak then
      let (b, c) := c.lineBreak
      let (bs, c) := breaks indent fuel c
      (b ++ bs, c)
    else ([], c)

/-- A line follows at the column of the scalar. -/
def goesOn (indent : Nat) (c : Cursor) : Bool := c.column == indent && c.peek.isSome

/-- The line does not begin with a blank. -/
def isFlush (c : Cursor) : Bool := c.endsAt 0 fun ch => !(ch == ' ' || ch == '\t')

/-- The lines of a scalar, with the breaks in front of them; then the break behind
    the last line and the empty lines after it. -/
def lines (folded : Bool) (indent : Nat) :
    Nat → List Char → Cursor → List Char × List Char × List Char × Cursor
  | 0, before, c => ([], [], before, c)
  | fuel + 1, before, c =>
    let flush := isFlush c
    let line := c.run fun ch => !isBreak ch
    let (b, c) := (c.advance line.length).lineBreak
    let (after, c) := breaks indent c.fuel c
    if goesOn indent c then
      let joint :=
        if folded && b = ['\n'] && flush && isFlush c then
          if after.isEmpty then [' '] else []
        else b
      let (cs, last, tail, c) := lines folded indent fuel after c
      (before ++ line ++ joint ++ cs, last, tail, c)
    else (before ++ line, b, after, c)

/-- A scalar from its indicator on, inside of a block that is moved in this far. -/
def scan (folded : Bool) (outer : Int) (c : Cursor) : Except Fault (List Char × Cursor) := do
  let (h, c) ← header c.next
  let c ← restOfHeader c
  let least := (max (outer + 1) 1).toNat
  let (before, indent, c) := match h.increment with
    | none =>
      let (bs, widest, c) := leading c.fuel 0 c
      (bs, max least widest, c)
    | some n =>
      let indent := least + n - 1
      let (bs, c) := breaks indent c.fuel c
      (bs, indent, c)
  let (cs, last, tail, c) :=
    if goesOn indent c then lines folded indent c.fuel before c else ([], [], before, c)
  .ok (cs ++ (if h.chomping = .strip then [] else last)
    ++ (if h.chomping = .keep then tail else []), c)

end Likeness.Yaml.Block
