import Likeness.CharSet.Range

/-!
# Character sets

A set is the union of the ranges that its definitions name.  A range named twice
is kept once, where it came first.
-/

namespace Likeness

/-- A union of ranges without repetition. -/
structure CharSet where
  ranges : List CharRange

namespace CharSet

/-- The ranges of a list, each kept where it first occurs. -/
def keepFirst (ranges : List CharRange) : List CharRange :=
  ranges.foldl (fun kept r => if r ∈ kept then kept else kept ++ [r]) []

/-- The ranges that some definitions name; absent ones name none. -/
def rangesOf (definitions : List (Option (List Char))) : List CharRange :=
  definitions.flatMap fun d => CharRange.parse (d.getD [])

/-- The set that some definitions describe together. -/
def ofDefinitions (definitions : List (Option (List Char))) : CharSet :=
  ⟨keepFirst (rangesOf definitions)⟩

/-- A character belongs to one of the ranges. -/
def contains (s : CharSet) (c : Char) : Bool := s.ranges.any (·.contains c)

/-- A text stands between the bounds of one of the ranges. -/
def containsText (s : CharSet) (t : List Char) : Bool := s.ranges.any (·.containsText t)

/-- A value is a character of the set. -/
def containsOnly (s : CharSet) : List Char → Bool
  | [c] => s.contains c
  | _ => false

/-- Two sets have the same ranges, in whatever order. -/
def same (s t : CharSet) : Bool :=
  s.ranges.all (· ∈ t.ranges) && t.ranges.all (· ∈ s.ranges)

/-- The set as messages show it: the quoted definitions of its ranges. -/
def shown (s : CharSet) : String :=
  "CharSet(" ++
    String.intercalate ", " (s.ranges.map fun r => Text.quoted (String.ofList r.definition)) ++ ")"

/-- Two descriptions share one set when they are written alike. -/
def shared (d e : List (Option (List Char))) : Bool := d == e

end CharSet

end Likeness
