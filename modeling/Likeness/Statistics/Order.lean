import Likeness.Statistics.Merge

/-!
# Order statistics

The least, the greatest and the middle items of a list under a strict order.
The order is only asked whether one item is below another.  An item that is
below nothing, and that nothing is below, may stand in the way of sorting; the
sort is therefore fixed step by step.  It cuts a list into runs and merges
neighbours, so that runs of nearly the same length meet.
-/

namespace Likeness.Statistics

variable {α : Type}

/-- The first of the items that no later one is below. -/
def least? (below : α → α → Bool) : List α → Option α
  | [] => none
  | x :: xs => some (xs.foldl (fun best y => if below y best then y else best) x)

/-- The first of the items that are below no later one. -/
def greatest? (below : α → α → Bool) : List α → Option α
  | [] => none
  | x :: xs => some (xs.foldl (fun best y => if below best y then y else best) x)

/-! ## Sorting -/

/-- A length below which a list is one run. -/
def shortLength : Nat := 64

/-- The least length of the runs that a list of `n` items is cut into: the number is
    halved until it is short, and rounded up if something was lost. -/
def leastRun (lost : Bool) (n : Nat) : Nat :=
  if n < shortLength then n + lost.toNat else leastRun (lost || n % 2 = 1) (n / 2)
termination_by n
decreasing_by
  have : shortLength = 64 := rfl
  omega

/-- The level at which two neighbours meet in a list of `n` items: how often the list
    has to be halved until the middles of the two are in different parts.  The middles
    are given doubled. -/
def meetingLevel (n : Nat) : (fuel a b : Nat) → Nat
  | 0, _, _ => 0
  | fuel + 1, a, b =>
    if n ≤ a then meetingLevel n fuel (2 * (a - n)) (2 * (b - n)) + 1
    else if n ≤ b then 1
    else meetingLevel n fuel (2 * a) (2 * b) + 1

/-- A run that waits to be merged. -/
structure Pending (α : Type) where
  /-- The place of its first item. -/
  start : Nat
  items : List α
  /-- The level at which it meets the run behind it. -/
  level : Nat

/-- The runs that wait, the last one first and apart. -/
structure Waiting (α : Type) where
  last : Pending α
  before : List (Pending α)
  patience : Nat

/-- Merges a run with the one behind it. -/
def meet (below : α → α → Bool) (patience : Nat) (a b : Pending α) : Pending α × Nat :=
  let (items, patience) := mergeRuns below patience a.items b.items
  (⟨a.start, items, a.level⟩, patience)

/-- Merges the last runs as long as they meet at a deeper level than the one given,
    which is that of the last of them and the run to come. -/
def settle (below : α → α → Bool) (level : Nat) :
    Pending α → List (Pending α) → Nat → Waiting α
  | last, [], patience => ⟨{ last with level := level }, [], patience⟩
  | last, run :: before, patience =>
    if level < run.level then
      let (merged, patience) := meet below patience run last
      settle below level merged before patience
    else ⟨{ last with level := level }, run :: before, patience⟩

/-- The runs that wait, with one more. -/
def Waiting.add (below : α → α → Bool) (n : Nat) (w : Waiting α) (items : List α) : Waiting α :=
  let start := w.last.start + w.last.items.length
  let middle := w.last.start + start
  let level := meetingLevel n (2 * n) middle (middle + w.last.items.length + items.length)
  let w := settle below level w.last w.before w.patience
  ⟨⟨start, items, 0⟩, w.last :: w.before, w.patience⟩

/-- All runs merged in the end: the last two, or those before the last if the first of
    them is the shortest. -/
def collapse (below : α → α → Bool) :
    (last : Pending α) → (before : List (Pending α)) → (patience : Nat) → List α
  | last, [], _ => last.items
  | last, [run], patience => (meet below patience run last).1.items
  | last, second :: first :: before, patience =>
    if first.items.length < last.items.length then
      let (merged, patience) := meet below patience first second
      collapse below last (merged :: before) patience
    else
      let (merged, patience) := meet below patience second last
      collapse below merged (first :: before) patience
termination_by _ before => before.length
decreasing_by all_goals simp

/-- The runs of a list are cut off and merged as they come. -/
def sortRuns (below : α → α → Bool) (n least : Nat) :
    (fuel : Nat) → Waiting α → List α → List α
  | 0, w, rest => collapse below w.last w.before w.patience ++ rest
  | fuel + 1, w, rest =>
    if rest.isEmpty then collapse below w.last w.before w.patience
    else
      let (run, rest) := cutRun below least rest
      sortRuns below n least fuel (w.add below n run) rest

/-- The items in ascending order. -/
def sort (below : α → α → Bool) (xs : List α) : List α :=
  let least := leastRun false xs.length
  let (run, rest) := cutRun below least xs
  sortRuns below xs.length least xs.length ⟨⟨0, run, 0⟩, [], Merging.worthyLead⟩ rest

/-! ## The middle -/

/-- What stands in the middle of a sorted list: one item, or two. -/
inductive Middle (α : Type) where
  | one (x : α)
  | two (x y : α)

/-- The middle of the items, if there are some. -/
def middle? (below : α → α → Bool) (xs : List α) : Option (Middle α) :=
  let sorted := sort below xs
  let half := sorted.length / 2
  if sorted.length % 2 = 1 then sorted[half]?.map .one
  else
    match sorted[half - 1]?, sorted[half]? with
    | some x, some y => some (.two x y)
    | _, _ => none

end Likeness.Statistics
