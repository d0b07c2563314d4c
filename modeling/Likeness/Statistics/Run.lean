/-!
# Runs

A run is a list that is in ascending order already.  Every list begins with one, or
with one that is turned round, and a run is made longer by inserting items.  Places
in a run are found by halving, or by strides from a place that is probably near.

The order is only asked whether one item is below another, and it need not be
consistent: an item may be below nothing, with nothing below it.  The place that is
found then depends on the questions that are asked, so these are fixed here.
-/

namespace Likeness.Statistics

variable {α : Type}

/-- The first of the places from `low` to `high` that is not in front, found by
    halving; the places that are in front come first. -/
def halve (front : Nat → Bool) (low high : Nat) : Nat :=
  if low < high then
    let middle := low + (high - low) / 2
    if front middle then halve front (middle + 1) high else halve front low middle
  else low
termination_by high - low
decreasing_by all_goals omega

/-- Strides of 1, 3, 7, … places below a limit, as long as they go on: the last that
    did, and the first that did not. -/
def stride (goesOn : Nat → Bool) (limit : Nat) : (fuel last next : Nat) → Nat × Nat
  | 0, last, next => (last, min next limit)
  | fuel + 1, last, next =>
    if next < limit && goesOn next then stride goesOn limit fuel next (2 * next + 1)
    else (last, min next limit)

/-- The first of `n` places that is not in front, searched by strides from a place. -/
def boundary (front : Nat → Bool) (n near : Nat) : Nat :=
  if front near then
    let (last, next) := stride (fun k => front (near + k)) (n - near) n 0 1
    halve front (near + last + 1) (near + next)
  else
    let (last, next) := stride (fun k => !front (near - k)) (near + 1) n 0 1
    halve front (near + 1 - next) (near - last)

/-- An item inserted into a run, behind those that it is not below. -/
def insertSorted (below : α → α → Bool) (run : List α) (x : α) : List α :=
  let place := halve (fun i => (run[i]?).any fun y => !below x y) 0 run.length
  run.take place ++ x :: run.drop place

/-- How many of the items go on from `x` in ascending order. -/
def ascending (below : α → α → Bool) (x : α) : List α → Nat
  | [] => 0
  | y :: ys => if below y x then 0 else ascending below y ys + 1

/-- How many of the items go on from `x` in strictly descending order. -/
def descending (below : α → α → Bool) (x : α) : List α → Nat
  | [] => 0
  | y :: ys => if below y x then descending below y ys + 1 else 0

/-- The run that a list begins with, which may be turned round. -/
def leadingRun (below : α → α → Bool) : List α → List α
  | [] => []
  | x :: xs =>
    let down := descending below x xs
    if 0 < down then (x :: xs.take down).reverse else x :: xs.take (ascending below x xs)

/-- The run that a list begins with, made as long as a least length, and the rest of
    the list. -/
def cutRun (below : α → α → Bool) (least : Nat) (xs : List α) : List α × List α :=
  let run := leadingRun below xs
  let rest := xs.drop run.length
  let more := least - run.length
  ((rest.take more).foldl (insertSorted below) run, rest.drop more)

end Likeness.Statistics
