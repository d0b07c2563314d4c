import Likeness.Statistics.Run

/-!
# Merging runs

Two runs that follow one another are merged from their heads, or from their ends when
the second one is shorter; then the order and both runs are turned round.  Items are
taken one at a time, until one run has won so often that it pays to look how far it
leads.  One of the runs, the shorter one, is kept from running out: when one item of
it is left, that is put behind all others.
-/

namespace Likeness.Statistics

variable {α : Type}

/-- Two runs that are being merged. -/
structure Merging (α : Type) where
  /-- The items that were taken, the last one first. -/
  taken : List α
  /-- What is left of the run that is kept from running out. -/
  kept : List α
  /-- What is left of the other run. -/
  other : List α
  /-- How often one run has to win before it is looked how far it leads. -/
  patience : Nat

/-- How a merge goes on: by which order, and whether the runs are turned round. -/
structure Direction (α : Type) where
  below : α → α → Bool
  turned : Bool

/-- How many leading items of a run pass; in a run that is turned round they are
    searched from its other end. -/
def Direction.leading (d : Direction α) (passes : α → Bool) (run : List α) : Nat :=
  let n := run.length
  if d.turned then
    n - boundary (fun i => (run[n - 1 - i]?).any fun x => !passes x) n (n - 1)
  else boundary (fun i => (run[i]?).any passes) n 0

namespace Merging

/-- The merge is over: nothing is left to be compared. -/
def isOver (m : Merging α) : Bool :=
  match m.kept, m.other with
  | _ :: _ :: _, _ :: _ => false
  | _, _ => true

/-- Takes items of the run that is kept. -/
def takeKept (m : Merging α) (n : Nat) : Merging α :=
  { m with taken := (m.kept.take n).reverse ++ m.taken, kept := m.kept.drop n }

/-- Takes items of the other run. -/
def takeOther (m : Merging α) (n : Nat) : Merging α :=
  { m with taken := (m.other.take n).reverse ++ m.taken, other := m.other.drop n }

/-- How far the run that is kept leads: as long as the other one is not below it. -/
def keptLead (d : Direction α) (m : Merging α) : Nat :=
  match m.other with
  | [] => 0
  | y :: _ => d.leading (fun x => !d.below y x) m.kept

/-- How far the other run leads: as long as it is below the run that is kept. -/
def otherLead (d : Direction α) (m : Merging α) : Nat :=
  match m.kept with
  | [] => 0
  | x :: _ => d.leading (fun y => d.below y x) m.other

/-- One part of a round: items are taken, and how many counts. -/
abbrev Part (α : Type) := Merging α → Nat × Merging α

/-- The lead of the run that is kept, and the item of the other run behind it. -/
def keptParts (d : Direction α) : List (Part α) :=
  [fun m => (m.keptLead d, m.takeKept (m.keptLead d)), fun m => (0, m.takeOther 1)]

/-- The lead of the other run, and the item of the run that is kept behind it. -/
def otherParts (d : Direction α) : List (Part α) :=
  [fun m => (m.otherLead d, m.takeOther (m.otherLead d)), fun m => (0, m.takeKept 1)]

/-- The parts of a round. -/
def parts (d : Direction α) : List (Part α) :=
  if d.turned then otherParts d ++ keptParts d else keptParts d ++ otherParts d

/-- Goes through the parts of a round, and keeps the longest lead. -/
def round : List (Part α) → Nat → Merging α → Nat × Merging α
  | [], longest, m => (longest, m)
  | part :: rest, longest, m =>
    let (n, m) := part m
    if m.isOver then (0, m) else round rest (max longest n) m

/-- A lead that is worth to be looked for. -/
def worthyLead : Nat := 7

mutual

/-- Takes items one at a time, and counts how often each run has won since the other
    one did. -/
def oneByOne (d : Direction α) : (fuel keptWins otherWins : Nat) → Merging α → Merging α
  | 0, _, _, m => m
  | fuel + 1, keptWins, otherWins, m =>
    match m.kept, m.other with
    | x :: _, y :: _ =>
      if d.below y x then
        let m := m.takeOther 1
        if m.isOver then m
        else if m.patience ≤ otherWins + 1 then
          inRounds d fuel { m with patience := m.patience + 1 }
        else oneByOne d fuel 0 (otherWins + 1) m
      else
        let m := m.takeKept 1
        if m.isOver then m
        else if m.patience ≤ keptWins + 1 then
          inRounds d fuel { m with patience := m.patience + 1 }
        else oneByOne d fuel (keptWins + 1) 0 m
    | _, _ => m

/-- Takes items by leads, as long as these are worth it. -/
def inRounds (d : Direction α) : (fuel : Nat) → Merging α → Merging α
  | 0, m => m
  | fuel + 1, m =>
    let patience := if 1 < m.patience then m.patience - 1 else m.patience
    let (longest, m) := round (parts d) 0 { m with patience := patience }
    if m.isOver then m
    else if worthyLead ≤ longest then inRounds d fuel m
    else oneByOne d fuel 0 0 { m with patience := m.patience + 1 }

end

/-- All items of a merge that is over. -/
def items (m : Merging α) : List α :=
  let rest := match m.kept with
    | [x] => m.other ++ [x]
    | kept => kept ++ m.other
  m.taken.reverse ++ rest

/-- A whole merge, of which the other run is known to have the first item. -/
def finish (d : Direction α) (m : Merging α) : Merging α :=
  let m := m.takeOther 1
  if m.isOver then m else oneByOne d (2 * (m.kept.length + m.other.length)) 0 0 m

end Merging

/-- Two runs merged, and the patience that is left after it.  Items that stand in
    their places already are left alone. -/
def mergeRuns (below : α → α → Bool) (patience : Nat) (a b : List α) : List α × Nat :=
  match b, a.getLast? with
  | y :: _, some last =>
    let before := boundary (fun i => (a[i]?).any fun x => !below y x) a.length 0
    let after := boundary (fun i => (b[i]?).any fun y => below y last) b.length (b.length - 1)
    let front := a.drop before
    let back := b.take after
    if front.isEmpty || back.isEmpty then (a ++ b, patience)
    else if front.length ≤ back.length then
      let m := Merging.finish ⟨below, false⟩ ⟨[], front, back, patience⟩
      (a.take before ++ m.items ++ b.drop after, m.patience)
    else
      let m := Merging.finish ⟨fun x y => below y x, true⟩
        ⟨[], back.reverse, front.reverse, patience⟩
      (a.take before ++ m.items.reverse ++ b.drop after, m.patience)
  | _, _ => (a ++ b, patience)

end Likeness.Statistics
