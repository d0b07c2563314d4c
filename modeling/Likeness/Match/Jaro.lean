import Likeness.Scalar

/-!
# The Jaro similarity

The Jaro similarity counts items that two sequences have in common at nearly the
same place.  Going through the first sequence, each item is matched with the
first equal item of the second sequence that lies within the window and is not
matched yet.

The similarity is the mean of three shares: of the matched items in each sequence,
and of the matched items that are not transposed.  Two items out of order make one
transposition.
-/

namespace Likeness.Match

variable {α : Type}

/-- How far apart matched items may lie: half the longer length, less one. -/
def window (m n : Nat) : Nat := max m n / 2 - 1

/-- The first place `j` within `low ≤ j < high` that is free and holds an item
    with the property; the items given are those from place `at'` on. -/
def firstFree? (p : α → Bool) (low high : Nat) : Nat → List α → List Bool → Option Nat
  | at', y :: ys, taken :: flags =>
    if low ≤ at' && at' < high && !taken && p y then some at'
    else firstFree? p low high (at' + 1) ys flags
  | _, _, _ => none

/-- The matched places of both sequences, and which places of the second are
    taken. -/
structure Matching where
  pairs : List (Nat × Nat)
  taken : List Bool

/-- Matches the items from place `i` on, first come, first served. -/
def matchFrom (same : α → α → Bool) (b : List α) (reach : Nat) :
    Nat → List α → List Bool → Matching
  | _, [], taken => ⟨[], taken⟩
  | i, x :: xs, taken =>
    match firstFree? (same · x) (i - reach) (min b.length (i + reach + 1)) 0 b taken with
    | some j =>
      let rest := matchFrom same b reach (i + 1) xs (taken.set j true)
      ⟨(i, j) :: rest.pairs, rest.taken⟩
    | none => matchFrom same b reach (i + 1) xs taken

/-- The greedy matching of two sequences. -/
def greedy (same : α → α → Bool) (a b : List α) : Matching :=
  matchFrom same b (window a.length b.length) 0 a (List.replicate b.length false)

/-- The first free place of `count` places from `j` on whose item, asked for by its
    place, has the property. -/
def firstFreeByLookup? {ε : Type} (p : α → Bool) (item : Nat → Except ε α) (taken : List Bool) :
    (count j : Nat) → Except ε (Option Nat)
  | 0, _ => .ok none
  | count + 1, j =>
    if taken.getD j true then firstFreeByLookup? p item taken count (j + 1)
    else do
      if p (← item j) then .ok (some j) else firstFreeByLookup? p item taken count (j + 1)

/-- Matches the items from place `i` on with those of a second sequence of a length,
    each of which is asked for by its place and may be missing. -/
def matchByLookup {ε : Type} (same : α → α → Bool) (length : Nat) (item : Nat → Except ε α)
    (reach : Nat) : Nat → List α → List Bool → Except ε Matching
  | _, [], taken => .ok ⟨[], taken⟩
  | i, x :: xs, taken => do
    let low := i - reach
    match ← firstFreeByLookup? (same · x) item taken (min length (i + reach + 1) - low) low with
    | some j =>
      let rest ← matchByLookup same length item reach (i + 1) xs (taken.set j true)
      .ok ⟨(i, j) :: rest.pairs, rest.taken⟩
    | none => matchByLookup same length item reach (i + 1) xs taken

/-- The matched items of the first sequence, in order. -/
def Matching.firstItems (m : Matching) (a : List α) : List α :=
  m.pairs.filterMap fun p => a[p.1]?

/-- The matched items of the second sequence, in order. -/
def Matching.secondItems (m : Matching) (b : List α) : List α :=
  (b.zip m.taken).filterMap fun p => if p.2 then some p.1 else none

/-- How many matched items stand in another order in the two sequences. -/
def Matching.disorder (m : Matching) (same : α → α → Bool) (a b : List α) : Nat :=
  ((m.firstItems a).zip (m.secondItems b)).countP fun p => !same p.1 p.2

/-- How many items of a greedy matching stand in another order in the two sequences. -/
def mismatched (same : α → α → Bool) (a b : List α) : Nat :=
  (greedy same a b).disorder same a b

variable {K : Type} [Scalar K]

/-- The formula: `m` matched items of `la` and `lb`, `mis` of them out of order. -/
def jaroFormula (m la lb mis : Nat) : K :=
  let count (n : Nat) : K := Scalar.ofNat n
  (count m / count la + count m / count lb + (count m - count mis / count 2) / count m) / count 3

/-- The Jaro similarity of two sequences that are not empty, given their matching. -/
def jaroOfMatching (m : Matching) (same : α → α → Bool) (a b : List α) : K :=
  if m.pairs.length = 0 then Scalar.ofNat 0
  else jaroFormula m.pairs.length a.length b.length (m.disorder same a b)

/-- The Jaro similarity of two sequences. -/
def jaro (same : α → α → Bool) (a b : List α) : K :=
  if a.isEmpty && b.isEmpty then Scalar.ofNat 1
  else if a.isEmpty || b.isEmpty then Scalar.ofNat 0
  else jaroOfMatching (greedy same a b) same a b

end Likeness.Match
