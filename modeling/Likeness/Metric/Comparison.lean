import Likeness.Edit.Distance
import Likeness.Edit.Lookup
import Likeness.Match.Subsequence
import Likeness.Match.Winkler
import Likeness.Value.Equality

/-!
# Comparing values

The distances and similarities apply to sequences.  Here they are applied to
values: texts are compared character by character, other values by the elements
that they are gone through by, and what has none, or is not there, is refused.

Where an item is asked for by its place, a dictionary looks the place up among its
keys, and a set has nothing to give.
-/

namespace Likeness

variable {K : Type} [Scalar K]

/-- Applies a comparison of sequences to the elements of two values. -/
def onItems {β : Type} (f : {α : Type} → (α → α → Bool) → List α → List α → β) :
    Value → Value → Except Fault β
  | .text s, .text t => .ok (f (· == ·) s.toList t.toList)
  | a, b =>
    match a.elements?, b.elements? with
    | some xs, some ys => .ok (f Value.equal xs ys)
    | _, _ => .error .wrongKind

/-- Applies a comparison of sequences to two values that say how many items they
    have. -/
def onCounted {β : Type} (f : {α : Type} → (α → α → Bool) → List α → List α → β)
    (a b : Value) : Except Fault β := do
  let _ ← a.count
  let _ ← b.count
  onItems f a b

/-- The items of a value, asked for by their places. -/
def places (v : Value) : Except Fault (Edit.Places Value) := do
  let size ← v.count
  let items := (v.items?.getD []).toArray
  .ok {
    size := size
    item := fun j =>
      match v with
      | .dict es =>
        match es.find? fun e => Value.equal e.1 (.int j) with
        | some e => .ok e.2
        | none => .error (.noSuchKey (Decimal.intText j))
      | _ => (items[j]?).elim (.error .wrongKind) .ok }

/-- Refuses an absent value. -/
def given (name : String) : Value → Except Fault Unit
  | .null => .error (.absent name)
  | _ => .ok ()

/-- A distance, or the mark for one that is beyond its bound. -/
def marked : Option Nat → Int
  | some n => n
  | none => -1

/-- The edit distance of two values within a bound, which decides at once when the
    lengths are too far apart or one of them is zero. -/
def editDistanceWithin (bound : Score Float) (a b : Value) : Except Fault (Option Nat) := do
  let m ← a.count
  let n ← b.count
  if Edit.beyond bound (max m n - min m n) then .ok none
  else if min m n = 0 then .ok (some (max m n))
  else
    match bound, a.items?.isSome && b.items?.isSome with
    | .whole t, true => onItems (fun same xs ys => Edit.distanceWithin? same xs ys t.toNat) a b
    | bound, _ => Edit.distanceByLookup? Value.equal (← places a) (← places b) bound

/-- The edit distance of two values, or -1 when it exceeds the threshold. -/
def editDistance (a b : Value) (threshold : Option (Parameter Float)) : Except Fault Int := do
  given "a" a
  given "b" b
  match threshold with
  | none => (onCounted Edit.distance a b).map fun (n : Nat) => (n : Int)
  | some t =>
    if t.value.isNegative then .error (.negativeThreshold t.text)
    else (editDistanceWithin t.value a b).map marked

/-- The edit distance of two values within a bound that a value sets, if it is there. -/
def editDistanceUpTo (threshold a b : Value) : Except Fault Int := do
  if threshold.isNull then editDistance a b none
  else
    given "a" a
    given "b" b
    match Parameter.ofValue? threshold with
    | none => .error .wrongKind
    | some t => editDistance a b (some t)

/-- The Jaro similarity of two sequences, the items of the second of which are
    looked up. -/
def jaroByLookup (a b : List Value) (item : Nat → Except Fault Value) : Except Fault K := do
  let m ← Match.matchByLookup Value.equal b.length item (Match.window a.length b.length) 0 a
    (List.replicate b.length false)
  .ok (Match.jaroOfMatching m Value.equal a b)

/-- The Jaro similarity of two values. -/
def jaroSimilarity (a b : Value) : Except Fault K := do
  given "a" a
  given "b" b
  let m ← a.count
  let n ← b.count
  if m = 0 || n = 0 || b.items?.isSome then
    onItems (fun same xs ys => Match.jaro same xs ys) a b
  else
    jaroByLookup (a.elements?.getD []) (b.elements?.getD []) (← places b).item

/-- The Jaro-Winkler similarity of two values. -/
def winklerSimilarity (p : Match.Boost K) (a b : Value) : Except Fault K := do
  given "a" a
  given "b" b
  p.check
  p.raise (← jaroSimilarity a b) (← onItems sharedLength a b)

/-- The code points of a text, or its absence. -/
def textOrAbsent? : Value → Option (Option (List Nat))
  | .null => some none
  | .text s => some (some (s.toList.map Char.toNat))
  | .illFormed codes => some (some codes)
  | _ => none

/-- The score of a query in a term. -/
def queryScore (term query : Value) : Except Fault Int := do
  given "term" term
  given "query" query
  match term, query with
  | .text s, .text t => .ok (Match.subsequenceScore s.toList t.toList)
  | _, _ =>
    match textOrAbsent? term, textOrAbsent? query with
    | some (some s), some (some t) => .ok (Match.subsequenceScoreOfCodes s t)
    | _, _ => .error .noSuchField

/-- The first place where two values differ, -1 when they are equal; an absent
    value differs from a present one at once.  How many elements the values have
    only matters when none of them differ. -/
def differenceAt : Value → Value → Except Fault Int
  | .null, .null => .ok (-1)
  | .null, _ => .ok 0
  | _, .null => .ok 0
  | a, b =>
    let most := min a.size b.size
    match a.front? most, b.front? most with
    | some xs, some ys =>
      let n := sharedLength Value.equal xs ys
      if n < most then .ok n
      else do
        let m ← a.count
        let n ← b.count
        .ok (if m = n then -1 else (min m n : Nat))
    | _, _ => .error .wrongKind

/-- The part of a value behind some of its items. -/
def behind (n : Nat) : Value → Except Fault Value
  | .text s => .ok (.ofChars (s.toList.drop n))
  | .bytes mutable octets => .ok (.bytes mutable (octets.drop n))
  | .list xs => .ok (.list (xs.drop n))
  | .tuple xs => .ok (.tuple (xs.drop n))
  | .range start stop step =>
    .ok (.range (start + step * min n (Value.rangeLength start stop step)) stop step)
  | _ => .error .wrongKind

/-- The first items of a value. -/
def upToPlace (n : Nat) : Value → Except Fault Value
  | .text s => .ok (.ofChars (s.toList.take n))
  | .bytes mutable octets => .ok (.bytes mutable (octets.take n))
  | .list xs => .ok (.list (xs.take n))
  | .tuple xs => .ok (.tuple (xs.take n))
  | .range start stop step =>
    let n := min n (Value.rangeLength start stop step)
    .ok (.range start (start + step * n) step)
  | _ => .error .wrongKind

/-- The first of the shortest of some values, each given with its length. -/
def shortestValue (first : Value × Nat) (rest : List (Value × Nat)) : Value × Nat :=
  rest.foldl (fun best v => if v.2 < best.2 then v else best) first

/-- The longest prefix that some values share.  For values that are no texts it is the
    first of the shortest of them, or its items up to the first at which some value
    differs, unless one of the values does not hold as a condition. -/
def commonPrefixOf (vs : List Value) : Except Fault Value :=
  match vs.mapM textOrAbsent?, vs with
  | some texts, _ => (commonPrefix? texts).elim (.error .noSuchPlace) fun s => .ok (.ofCodes s)
  | none, [] => .ok (.text "")
  | none, v :: rest => do
    if !(v :: rest).all Value.holds then .ok (.text "")
    else
      let sized ← (v :: rest).mapM fun v => v.count.map (v, ·)
      let shortest := shortestValue (sized.headD (v, 0)) sized.tail
      let shared ← (v :: rest).mapM fun w =>
        onItems sharedLength shortest.1 w
      let n := shared.foldl min shortest.2
      if n = shortest.2 then .ok shortest.1 else upToPlace n shortest.1

/-- What the second value holds from the first difference on; an absent value leaves
    the other as it is. -/
def differenceOf (a b : Value) : Except Fault Value :=
  match textOrAbsent? a, textOrAbsent? b with
  | some s, some t => .ok (.ofOption .ofCodes (difference s t))
  | _, _ =>
    if a.isNull then .ok b
    else if b.isNull then .ok a
    else do
      match ← differenceAt a b with
      | .ofNat n => behind n b
      | .negSucc _ => .ok (.text "")

end Likeness
