import Likeness.Value.Basic

/-!
# When values are equal

Numbers are equal by value, whatever their kind; sequences of one kind item by
item; sets and dictionaries regardless of order; records of one declaration by
the fields that are compared.  A number that is not a number equals nothing,
itself included, so this equality need not be reflexive.

It is the comparison by value.  Objects of other kinds are told apart by what they
are, or by a comparison of their own, of which nothing is known here: they equal
nothing.  A record that lacks a field to be compared equals nothing either, since
comparing it breaks off.
-/

namespace Likeness

namespace Value

/-- Two ranges list the same integers. -/
def equalRanges (a b c d e f : Int) : Bool :=
  let n := rangeLength a b c
  n == rangeLength d e f && (n == 0 || a == d && (n == 1 || c == f))

mutual

/-- Two values are equal. -/
def equal : Value → Value → Bool
  | null, null => true
  | bool a, v => (v.number?).elim false (Score.equal (.whole (if a then 1 else 0)))
  | int a, v => (v.number?).elim false (Score.equal (.whole a))
  | real a, v => (v.number?).elim false (Score.equal (.real a))
  | text s, text t => s == t
  | illFormed s, illFormed t => s == t
  | bytes _ s, bytes _ t => s == t
  | list xs, list ys => equalItems xs ys
  | tuple xs, tuple ys => equalItems xs ys
  | range a b c, range d e f => equalRanges a b c d e f
  | set _ xs, set _ ys => xs.length == ys.length && allAmong xs ys
  | dict es, dict fs => es.length == fs.length && allEntriesAmong es fs
  | record k fs, record l gs => k == l && equalFields fs gs
  | charRange r n, charRange s m => r.same s && equal n m
  | hashCode _ m, hashCode _ n => m == n
  | _, _ => false
termination_by structural x => x

/-- Two lists are equal item by item. -/
def equalItems : List Value → List Value → Bool
  | [], [] => true
  | x :: xs, y :: ys => equal x y && equalItems xs ys
  | _, _ => false
termination_by structural xs => xs

/-- Every item is among the others. -/
def allAmong : List Value → List Value → Bool
  | [], _ => true
  | x :: xs, ys => ys.any (fun y => equal x y) && allAmong xs ys
termination_by structural xs => xs

/-- Every entry is among the others. -/
def allEntriesAmong : List (Value × Value) → List (Value × Value) → Bool
  | [], _ => true
  | (k, v) :: es, fs => fs.any (fun e => equal k e.1 && equal v e.2) && allEntriesAmong es fs
termination_by structural es => es

/-- The fields that are compared have values, and these are equal. -/
def equalFields : List (FieldInfo × Option Value) → List (FieldInfo × Option Value) → Bool
  | [], [] => true
  | (i, some v) :: fs, (_, some w) :: gs => (!i.compared || equal v w) && equalFields fs gs
  | (i, _) :: fs, _ :: gs => !i.compared && equalFields fs gs
  | _, _ => false
termination_by structural fs => fs

end

/-- Members without repetition: of equal ones the first stays. -/
def distinct (xs : List Value) : List Value :=
  xs.foldl (fun kept x => if kept.any (equal · x) then kept else kept ++ [x]) []

/-- An entry put into a dictionary: a present key keeps its place and spelling. -/
def putEntry : List (Value × Value) → Value → Value → List (Value × Value)
  | [], k, v => [(k, v)]
  | (l, w) :: es, k, v => if equal l k then (l, v) :: es else (l, w) :: putEntry es k v

/-- A dictionary from entries in order of arrival. -/
def dictOf (entries : List (Value × Value)) : Value :=
  dict (entries.foldl (fun es e => putEntry es e.1 e.2) [])

/-- The value under a name in a dictionary. -/
def field? (name : String) : List (Value × Value) → Option Value
  | [] => none
  | (text s, v) :: es => if s = name then some v else field? name es
  | _ :: es => field? name es

end Value

end Likeness
