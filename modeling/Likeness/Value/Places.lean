import Likeness.Decimal.Exact
import Likeness.Value.Equality

/-!
# The order of members

A set keeps its members in a table, and they come in the order of their places there.
A number goes to the place that its remainder names, or if that is taken to one near
by, else to another one that is computed from it.  The table grows before it is full.
-/

namespace Likeness.Value.Places

/-- The prime by which numbers are reduced. -/
def prime : Nat := twoTo 61 - 1

/-- A remainder with the sign of its number; one value of it is not in use. -/
def signed (negative : Bool) (n : Nat) : Int :=
  let code : Int := if negative then -(n : Int) else (n : Int)
  if code = -1 then -2 else code

/-- The code of a quotient of an integer by a power of two. -/
def ofRatio (num : Int) (den : Nat) : Int :=
  let inverse := twoTo ((61 - Nat.log2 den % 61) % 61)
  signed (decide (num < 0)) (num.natAbs * inverse % prime)

/-- The code of infinity. -/
def infinite : Nat := 314159

/-- The code by which a number is placed; what is no number has none. -/
def code? : Value → Option Int
  | bool b => some (if b then 1 else 0)
  | int n => some (ofRatio n 1)
  | real x =>
    match Decimal.Exact.ofFloat x with
    | .ratio num den => some (ofRatio num den)
    | .infinite negative => some (signed negative infinite)
    | .nan => none
  | _ => none

/-- A member with its code, a natural below 2^64. -/
abbrev Member := Nat × Value

/-- A number as a member. -/
def member? (v : Value) : Option Member := do
  let code ← code? v
  some ((code % (twoTo 64 : Nat)).toNat, v)

/-- A table with as many places as a power of two. -/
abbrev Table := Array (Option Member)

/-- How many places behind the one that is tried are looked at too. -/
def reach : Nat := 9

/-- The first free place from one on, if there is one near by. -/
def freeNear? (t : Table) (place : Nat) : Option Nat :=
  let count := if place + reach < t.size then reach + 1 else 1
  ((List.range count).map (place + ·)).find? fun p => (t[p]?.join).isNone

/-- The place for a code; `rest` is what of the code is still to be used. -/
def search (t : Table) : Nat → Nat → Nat → Nat
  | 0, _, place => place
  | fuel + 1, rest, place =>
    match freeNear? t place with
    | some p => p
    | none =>
      let rest := rest / 32
      search t fuel rest ((place * 5 + 1 + rest) % t.size)

/-- The table with one more member. -/
def put (t : Table) (m : Member) : Table :=
  t.setIfInBounds (search t (t.size + 16) m.1 (m.1 % t.size)) (some m)

/-- A table without members. -/
def empty (size : Nat) : Table := Array.replicate size none

/-- How many places a table has at least. -/
def leastSize : Nat := 8

/-- The first power of two from a size on that is larger than a number. -/
def sizeAbove (n : Nat) : Nat := max leastSize (twoTo (Nat.log2 n + 1))

/-- The number of members from which on a table grows more slowly. -/
def manyMembers : Nat := 50000

/-- The table after a number of members has come in, larger if it is getting full. -/
def grow (t : Table) (count : Nat) : Table :=
  if count * 5 < (t.size - 1) * 3 then t
  else
    let factor := if manyMembers < count then 2 else 4
    (t.toList.filterMap id).foldl put (empty (sizeAbove (count * factor)))

/-- The table of members that come in one after another. -/
def table (members : List Member) : Table :=
  (members.foldl (fun (t, count) m => (grow (put t m) (count + 1), count + 1))
    (empty leastSize, 0)).1

/-- Members in the order of their places; if one of them is no number, they keep the
    order in which they came. -/
def arranged (xs : List Value) : List Value :=
  match xs.mapM member? with
  | some members => ((table members).toList.filterMap id).map (·.2)
  | none => xs

end Likeness.Value.Places
