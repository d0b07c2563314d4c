import Likeness.HashCode.Word
import Likeness.Value.Basic

/-!
# Appending values to a hash code

A hash code is a running total.  Appending a value multiplies the total by the
multiplier and adds the code of the value.  Sequences are appended item by item,
texts character by character; sets and dictionaries add up the codes of their
members, each computed on its own, so that their order is of no account; records
are hashed by their fields, all of which are asked for before the first is appended.

A value that cannot be hashed stops the appending; what was appended before it
stays in the total.  So does an object that is hashed by where it is kept, which is
of no account here: an ordinary object, one with slots, or a declaration.
-/

namespace Likeness.HashCode

/-- Where a total starts, and what it is multiplied by, unless told otherwise. -/
def defaultInitial : Int := 17

@[inherit_doc defaultInitial]
def defaultMultiplier : Int := 37

/-- An appending that stopped: the total so far, and the cause. -/
structure Stopped where
  total : Int
  fault : Fault

/-- The total after appending one code. -/
def step (multiplier total code : Int) : Int := wrap (total * multiplier + code)

/-- The result of a separate computation appended to a total. -/
def stepWith (multiplier total : Int) : Except Fault Int → Except Stopped Int
  | .ok code => .ok (step multiplier total code)
  | .error e => .error ⟨total, e⟩

/-- The codes of single values appended one after another. -/
def appendCodes (multiplier total : Int) (codes : List Int) : Int :=
  codes.foldl (step multiplier) total

/-- A code brought to 64 bits: a wider one is reduced modulo 2^61 - 1, its sign
    kept. -/
def narrow (code : Int) : Int :=
  if -(twoTo 63) ≤ code ∧ code < twoTo 63 then code else code.tmod (twoTo 61 - 1)

/-- The code of an object that knows its own: -1 is reserved and reads as -2. -/
def reserved (code : Int) : Int := if code = -1 then -2 else code

/-- The word that the own code of an object is appended as. -/
def ownCode (code : Int) : Int := wrap (reserved (narrow code))

/-- The field is part of the hash code of its record. -/
def counts (f : FieldInfo) : Bool := f.compared && f.hashed.getD true

/-- A field that counts has no value. -/
def lacksField (fs : List (FieldInfo × Option Value)) : Bool :=
  fs.any fun f => counts f.1 && f.2.isNone

/-- The field is private: its name starts with an underscore. -/
def isPrivate (name : String) : Bool := name.toList.head? == some '_'

/-- Only the total counts of an appending that ran on its own. -/
def alone : Except Stopped Int → Except Fault Int
  | .ok total => .ok total
  | .error s => .error s.fault

mutual

/-- The total after appending a value. -/
def append (m : Int) : Value → Int → Except Stopped Int
  | .null, t => .ok (step m t 0)
  | .bool b, t => .ok (step m t (if b then 0 else 1))
  | .int n, t => .ok (step m t (ofInt n))
  | .real x, t => .ok (step m t (ofFloat x))
  | .nan bits, t => .ok (step m t (overlay bits.toNat))
  | .illFormed codes, t => .ok (appendCodes m t (codes.map Int.ofNat))
  | .text s, t => .ok (appendCodes m t (s.toList.map fun c => (c.toNat : Int)))
  | .bytes _ octets, t => .ok (appendCodes m t (octets.map fun b => (b.toNat : Int)))
  | .list xs, t => appendAll m xs t
  | .tuple xs, t => appendAll m xs t
  | .range a b c, t => .ok (appendCodes m t ((Value.rangeItems a b c).map ofInt))
  | .set _ xs, t => stepWith m t ((sumMembers xs).map wrap)
  | .dict es, t => stepWith m t ((sumEntries es).map wrap)
  | .record _ fs, t =>
    stepWith m t (if lacksField fs then .error .noSuchField
      else alone (appendFields defaultMultiplier fs defaultInitial))
  | .charRange r negated, t =>
    stepWith m t (alone (append defaultMultiplier negated
      (appendCodes defaultMultiplier defaultInitial [r.first.toNat, r.last.toNat])))
  | .hashCode _ total, t => .ok (step m t (ownCode total))
  | .hashed code, t => .ok (step m t (ownCode code))
  | .object _, t => .error ⟨t, .wrongKind⟩
  | .slotted _ _, t => .error ⟨t, .wrongKind⟩
  | .declaration _, t => .error ⟨t, .wrongKind⟩
  | .unhashable, t => .error ⟨t, .wrongKind⟩
termination_by structural v => v

/-- The total after appending values one after another. -/
def appendAll (m : Int) : List Value → Int → Except Stopped Int
  | [], t => .ok t
  | x :: xs, t =>
    match append m x t with
    | .ok t => appendAll m xs t
    | .error s => .error s
termination_by structural xs => xs

/-- The sum of the codes of members, each computed on its own. -/
def sumMembers : List Value → Except Fault Int
  | [] => .ok 0
  | x :: xs =>
    match append defaultMultiplier x defaultInitial with
    | .error s => .error s.fault
    | .ok code => (sumMembers xs).map (code + ·)
termination_by structural xs => xs

/-- The sum of the codes of entries, each computed from its key and its value. -/
def sumEntries : List (Value × Value) → Except Fault Int
  | [] => .ok 0
  | (k, v) :: es =>
    match append defaultMultiplier k defaultInitial with
    | .error s => .error s.fault
    | .ok t =>
      match append defaultMultiplier v t with
      | .error s => .error s.fault
      | .ok code => (sumEntries es).map (code + ·)
termination_by structural es => es

/-- The total after appending the fields of a record that count and are not
    private. -/
def appendFields (m : Int) : List (FieldInfo × Option Value) → Int → Except Stopped Int
  | [], t => .ok t
  | (f, some v) :: fs, t =>
    if counts f && !isPrivate f.name then
      match append m v t with
      | .ok t => appendFields m fs t
      | .error s => .error s
    else appendFields m fs t
  | (_, none) :: fs, t => appendFields m fs t
termination_by structural fs => fs

end

end Likeness.HashCode
