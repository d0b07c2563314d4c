import Likeness.CharSet.Range
import Likeness.Scalar

/-!
# Values

Sequences to be compared, fields to be hashed, settings and trace records hold
values of many kinds.  `Value` is their one type; the views below say what a
value is when it is used as a sequence, as a number or as a condition.
-/

namespace Likeness

/-- What the declaration of a record says about one field. -/
structure FieldInfo where
  name : String
  /-- The field takes part in comparing records. -/
  compared : Bool
  /-- Whether the field takes part in hashing, if the declaration says so;
      otherwise it does when it is compared. -/
  hashed : Option Bool

/-- What a class says its slots are: one name, or several. -/
inductive SlotNames where
  | one (name : String)
  | several (names : List String)

/-- A class of objects: its name, and its slots, if it says what they are. -/
structure ClassInfo where
  name : String
  slots : Option SlotNames

/-- A value of any kind. -/
inductive Value where
  | null
  | bool (b : Bool)
  | int (n : Int)
  | real (x : Float)
  /-- A double that is not a number, by its bits: they are kept, although the
      doubles that they make up cannot be told apart. -/
  | nan (bits : UInt64)
  | text (s : String)
  /-- A text by its code points, some of which are halves of a character. -/
  | illFormed (codes : List Nat)
  /-- Octets, in a sequence that can or cannot be changed. -/
  | bytes (mutable : Bool) (octets : List UInt8)
  | list (items : List Value)
  | tuple (items : List Value)
  /-- The integers from `start` on, `step` apart, before `stop`. -/
  | range (start stop step : Int)
  | set (frozen : Bool) (members : List Value)
  | dict (entries : List (Value × Value))
  /-- A record: its declaration, by number, and its fields with their values, as far as
      they have been given one. -/
  | record (declaration : Nat) (fields : List (FieldInfo × Option Value))
  /-- A declaration of records itself, whose fields may have default values. -/
  | declaration (fields : List (FieldInfo × Option Value))
  /-- A span of characters, with a value that counts as negating it when it holds
      as a condition. -/
  | charRange (span : CharSpan) (negated : Value)
  /-- A hash code under construction: its multiplier and its total. -/
  | hashCode (multiplier total : Int)
  /-- An object with attributes. -/
  | object (attributes : List (String × Value))
  /-- An object whose classes, base first, may declare slots. -/
  | slotted (classes : List ClassInfo) (attributes : List (String × Value))
  /-- An object that knows its own hash code. -/
  | hashed (code : Int)
  /-- An object without a hash code. -/
  | unhashable

namespace Value

instance : Inhabited Value := ⟨null⟩

/-- A text value from characters. -/
def ofChars (s : List Char) : Value := text (String.ofList s)

/-- A code point that is half of a character. -/
def isHalf (code : Nat) : Bool := 0xD800 ≤ code && code ≤ 0xDFFF

/-- A text value from code points. -/
def ofCodes (codes : List Nat) : Value :=
  if codes.any isHalf then illFormed codes else ofChars (codes.map Char.ofNat)

/-- A score as a value. -/
def ofScore : Score Float → Value
  | .whole n => int n
  | .real x => real x

/-- A value that may be absent. -/
def ofOption {α : Type} (f : α → Value) : Option α → Value
  | none => null
  | some a => f a

/-- How many integers a range holds. -/
def rangeLength (start stop step : Int) : Nat :=
  if 0 < step then ((stop - start + step - 1) / step).toNat
  else if step < 0 then ((start - stop - step - 1) / (-step)).toNat
  else 0

/-- The integers of a range, in order. -/
def rangeItems (start stop step : Int) : List Int :=
  (List.range (rangeLength start stop step)).map fun (i : Nat) => start + step * (i : Int)

/-- The items of a value that is a sequence. -/
def items? : Value → Option (List Value)
  | text s => some (s.toList.map fun c => ofChars [c])
  | illFormed codes => some (codes.map fun c => ofCodes [c])
  | bytes _ octets => some (octets.map fun b => int b.toNat)
  | list xs => some xs
  | tuple xs => some xs
  | range start stop step => some ((rangeItems start stop step).map int)
  | _ => none

/-- A value counts as a condition that holds unless it is nothing, false, zero
    or empty. -/
def holds : Value → Bool
  | null => false
  | bool b => b
  | int n => n != 0
  | real x => !(x == 0)
  | text s => s != ""
  | bytes _ octets => !octets.isEmpty
  | list xs | tuple xs => !xs.isEmpty
  | range start stop step => rangeLength start stop step != 0
  | set _ xs => !xs.isEmpty
  | dict es => !es.isEmpty
  | _ => true

/-- The elements of a value that can be gone through: items, keys, members, or the
    characters of a span that is not negated. -/
def elements? : Value → Option (List Value)
  | set _ xs => some xs
  | dict es => some (es.map (·.1))
  | charRange span negated =>
    if negated.holds then none else some (span.codes.map fun c => ofCodes [c])
  | v => v.items?

/-- Going through the value can be begun, although it may turn out that it has no
    elements to be gone through. -/
def canBeBegun : Value → Bool
  | charRange _ _ => true
  | v => v.elements?.isSome

/-- How many elements a value can be gone through by; none if it cannot. -/
def size : Value → Nat
  | range start stop step => rangeLength start stop step
  | charRange span _ => span.last.toNat + 1 - span.first.toNat
  | v => (v.elements?.getD []).length

/-- The first elements of a value. -/
def front? (n : Nat) : Value → Option (List Value)
  | range start stop step =>
    some ((List.range (min n (rangeLength start stop step))).map fun (i : Nat) =>
      int (start + step * (i : Int)))
  | v => v.elements?.map (·.take n)

/-- The most items that anything can be said to have. -/
def countLimit : Nat := twoTo 63 - 1

/-- How many items a value has; a span of characters does not say. -/
def count : Value → Except Fault Nat
  | range start stop step =>
    let n := rangeLength start stop step
    if countLimit < n then .error .outOfRange else .ok n
  | charRange _ _ => .error .wrongKind
  | v => (v.elements?).elim (.error .wrongKind) fun xs => .ok xs.length

/-- The number that a value is; a truth value counts as 0 or 1. -/
def number? : Value → Option (Score Float)
  | bool b => some (.whole (if b then 1 else 0))
  | int n => some (.whole n)
  | real x => some (.real x)
  | nan bits => some (.real (Float.ofBits bits))
  | _ => none

/-- Nothing is there. -/
def isNull : Value → Bool
  | null => true
  | _ => false

/-- The integer that a value is. -/
def int? : Value → Option Int
  | bool b => some (if b then 1 else 0)
  | int n => some n
  | _ => none

end Value

end Likeness
