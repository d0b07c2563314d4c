import Likeness.HashCode.Append
import Likeness.Value.Hashable
import Likeness.Value.Written

/-!
# Hashing the fields of an object

The fields of an object are those its declaration counts, if it is a record; else
the slots that its classes declare, base first, as far as they have a value; else
its attributes.  Fields may be excluded by name, and private ones are left out
unless they are asked for.
-/

namespace Likeness.HashCode

/-- The slots with a value, in order of declaration, each found by the name that it
    is declared by. -/
def filledSlots (slots : List Slots.Slot) (attributes : List (String × Value)) :
    List (String × Value) :=
  slots.filterMap fun s => (attributes.lookup s.declared).map (s.declared, ·)

/-- The fields that count, with their values.  All of them are asked for, so that it is
    refused if one has no value, whether it would be left out or not. -/
def valuedFields : List (FieldInfo × Option Value) → Except Fault (List (String × Value))
  | [] => .ok []
  | (f, v) :: fs =>
    if counts f then
      match v with
      | none => .error .noSuchField
      | some v => (valuedFields fs).map ((f.name, v) :: ·)
    else valuedFields fs

/-- The fields of a value that can be hashed, in order. -/
def declaredFields : Value → Except Fault (List (String × Value))
  | .record _ fs => valuedFields fs
  | .declaration fs => valuedFields fs
  | .charRange r negated =>
    .ok [("start", Value.ofChars [r.first]), ("end", Value.ofChars [r.last]),
      ("negated", negated)]
  | .slotted classes attributes =>
    match Slots.ofClasses classes with
    | [] => .ok attributes
    | slots => .ok (filledSlots slots attributes)
  | .object attributes => .ok attributes
  | .hashCode multiplier total => .ok [("multiplier", .int multiplier), ("_total", .int total)]
  | .hashed code => .ok [("_code", .int code)]
  | _ => .ok []

/-- The names among some values, each of which has to be fit for a set. -/
def excludedNames (v : Value) : Except Fault (List String) :=
  match v.elements? with
  | none => .error .wrongKind
  | some xs =>
    if xs.all Value.isHashable then
      .ok (xs.filterMap fun
        | .text s => some s
        | _ => none)
    else .error .wrongKind

/-- A hash code under construction. -/
structure Builder where
  multiplier : Int
  total : Int

/-- The number is even. -/
def isEven (s : Score Float) : Bool :=
  match s.exact with
  | .ratio num den => num % (2 * den : Nat) = 0
  | _ => false

/-- The integer that starts or multiplies a total, unless it is another odd number;
    an even one is refused for a reason. -/
def oddNumber (even : String → Fault) (v : Value) : Except Fault (Option Int) :=
  match v.number? with
  | none => .error .wrongKind
  | some s => if isEven s then .error (even v.plain) else .ok v.int?

/-- Starts a hash code with two odd integers. -/
def start (initial multiplier : Value) : Except Fault Builder := do
  match ← oddNumber .evenInitial initial, ← oddNumber .evenMultiplier multiplier with
  | some n, some m => .ok ⟨m, wrap n⟩
  | _, _ => .error .wrongKind

/-- What a hash code is given at one call: a value, or the hash code of a base. -/
inductive Call where
  | value (v : Value)
  | base (code : Value)

/-- The total after one call; what is no integer is no hash code of a base. -/
def Builder.receive (b : Builder) : Call → Except Stopped Int
  | .value v => append b.multiplier v b.total
  | .base code =>
    stepWith b.multiplier b.total (code.int?.elim (.error .wrongKind) fun n => .ok (wrap n))

/-- The builder after calls one after another, up to the first that stops. -/
def Builder.receiveAll (b : Builder) : List Call → Except Stopped Builder
  | [] => .ok b
  | call :: calls =>
    match b.receive call with
    | .ok total => Builder.receiveAll { b with total } calls
    | .error s => .error s

/-- The fields that are left after exclusion. -/
def selectFields (excluded : List String) (includePrivate : Bool)
    (fields : List (String × Value)) : List Value :=
  (fields.filter fun f =>
    !excluded.contains f.1 && (includePrivate || !isPrivate f.1)).map (·.2)

/-- The hash code of the fields of a value. -/
def ofFields (v exclude : Value) (includePrivate : Bool) (initial multiplier : Value) :
    Except Fault Int :=
  match v with
  | .null => .error (.absent "obj")
  | v => do
    let excluded ← excludedNames exclude
    let b ← start initial multiplier
    let fields ← declaredFields v
    alone (appendAll b.multiplier (selectFields excluded includePrivate fields) b.total)

end Likeness.HashCode
