import Likeness.Decimal.Numeral
import Likeness.Value.Basic

/-!
# Slots

A class may declare the names of slots.  Its objects then have no other attributes,
unless one of the classes in its chain declares none, or asks for a dictionary of
attributes among its slots.
-/

namespace Likeness.Slots

/-- The name among slots that asks for a dictionary of attributes. -/
def dictionaryName : String := "__dict__"

/-- The name among slots that asks for weak references. -/
def weakName : String := "__weakref__"

/-- The name asks for something that is no slot. -/
def isReserved (name : String) : Bool := name = dictionaryName || name = weakName

/-- The name is private to its class: it starts with two underscores and does not
    end with two. -/
def isPrivate (name : String) : Bool :=
  match name.toList with
  | '_' :: '_' :: rest => !(('_' :: '_' :: rest).reverse.take 2 == ['_', '_'])
  | _ => false

/-- The name that a class keeps a slot under.  Before a private one there is that of the
    class, less the underscores that it starts with, unless it has no more than these. -/
def keptName (owner name : String) : String :=
  match isPrivate name, owner.toList.dropWhile (· == '_') with
  | true, c :: rest => "_" ++ String.ofList (c :: rest) ++ name
  | _, _ => name

/-- A slot: the name that it is declared by, and the one that it is kept under. -/
structure Slot where
  declared : String
  kept : String

/-- The names in a declaration of slots, in order. -/
def declaredNames : SlotNames → List String
  | .one name => [name]
  | .several names => names

/-- The names that a class declares slots by; without a declaration it has none. -/
def namesOf (c : ClassInfo) : List String := (c.slots.map declaredNames).getD []

/-- The slots that some classes declare, base first. -/
def ofClasses (classes : List ClassInfo) : List Slot :=
  classes.flatMap fun c =>
    ((namesOf c).filter fun name => !isReserved name).map fun name =>
      ⟨name, keptName c.name name⟩

/-- The text is a name: a letter or an underscore, and more of these or digits. -/
def isName (s : String) : Bool :=
  match s.toList with
  | [] => false
  | c :: rest => isFirst c && rest.all fun c => isFirst c || Decimal.isDigit c
where
  /-- The character begins a name. -/
  isFirst (c : Char) : Bool := c.isAlpha || c = '_' || 0xAA ≤ c.toNat

/-- Whether objects have what a reserved name asks for, after one more class. -/
def grant (reserved : String) (granted : Bool) : Option SlotNames → Except Fault Bool
  | none => .ok true
  | some names =>
    let n := (declaredNames names).count reserved
    if n = 0 then .ok granted
    else if granted || n ≠ 1 then .error .wrongKind
    else .ok true

/-- Whether objects of a chain of classes have a dictionary of attributes; refuses
    slots that are no names, or that ask for what is there already. -/
def check (classes : List ClassInfo) : Except Fault Bool := do
  let granted ← classes.foldlM (fun (granted : Bool × Bool) c => do
    if (namesOf c).all isName then
      .ok (← grant dictionaryName granted.1 c.slots, ← grant weakName granted.2 c.slots)
    else .error .wrongKind) (false, false)
  .ok granted.1

/-- The attribute of a name, put among others. -/
def put (name : String) (v : Value) : List (String × Value) → List (String × Value)
  | [] => [(name, v)]
  | (n, w) :: rest => if n = name then (n, v) :: rest else (n, w) :: put name v rest

/-- Attributes that are set one after another. -/
def putAll (values : List (String × Value)) : List (String × Value) :=
  values.foldl (fun attributes v => put v.1 v.2 attributes) []

/-- The object of a chain of classes whose attributes are set one after another. -/
def make (classes : List ClassInfo) (values : List (String × Value)) : Except Fault Value := do
  let kept := (ofClasses classes).map Slot.kept
  if (← check classes) || values.all fun v => kept.contains v.1 then
    .ok (.slotted classes (putAll values))
  else .error .noSuchField

end Likeness.Slots
