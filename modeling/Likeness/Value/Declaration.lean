import Likeness.Value.Hashable
import Likeness.Value.Slots
import Likeness.Value.Written

/-!
# Declarations of records

A declaration names the fields of its records and gives default values to some.  It
is refused as a whole when its records could not be made.  A field of a record has
the value of the attribute of its name, or else its default value, if there is one.
-/

namespace Likeness.Declaration

/-- Words that are no names. -/
def reserved : List String := ["False", "None", "True", "and", "as", "assert", "async", "await",
  "break", "class", "continue", "def", "del", "elif", "else", "except", "finally", "for", "from",
  "global", "if", "import", "in", "is", "lambda", "nonlocal", "not", "or", "pass", "raise",
  "return", "try", "while", "with", "yield"]

/-- The names can be those of the fields of one declaration. -/
def areNames (names : List String) : Bool :=
  names.all (fun n => Slots.isName n && !reserved.contains n) && names.Nodup

/-- Refuses a default value that every record would share although it can be changed. -/
def checkDefault (name : String) : Value → Except Fault Unit
  | v@(.list _) | v@(.dict _) | v@(.set false _) | v@(.bytes true _) =>
    .error (.sharedDefault name v.kindName)
  | _ => .ok ()

/-- A field without a default value follows one that has one. -/
def isDisordered (fields : List (String × Option Value)) : Bool :=
  (fields.dropWhile fun f => f.2.isNone).any fun f => f.2.isNone

/-- Refuses a declaration of some fields, of which some have default values. -/
def check (fields : List (String × Option Value)) : Except Fault Unit := do
  if !areNames (fields.map (·.1)) then throw .wrongKind
  fields.forM fun f => f.2.elim (.ok ()) (checkDefault f.1)
  if isDisordered fields then throw .wrongKind

/-- The attributes of an object after one more is set.  Under the name of the dictionary
    of attributes, all of them are replaced. -/
def setAttribute (attributes : List (String × Value)) (name : String) (v : Value) :
    Except Fault (List (String × Value)) :=
  if name = Slots.dictionaryName then
    match v with
    | .dict es => .ok (es.filterMap fun
      | (.text s, w) => some (s, w)
      | _ => none)
    | _ => .error .wrongKind
  else .ok (Slots.put name v attributes)

/-- The attributes of an object after some are set, one after another. -/
def setAttributes (attributes more : List (String × Value)) :
    Except Fault (List (String × Value)) :=
  more.foldlM (fun attributes a => setAttribute attributes a.1 a.2) attributes

/-- The record of a declaration with some attributes. -/
def record (number : Nat) (fields : List (FieldInfo × Option Value))
    (attributes : List (String × Value)) : Value :=
  .record number (fields.map fun f => (f.1, (attributes.lookup f.1.name).or f.2))

end Likeness.Declaration
