import Likeness.Text.Quoted
import Likeness.Value.Slots

/-!
# Values as messages and tables show them

Inside a container texts are quoted; on its own a text is shown as it is.
-/

namespace Likeness.Value

/-- One octet inside quotes. -/
def octetChars (quote : Char) (b : UInt8) : List Char :=
  let c := Char.ofNat b.toNat
  if c == quote || c == '\\' then ['\\', c]
  else if c == '\t' then ['\\', 't']
  else if c == '\n' then ['\\', 'n']
  else if c == '\r' then ['\\', 'r']
  else if b < 0x20 || 0x7F ≤ b then '\\' :: 'x' :: Text.Quoted.hex 2 b.toNat
  else [c]

/-- Octets in quotes. -/
def octetsText (octets : List UInt8) : String :=
  let quote := Text.Quoted.quoteFor (octets.map fun b => Char.ofNat b.toNat)
  String.ofList ('b' :: quote :: octets.flatMap (octetChars quote) ++ [quote])

/-- A range with its bounds, and its step unless that is one. -/
def rangeText (start stop step : Int) : String :=
  let bounds := Decimal.intText start ++ ", " ++ Decimal.intText stop
  "range(" ++ bounds ++ (if step = 1 then "" else ", " ++ Decimal.intText step) ++ ")"

/-- Texts separated by commas. -/
def commas (items : List String) : String := String.intercalate ", " items

mutual

/-- A value inside a container. -/
def shown : Value → String
  | null => "None"
  | bool b => if b then "True" else "False"
  | int n => Decimal.intText n
  | real x => Decimal.Layout.message.text x
  | nan _ => Decimal.Layout.message.text (0 / 0)
  | text s => Text.quoted s
  | illFormed codes => Text.quotedCodes codes
  | bytes true octets => "bytearray(" ++ octetsText octets ++ ")"
  | bytes false octets => octetsText octets
  | list xs => "[" ++ commas (shownItems xs) ++ "]"
  | tuple [] => "()"
  | tuple [x] => "(" ++ shown x ++ ",)"
  | tuple xs => "(" ++ commas (shownItems xs) ++ ")"
  | range a b c => rangeText a b c
  | set frozen xs =>
    let members := "\x7b" ++ commas (shownItems xs) ++ "\x7d"
    if frozen then (if xs.isEmpty then "frozenset()" else "frozenset(" ++ members ++ ")")
    else if xs.isEmpty then "set()" else members
  | dict es => "\x7b" ++ commas (shownEntries es) ++ "\x7d"
  | charRange r negated =>
    "CharRange(start=" ++ Text.quoted (String.ofList [r.first]) ++ ", end="
      ++ Text.quoted (String.ofList [r.last]) ++ ", negated=" ++ shown negated ++ ")"
  | hashCode _ total => "HashCodeBuilder(total=" ++ Decimal.intText total ++ ")"
  | _ => "object"
termination_by structural v => v

/-- The items of a container. -/
def shownItems : List Value → List String
  | [] => []
  | x :: xs => shown x :: shownItems xs
termination_by structural xs => xs

/-- The entries of a dictionary. -/
def shownEntries : List (Value × Value) → List String
  | [] => []
  | (k, v) :: es => (shown k ++ ": " ++ shown v) :: shownEntries es
termination_by structural es => es

end

/-- The name of the kind of a value, as messages show it. -/
def kindName : Value → String
  | null => "NoneType"
  | bool _ => "bool"
  | int _ => "int"
  | real _ | nan _ => "float"
  | text _ | illFormed _ => "str"
  | bytes mutable _ => if mutable then "bytearray" else "bytes"
  | list _ => "list"
  | tuple _ => "tuple"
  | range _ _ _ => "range"
  | set frozen _ => if frozen then "frozenset" else "set"
  | dict _ => "dict"
  | declaration _ => "type"
  | charRange _ _ => "CharRange"
  | hashCode _ _ => "HashCodeBuilder"
  | slotted classes _ => (classes.getLast?.map ClassInfo.name).getD "object"
  | record _ _ | object _ | hashed _ | unhashable => "object"

/-- A value on its own: a text as it is, anything else as in a container. -/
def plain : Value → String
  | text s => s
  | v => v.shown

end Likeness.Value
