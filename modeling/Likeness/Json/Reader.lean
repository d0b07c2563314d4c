import Likeness.Json.Quoted
import Likeness.Value.Equality

/-!
# Reading JSON

A document is one value with blanks around it.  Beside the numbers of the
standard the three special values of doubles are read by name.  The last of
several entries of one name counts.  Integers are exact; a number with a point
or an exponent is the nearest double.
-/

namespace Likeness.Json

/-- Blank between the parts of a document. -/
def isBlank (c : Char) : Bool := c == ' ' || c == '\t' || c == '\n' || c == '\r'

/-- The document from its next part on. -/
def skipBlanks (cs : List Char) : List Char := cs.dropWhile isBlank

/-- How many digits an integer may have. -/
def digitLimit : Nat := 4300

/-- How deep arrays and objects may be nested.  The reader itself has no limit: what stops it
    is the limit of nested calls, 1000 unless it is changed, of which the calls around the
    reader have taken theirs when a document is loaded.  From deeper calls fewer are left. -/
def depthLimit : Nat := 990

/-- What follows a word, if the document goes on with it. -/
def cutWord? (word : String) (cs : List Char) : Option (List Char) :=
  let w := word.toList
  if cs.take w.length = w then some (cs.drop w.length) else none

/-! ## Numbers -/

/-- The whole part of a number: a zero alone, or digits that do not begin with one. -/
def wholePart? (cs : List Char) : Option (List Char × List Char) :=
  match cs with
  | [] => none
  | c :: rest =>
    if c = '0' then some (['0'], rest)
    else if Decimal.isDigit c then
      some (c :: rest.takeWhile Decimal.isDigit, rest.dropWhile Decimal.isDigit)
    else none

/-- The fraction of a number, which may be missing; a point without a digit
    behind it does not belong to the number. -/
def fractionPart (cs : List Char) : List Char × List Char :=
  match cs with
  | '.' :: rest =>
    let ds := rest.takeWhile Decimal.isDigit
    if ds.isEmpty then ([], cs) else ('.' :: ds, rest.dropWhile Decimal.isDigit)
  | _ => ([], cs)

/-- The exponent of a number, which may be missing; a mark without digits does not
    belong to the number. -/
def exponentPart (cs : List Char) : List Char × List Char :=
  match cs with
  | [] => ([], cs)
  | c :: rest =>
    if c = 'e' ∨ c = 'E' then
      let (sign, body) := match rest with
        | '-' :: rest => (['-'], rest)
        | '+' :: rest => (['+'], rest)
        | rest => ([], rest)
      let ds := body.takeWhile Decimal.isDigit
      if ds.isEmpty then ([], cs) else (c :: sign ++ ds, body.dropWhile Decimal.isDigit)
    else ([], cs)

/-- A number, and what follows it. -/
def number (cs : List Char) : Except Refusal (Value × List Char) :=
  let (sign, body) := match cs with
    | '-' :: rest => (['-'], rest)
    | cs => ([], cs)
  match wholePart? body with
  | none => .error (.at .valueExpected cs.length)
  | some (whole, rest) =>
    let (fraction, rest) := fractionPart rest
    let (exponent, rest) := exponentPart rest
    if fraction.isEmpty && exponent.isEmpty then
      if digitLimit < whole.length then .error (.tooManyDigits whole.length)
      else
        let n := (Decimal.readNat? 10 whole).getD 0
        .ok (.int (if sign.isEmpty then (n : Int) else -(n : Int)), rest)
    else
      match Decimal.readFloat? (sign ++ whole ++ fraction ++ exponent) with
      | some x => .ok (.real x, rest)
      | none => .error (.at .valueExpected cs.length)

/-- The values that are read by name. -/
def namedValues : List (String × Value) := [
  ("null", .null), ("true", .bool true), ("false", .bool false),
  ("NaN", .real (0 / 0)),
  ("Infinity", .real Decimal.infinity),
  ("-Infinity", .real (-Decimal.infinity))]

/-- A value that is neither a text nor an array nor an object. -/
def scalar (cs : List Char) : Except Refusal (Value × List Char) :=
  match namedValues.findSome? fun n => (cutWord? n.1 cs).map fun rest => (n.2, rest) with
  | some r => .ok r
  | none => number cs

/-! ## Arrays and objects -/

/-- The code points of a text behind its opening quote. -/
def quoted (rest : List Char) : Except Refusal (List Nat × List Char) :=
  Quoted.textFrom (rest.length + 1) (rest.length + 1) rest

mutual

/-- A value and what follows it.  The first number bounds the parts that are
    read, the second is how deep the value stands. -/
def valueFrom : Nat → Nat → List Char → Except Refusal (Value × List Char)
  | 0, _, cs => .error (.at .valueExpected cs.length)
  | _ + 1, _, [] => .error (.at .valueExpected 0)
  | fuel + 1, depth, c :: rest =>
    if c = '"' then (quoted rest).map fun r => (Value.ofCodes r.1, r.2)
    else if c = '[' then
      if depthLimit ≤ depth then .error .tooDeep
      else
        match skipBlanks rest with
        | ']' :: rest => .ok (.list [], rest)
        | rest => do
          let (items, rest) ← itemsFrom fuel (depth + 1) rest
          .ok (.list items, rest)
    else if c = '\x7b' then
      if depthLimit ≤ depth then .error .tooDeep
      else
        match skipBlanks rest with
        | '\x7d' :: rest => .ok (.dict [], rest)
        | rest => do
          let (entries, rest) ← entriesFrom fuel (depth + 1) rest
          .ok (Value.dictOf entries, rest)
    else scalar (c :: rest)

/-- The items of an array, one at least, and what follows the array. -/
def itemsFrom : Nat → Nat → List Char → Except Refusal (List Value × List Char)
  | 0, _, cs => .error (.at .valueExpected cs.length)
  | fuel + 1, depth, cs => do
    let (item, rest) ← valueFrom fuel depth cs
    match skipBlanks rest with
    | ']' :: rest => .ok ([item], rest)
    | ',' :: rest => do
      let (items, rest) ← itemsFrom fuel depth (skipBlanks rest)
      .ok (item :: items, rest)
    | rest => .error (.at .commaExpected rest.length)

/-- The entries of an object, one at least, and what follows the object. -/
def entriesFrom : Nat → Nat → List Char → Except Refusal (List (Value × Value) × List Char)
  | fuel + 1, depth, '"' :: rest => do
    let (name, rest) ← quoted rest
    match skipBlanks rest with
    | ':' :: rest => do
      let (v, rest) ← valueFrom fuel depth (skipBlanks rest)
      match skipBlanks rest with
      | '\x7d' :: rest => .ok ([(Value.ofCodes name, v)], rest)
      | ',' :: rest => do
        let (entries, rest) ← entriesFrom fuel depth (skipBlanks rest)
        .ok ((Value.ofCodes name, v) :: entries, rest)
      | rest => .error (.at .commaExpected rest.length)
    | rest => .error (.at .colonExpected rest.length)
  | _, _, cs => .error (.at .nameExpected cs.length)

end

/-- The value of a document. -/
def read (cs : List Char) : Except Refusal Value :=
  if cs.head? = some '\ufeff' then .error (.at .byteOrderMark cs.length)
  else do
    let (v, rest) ← valueFrom (2 * cs.length + 1) 0 (skipBlanks cs)
    match skipBlanks rest with
    | [] => .ok v
    | rest => .error (.at .extraData rest.length)

end Likeness.Json
