import Likeness.Text.Utf8
import Likeness.Yaml.Block
import Likeness.Yaml.Plain
import Likeness.Yaml.Quoted

/-!
# Tokens

The tokens of a document, and those that are read from a place without a look at
what is around it: directives, names, tags.
-/

namespace Likeness.Yaml

/-- A line that says something about the documents after it. -/
inductive Directive where
  | version (major : Nat)
  /-- Tags with the handle begin with the head. -/
  | tagHandle (handle head : List Char)
  | other
  deriving Repr, DecidableEq

/-- A tag as it is written: behind a handle, or whole. -/
structure TagText where
  handle : Option (List Char)
  suffix : List Char
  deriving Repr, DecidableEq

/-- A token. -/
inductive Token where
  | directive (d : Directive)
  | documentStart
  | documentEnd
  | streamEnd
  | blockSequenceStart
  | blockMappingStart
  | blockEnd
  | flowSequenceStart
  | flowSequenceEnd
  | flowMappingStart
  | flowMappingEnd
  | flowEntry
  | blockEntry
  | key
  | value
  | anchor (name : List Char)
  | alias (name : List Char)
  | tag (t : TagText)
  /-- The text of a scalar by its code points; only a plain one may mean more than
      its text. -/
  | scalar (codes : List Nat) (plain : Bool)
  /-- No token could be read here. -/
  | bad (fault : Fault)
  deriving Repr, DecidableEq

namespace Token

/-! ## Names and tags -/

/-- A class of characters that ends a directive or a tag: blanks and breaks. -/
def endsWord (c : Char) : Bool := c == ' ' || isBreak c

/-- The characters that may follow a name: gaps, and some marks. -/
def endsName (c : Char) : Bool :=
  isGap c || c == '?' || c == ':' || c == ',' || c == ']' || c == '\x7d' || c == '%' || c == '@'
    || c == '\x60'

/-- The name of an anchor or of an alias, behind its mark. -/
def name (c : Cursor) : Except Fault (List Char × Cursor) :=
  let n := c.run isNameChar
  let c := c.advance n.length
  if n.isEmpty || !c.endsAt 0 endsName then refuse .token else .ok (n, c)

/-- The octets that are written as percent signs with two digits each. -/
def uriOctets : Nat → Cursor → Except Fault (List UInt8 × Cursor)
  | 0, c => .ok ([], c)
  | fuel + 1, c =>
    if c.seesChar '%' then
      let ds := (c.rest.drop 1).take 2
      if ds.length = 2 && ds.all isHexDigit then do
        let (octets, c) ← uriOctets fuel (c.advance 3)
        .ok (UInt8.ofNat ((Decimal.readNat? 16 ds).getD 0) :: octets, c)
      else refuse .token
    else .ok ([], c)

/-- The characters of a tag besides letters and digits. -/
def isUriMark (c : Char) : Bool := "-;/?:@&=+$,_.!~*'()[]".toList.contains c

/-- The text of a tag behind its handle; octets in it are UTF-8. -/
def uriParts : Nat → Cursor → Except Fault (List Char × Cursor)
  | 0, c => .ok ([], c)
  | fuel + 1, c =>
    match c.peek with
    | none => .ok ([], c)
    | some ch =>
      if ch = '%' then do
        let (octets, c) ← uriOctets c.fuel c
        let d := Text.Utf8.decode octets
        if d.fault.isSome then refuse .token
        else
          let (cs, c) ← uriParts fuel c
          .ok (d.chars ++ cs, c)
      else if isNameChar ch || isUriMark ch then do
        let (cs, c) ← uriParts fuel c.next
        .ok (ch :: cs, c)
      else .ok ([], c)

/-- The text of a tag behind its handle, which has to be there. -/
def uri (c : Cursor) : Except Fault (List Char × Cursor) := do
  let (cs, d) ← uriParts c.fuel c
  if d.index = c.index then refuse .token else .ok (cs, d)

/-- A handle: an exclamation mark, or a name between two. -/
def handle (c : Cursor) : Except Fault (List Char × Cursor) :=
  if !c.seesChar '!' then refuse .token
  else if c.peekAt 1 = some ' ' then .ok (['!'], c.next)
  else
    let n := c.next.run isNameChar
    let d := c.next.advance n.length
    if d.seesChar '!' then .ok ('!' :: n ++ ['!'], d.next) else refuse .token

/-- The tag contains a second exclamation mark. -/
def hasHandle (c : Cursor) : Bool := (c.next.run fun ch => !endsWord ch).contains '!'

/-- A tag from its mark on. -/
def tagText (c : Cursor) : Except Fault (TagText × Cursor) := do
  let (t, c) ←
    if c.peekAt 1 = some '<' then do
      let (cs, d) ← uri (c.advance 2)
      if d.seesChar '>' then .ok (TagText.mk none cs, d.next) else refuse .token
    else if c.endsAt 1 isGap then .ok (TagText.mk none ['!'], c.next)
    else if hasHandle c then do
      let (h, d) ← handle c
      let (cs, d) ← uri d
      .ok (TagText.mk (some h) cs, d)
    else do
      let (cs, d) ← uri c.next
      .ok (TagText.mk (some ['!']) cs, d)
  if c.endsAt 0 endsWord then .ok (t, c) else refuse .token

/-! ## Directives -/

/-- How many digits a number of a version may have. -/
def versionLimit : Nat := 4300

/-- A number of a version. -/
def versionNumber (c : Cursor) : Except Fault (Nat × Cursor) :=
  let ds := c.run Decimal.isDigit
  match Decimal.readNat? 10 ds with
  | some n =>
    if versionLimit < ds.length then .error (.tooManyDigits (some ds.length))
    else .ok (n, c.advance ds.length)
  | none => refuse .token

/-- The version that a directive asks for. -/
def versionOf (c : Cursor) : Except Fault (Directive × Cursor) := do
  let (major, c) ← versionNumber (c.skip (· == ' '))
  if !c.seesChar '.' then refuse .token
  else
    let (_, c) ← versionNumber c.next
    if c.endsAt 0 endsWord then .ok (.version major, c) else refuse .token

/-- The handle that a directive declares. -/
def handleOf (c : Cursor) : Except Fault (Directive × Cursor) := do
  let (h, c) ← handle (c.skip (· == ' '))
  if !c.seesChar ' ' then refuse .token
  else
    let (head, c) ← uri (c.skip (· == ' '))
    if c.endsAt 0 endsWord then .ok (.tagHandle h head, c) else refuse .token

/-- A directive from its percent sign on, with its line. -/
def directiveLine (c : Cursor) : Except Fault (Directive × Cursor) := do
  let c := c.next
  let n := c.run isNameChar
  let c := c.advance n.length
  if n.isEmpty || !c.endsAt 0 endsWord then refuse .token
  else
    let (d, c) ←
      if n = "YAML".toList then versionOf c
      else if n = "TAG".toList then handleOf c
      else .ok (Directive.other, c.skip fun ch => !isBreak ch)
    let c := (c.skip (· == ' ')).skipComment
    if c.endsAt 0 isBreak then .ok (d, c.lineBreak.2) else refuse .token

end Token

end Likeness.Yaml
