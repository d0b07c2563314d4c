import Likeness.Decimal.Numeral
import Likeness.Yaml.Cursor
import Likeness.Yaml.Refusal

/-!
# Quoted scalars

A scalar in single or double quotes.  Line breaks inside it are folded: one break
is a blank, more are one less.  Double quotes know escapes; in single quotes only
the quote itself is written twice.  An escape may stand for half of a character, so
the text is given by its code points.
-/

namespace Likeness.Yaml.Quoted

/-- The character that a letter stands for behind a backslash. -/
def escaped? (c : Char) : Option Char :=
  match c with
  | '0' => some '\x00'
  | 'a' => some '\x07'
  | 'b' => some '\x08'
  | 't' | '\t' => some '\t'
  | 'n' => some '\n'
  | 'v' => some '\x0b'
  | 'f' => some '\x0c'
  | 'r' => some '\r'
  | 'e' => some '\x1b'
  | ' ' => some ' '
  | '"' => some '"'
  | '\\' => some '\\'
  | '/' => some '/'
  | 'N' => some '\x85'
  | '_' => some '\xa0'
  | 'L' => some '\u2028'
  | 'P' => some '\u2029'
  | _ => none

/-- How many digits an escape by code has. -/
def codeWidth? (c : Char) : Option Nat :=
  match c with
  | 'x' => some 2
  | 'u' => some 4
  | 'U' => some 8
  | _ => none

/-- The breaks between two lines, with the blanks around them; a mark of a
    document may not stand at the start of a line. -/
def breaks : Nat → Cursor → Except Fault (List Nat × Cursor)
  | 0, c => .ok ([], c)
  | fuel + 1, c =>
    if c.documentEdge then refuse .token
    else
      let c := c.skip fun ch => ch == ' ' || ch == '\t'
      if c.sees isBreak then do
        let (b, c) := c.lineBreak
        let (bs, c) ← breaks fuel c
        .ok (codesOf b ++ bs, c)
      else .ok ([], c)

/-- The largest number that is looked at as a code. -/
def codeLimit : Nat := twoTo 31 - 1

/-- The code point of an escape by code. -/
def coded (c : Cursor) (width : Nat) : Except Fault (List Nat × Cursor) :=
  let ds := c.rest.take width
  if ds.length = width && ds.all isHexDigit then
    let code := (Decimal.readNat? 16 ds).getD 0
    if codeLimit < code then .error .outOfRange
    else if 0x10FFFF < code then .error .noSuchCharacter
    else .ok ([code], c.advance width)
  else refuse .token

/-- An escape, behind its backslash. -/
def escape (c : Cursor) : Except Fault (List Nat × Cursor) :=
  match c.peek with
  | none => refuse .token
  | some ch =>
    match escaped? ch, codeWidth? ch with
    | some d, _ => .ok ([d.toNat], c.next)
    | none, some width => coded c.next width
    | none, none => if isBreak ch then breaks c.fuel c.lineBreak.2 else refuse .token

/-- The characters up to a blank, a break or the closing quote. -/
def solid (double : Bool) : Nat → Cursor → Except Fault (List Nat × Cursor)
  | 0, c => .ok ([], c)
  | fuel + 1, c =>
    match c.peek with
    | none => .ok ([], c)
    | some ch =>
      if isGap ch then .ok ([], c)
      else if !double && ch == '\'' then
        if c.peekAt 1 = some '\'' then do
          let (cs, c) ← solid double fuel (c.advance 2)
          .ok ('\''.toNat :: cs, c)
        else .ok ([], c)
      else if double && ch == '"' then .ok ([], c)
      else if double && ch == '\\' then do
        let (ds, c) ← escape c.next
        let (cs, c) ← solid double fuel c
        .ok (ds ++ cs, c)
      else do
        let (cs, c) ← solid double fuel c.next
        .ok (ch.toNat :: cs, c)

/-- The blanks between two words, or the breaks between two lines, folded. -/
def gap (c : Cursor) : Except Fault (List Nat × Cursor) :=
  let blanks := c.run fun ch => ch == ' ' || ch == '\t'
  let c := c.advance blanks.length
  match c.peek with
  | none => refuse .token
  | some ch =>
    if isBreak ch then do
      let (b, c) := c.lineBreak
      let (bs, c) ← breaks c.fuel c
      .ok (codesOf (if b ≠ ['\n'] then b else if bs.isEmpty then [' '] else []) ++ bs, c)
    else .ok (codesOf blanks, c)

/-- The words and gaps up to the closing quote. -/
def body (double : Bool) : Nat → Cursor → Except Fault (List Nat × Cursor)
  | 0, _ => refuse .token
  | fuel + 1, c => do
    let (word, c) ← solid double c.fuel c
    if c.seesChar (if double then '"' else '\'') then .ok (word, c.next)
    else
      let (blank, c) ← gap c
      let (cs, c) ← body double fuel c
      .ok (word ++ blank ++ cs, c)

/-- A scalar from its opening quote on. -/
def scan (double : Bool) (c : Cursor) : Except Fault (List Nat × Cursor) :=
  body double c.fuel c.next

end Likeness.Yaml.Quoted
