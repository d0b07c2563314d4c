/-!
# Reading a text with line and column

A cursor stands in a text and knows its line and its column, on which the
structure of a YAML document depends.
-/

namespace Likeness.Yaml

/-- A place in a text: what follows it, and how far it is from the start, in
    characters, in lines and in its line. -/
structure Cursor where
  rest : List Char
  index : Nat
  line : Nat
  column : Nat

/-- The character ends a line. -/
def isBreak (c : Char) : Bool :=
  c == '\n' || c == '\r' || c == '\x85' || c == '\u2028' || c == '\u2029'

/-- The character ends a line or is blank. -/
def isGap (c : Char) : Bool := c == ' ' || c == '\t' || isBreak c

/-- A letter, a digit, a hyphen or an underscore, as in names. -/
def isNameChar (c : Char) : Bool :=
  ('0' ≤ c && c ≤ '9') || ('A' ≤ c && c ≤ 'Z') || ('a' ≤ c && c ≤ 'z') || c == '-' || c == '_'

/-- A hexadecimal digit. -/
def isHexDigit (c : Char) : Bool :=
  ('0' ≤ c && c ≤ '9') || ('A' ≤ c && c ≤ 'F') || ('a' ≤ c && c ≤ 'f')

/-- The code points of a text. -/
def codesOf (cs : List Char) : List Nat := cs.map Char.toNat

namespace Cursor

/-- The start of a text. -/
def start (cs : List Char) : Cursor := ⟨cs, 0, 0, 0⟩

/-- The character at the cursor. -/
def peek (c : Cursor) : Option Char := c.rest.head?

/-- The character some places further. -/
def peekAt (c : Cursor) (n : Nat) : Option Char := c.rest[n]?

/-- The character at a place is in a class, or the text has ended there. -/
def endsAt (c : Cursor) (n : Nat) (p : Char → Bool) : Bool :=
  match c.peekAt n with
  | none => true
  | some ch => p ch

/-- The character at the cursor is in a class. -/
def sees (c : Cursor) (p : Char → Bool) : Bool := c.peek.any p

/-- The character at the cursor is this one. -/
def seesChar (c : Cursor) (ch : Char) : Bool := c.peek == some ch

/-- The next place. -/
def next (c : Cursor) : Cursor :=
  match c.rest with
  | [] => c
  | ch :: rest =>
    if isBreak ch then ⟨rest, c.index + 1, c.line + 1, 0⟩
    else ⟨rest, c.index + 1, c.line, if ch = '\ufeff' then c.column else c.column + 1⟩

/-- The place some characters further. -/
def advance (c : Cursor) : Nat → Cursor
  | 0 => c
  | n + 1 => c.next.advance n

/-- The characters of a class in front of the cursor. -/
def run (c : Cursor) (p : Char → Bool) : List Char := c.rest.takeWhile p

/-- The place behind the characters of a class. -/
def skip (c : Cursor) (p : Char → Bool) : Cursor := c.advance (c.run p).length

/-- The place behind a line break and what it means as text; the two separators
    stand for themselves, other breaks for a line feed. -/
def lineBreak (c : Cursor) : List Char × Cursor :=
  match c.peek with
  | none => ([], c)
  | some ch =>
    if ch = '\u2028' ∨ ch = '\u2029' then ([ch], c.next)
    else if isBreak ch then (['\n'], c.next)
    else ([], c)

/-- A mark of three characters that begins or ends a document stands here. -/
def documentMark (c : Cursor) (mark : Char) : Bool :=
  c.rest.take 3 = [mark, mark, mark] && c.endsAt 3 isGap

/-- A document begins or ends here. -/
def documentEdge (c : Cursor) : Bool := c.documentMark '-' || c.documentMark '.'

/-- The place behind a comment. -/
def skipComment (c : Cursor) : Cursor :=
  if c.seesChar '#' then c.skip fun ch => !isBreak ch else c

/-- A bound on the steps that can be taken from here. -/
def fuel (c : Cursor) : Nat := c.rest.length + 1

end Cursor

end Likeness.Yaml
