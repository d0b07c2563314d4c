import Likeness.Yaml.Cursor

/-!
# Plain scalars

A scalar without quotes ends at a comment, at the colon of a key or, inside of
brackets, at their punctuation.  It may go on over lines that are moved in far
enough; the breaks between them are folded.
-/

namespace Likeness.Yaml.Plain

/-- The punctuation that ends a scalar inside of brackets. -/
def isFlowMark (c : Char) : Bool :=
  c == ',' || c == '?' || c == '[' || c == ']' || c == '\x7b' || c == '\x7d'

/-- The characters that may follow a colon for it to be the one of a key. -/
def endsKey (flow : Bool) (c : Char) : Bool :=
  isGap c || (flow && (c == ',' || c == '[' || c == ']' || c == '\x7b' || c == '\x7d'))

/-- The characters up to a blank or a mark. -/
def word (flow : Bool) : List Char → List Char
  | [] => []
  | c :: rest =>
    let stops := isGap c || (c == ':' && rest.head?.all (endsKey flow)) || (flow && isFlowMark c)
    if stops then [] else c :: word flow rest

/-- Breaks and blanks at the start of lines, up to a mark of a document; none when
    there is one. -/
def breaks : Nat → Cursor → Option (List Char) × Cursor
  | 0, c => (some [], c)
  | fuel + 1, c =>
    if c.seesChar ' ' then breaks fuel c.next
    else if c.sees isBreak then
      let (b, c) := c.lineBreak
      if c.documentEdge then (none, c)
      else
        let (bs, c) := breaks fuel c
        (bs.map fun bs => b ++ bs, c)
    else (some [], c)

/-- What stands between two words, the place behind it, and whether it holds a
    break.  There is nothing when the scalar ends. -/
def gap (c : Cursor) : List Char × Cursor × Bool :=
  let blanks := c.run (· == ' ')
  let c := c.advance blanks.length
  if c.sees isBreak then
    let (b, c) := c.lineBreak
    if c.documentEdge then ([], c, true)
    else
      let (bs, c) := breaks c.fuel c
      match bs with
      | none => ([], c, true)
      | some bs =>
        ((if b ≠ ['\n'] then b else if bs.isEmpty then [' '] else []) ++ bs, c, true)
  else (blanks, c, false)

/-- The words of a scalar with what stands between them, the place behind it, and
    whether it ended with a break.  `gapBefore` is what stands before the first
    word, and `broken` says whether that holds a break. -/
def words (flow : Bool) (indent : Int) : Nat → List Char → Bool → Cursor → List Char × Cursor × Bool
  | 0, _, broken, c => ([], c, broken)
  | fuel + 1, gapBefore, broken, c =>
    if c.seesChar '#' then ([], c, broken)
    else
      let w := word flow c.rest
      if w.isEmpty then ([], c, broken)
      else
        let (blank, c, broken) := gap (c.advance w.length)
        if blank.isEmpty || c.seesChar '#' || (!flow && (c.column : Int) < indent) then
          (gapBefore ++ w, c, broken)
        else
          let (cs, c, broken) := words flow indent fuel blank broken c
          (gapBefore ++ w ++ cs, c, broken)

/-- A scalar, the place behind it, and whether it ended with a break. -/
def scan (flow : Bool) (indent : Int) (c : Cursor) : List Char × Cursor × Bool :=
  words flow indent c.fuel [] false c

end Likeness.Yaml.Plain
