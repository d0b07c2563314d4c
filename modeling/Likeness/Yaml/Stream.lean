import Likeness.Yaml.Token

/-!
# The tokens of a text

Indentation and brackets decide what a character means.  A key needs no mark in
front of it: that something was a key is known when its colon is found, so the
place of every possible key is remembered until then, and its mark is put in
there.  Tokens from a possible key on are known only when that is settled; when
no further token can be read, they are lost.
-/

namespace Likeness.Yaml

/-- A place where a key may have begun. -/
structure PossibleKey where
  /-- How many of the tokens that are not settled come before it. -/
  number : Nat
  /-- Nothing but a key can stand there. -/
  required : Bool
  index : Nat
  line : Nat
  column : Nat

/-- Where the reading of tokens stands. -/
structure Scan where
  cursor : Cursor
  /-- The tokens that are not settled yet. -/
  tokens : List Token
  /-- How many brackets are open. -/
  depth : Nat
  /-- The column of the current block, -1 outside of any. -/
  indent : Int
  /-- The columns of the blocks around it. -/
  outer : List Int
  /-- A key may begin here. -/
  keyAllowed : Bool
  /-- The possible keys, by the number of brackets around them. -/
  keys : List (Nat × PossibleKey)
  finished : Bool

namespace Scan

/-- The start of a text. -/
def start (cs : List Char) : Scan :=
  ⟨.start cs, [], 0, -1, [], true, [], false⟩

/-- One more token. -/
def emit (s : Scan) (t : Token) : Scan := { s with tokens := s.tokens ++ [t] }

/-- A token put in behind a number of others. -/
def insert (s : Scan) (number : Nat) (t : Token) : Scan :=
  { s with tokens := s.tokens.take number ++ t :: s.tokens.drop number }

/-! ## Possible keys -/

/-- A possible key is lost: it is not on the current line, or too long ago. -/
def isStale (s : Scan) (k : PossibleKey) : Bool :=
  k.line ≠ s.cursor.line || k.index + 1024 < s.cursor.index

/-- Forgets the possible keys that are lost; none of them may have been required. -/
def dropStale (s : Scan) : Except Fault Scan :=
  if s.keys.any fun k => s.isStale k.2 && k.2.required then refuse .token
  else .ok { s with keys := s.keys.filter fun k => !s.isStale k.2 }

/-- The possible key inside the current brackets. -/
def key? (s : Scan) : Option PossibleKey := s.keys.lookup s.depth

/-- Forgets the possible key inside the current brackets. -/
def forgetKey (s : Scan) : Scan :=
  { s with keys := s.keys.filter fun k => k.1 ≠ s.depth }

/-- Gives up the possible key inside the current brackets, if it was not required. -/
def dropKey (s : Scan) : Except Fault Scan :=
  match s.key? with
  | some k => if k.required then refuse .token else .ok s.forgetKey
  | none => .ok s

/-- Remembers that a key may begin here. -/
def noteKey (s : Scan) : Except Fault Scan :=
  if s.keyAllowed then do
    let required := s.depth = 0 && s.indent = (s.cursor.column : Int)
    let s ← s.dropKey
    let k : PossibleKey :=
      ⟨s.tokens.length, required, s.cursor.index, s.cursor.line, s.cursor.column⟩
    .ok { s with keys := s.keys ++ [(s.depth, k)] }
  else .ok s

/-! ## Blocks -/

/-- Closes the blocks that are moved in further than a column. -/
def closeBlocks (column : Int) : Int → List Int → List Token → Int × List Int × List Token
  | indent, [], tokens => (indent, [], tokens)
  | indent, o :: outer, tokens =>
    if column < indent then closeBlocks column o outer (tokens ++ [.blockEnd])
    else (indent, o :: outer, tokens)

/-- Closes the blocks that end at a column; brackets keep them open. -/
def unwind (s : Scan) (column : Int) : Scan :=
  if s.depth ≠ 0 then s
  else
    let (indent, outer, tokens) := closeBlocks column s.indent s.outer s.tokens
    { s with indent := indent, outer := outer, tokens := tokens }

/-- Opens a block at a column, unless one is open there, behind a number of
    tokens. -/
def openBlock (s : Scan) (column : Nat) (number : Nat) (t : Token) : Scan :=
  if s.indent < (column : Int) then
    { s.insert number t with indent := column, outer := s.indent :: s.outer }
  else s

/-- Opens a block here. -/
def openHere (s : Scan) (t : Token) : Scan := s.openBlock s.cursor.column s.tokens.length t

/-! ## Tokens -/

/-- Skips blanks, comments and breaks; behind a break a key may begin. -/
def skipGaps : Nat → Scan → Scan
  | 0, s => s
  | fuel + 1, s =>
    let c := (s.cursor.skip (· == ' ')).skipComment
    if c.sees isBreak then
      skipGaps fuel { s with
        cursor := c.lineBreak.2, keyAllowed := s.keyAllowed || s.depth = 0 }
    else { s with cursor := c }

/-- The end of the text. -/
def atEnd (s : Scan) : Except Fault Scan := do
  let s ← (s.unwind (-1)).dropKey
  .ok { s.emit .streamEnd with keyAllowed := false, keys := [], finished := true }

/-- A directive. -/
def atDirective (s : Scan) : Except Fault Scan := do
  let s ← (s.unwind (-1)).dropKey
  let (d, c) ← Token.directiveLine s.cursor
  .ok { s.emit (.directive d) with cursor := c, keyAllowed := false }

/-- A mark that begins or ends a document. -/
def atDocumentMark (s : Scan) (t : Token) : Except Fault Scan := do
  let s ← (s.unwind (-1)).dropKey
  .ok { s.emit t with cursor := s.cursor.advance 3, keyAllowed := false }

/-- An opening bracket. -/
def atOpening (s : Scan) (t : Token) : Except Fault Scan := do
  let s ← s.noteKey
  .ok { s.emit t with cursor := s.cursor.next, depth := s.depth + 1, keyAllowed := true }

/-- A closing bracket. -/
def atClosing (s : Scan) (t : Token) : Except Fault Scan := do
  let s ← s.dropKey
  .ok { s.emit t with cursor := s.cursor.next, depth := s.depth - 1, keyAllowed := false }

/-- A comma inside of brackets. -/
def atComma (s : Scan) : Except Fault Scan := do
  let s ← s.dropKey
  .ok { s.emit .flowEntry with cursor := s.cursor.next, keyAllowed := true }

/-- The hyphen in front of an item. -/
def atItem (s : Scan) : Except Fault Scan :=
  if s.depth = 0 && !s.keyAllowed then refuse .token
  else do
    let s := if s.depth = 0 then s.openHere .blockSequenceStart else s
    let s ← s.dropKey
    .ok { s.emit .blockEntry with cursor := s.cursor.next, keyAllowed := true }

/-- The question mark in front of a key. -/
def atKey (s : Scan) : Except Fault Scan :=
  if s.depth = 0 && !s.keyAllowed then refuse .token
  else do
    let s := if s.depth = 0 then s.openHere .blockMappingStart else s
    let s ← s.dropKey
    .ok { s.emit .key with cursor := s.cursor.next, keyAllowed := s.depth = 0 }

/-- The colon behind a key that was remembered. -/
def atKnownKey (s : Scan) (k : PossibleKey) : Scan :=
  let s := s.forgetKey.insert k.number .key
  let s := if s.depth = 0 then s.openBlock k.column k.number .blockMappingStart else s
  { s.emit .value with cursor := s.cursor.next, keyAllowed := false }

/-- A colon without a key in front of it on its line. -/
def atLoneValue (s : Scan) : Except Fault Scan :=
  if s.depth = 0 && !s.keyAllowed then refuse .token
  else do
    let s := if s.depth = 0 then s.openHere .blockMappingStart else s
    let s ← s.dropKey
    .ok { s.emit .value with cursor := s.cursor.next, keyAllowed := s.depth = 0 }

/-- A colon behind a key. -/
def atValue (s : Scan) : Except Fault Scan :=
  match s.key? with
  | some k => .ok (s.atKnownKey k)
  | none => s.atLoneValue

/-- A token that may be the beginning of a key. -/
def atContent (s : Scan) (read : Cursor → Except Fault (Token × Cursor)) :
    Except Fault Scan := do
  let s ← s.noteKey
  let (t, c) ← read s.cursor
  .ok { s.emit t with cursor := c, keyAllowed := false }

/-- A plain scalar; behind its last break a key may begin. -/
def atPlain (s : Scan) : Except Fault Scan := do
  let s ← s.noteKey
  let (cs, c, broken) := Plain.scan (s.depth ≠ 0) (s.indent + 1) s.cursor
  .ok { s.emit (.scalar (codesOf cs) true) with cursor := c, keyAllowed := broken }

/-- A block scalar. -/
def atBlockScalar (s : Scan) (folded : Bool) : Except Fault Scan := do
  let s ← s.dropKey
  let (cs, c) ← Block.scan folded s.indent s.cursor
  .ok { s.emit (.scalar (codesOf cs) false) with cursor := c, keyAllowed := true }

/-- The character begins no plain scalar unless something solid follows it. -/
def isIndicator (c : Char) : Bool := "-?:,[]\x7b\x7d#&*!|>'\"%@\x60".toList.contains c

/-- A plain scalar begins here. -/
def beginsPlain (s : Scan) (ch : Char) : Bool :=
  !(isGap ch || isIndicator ch)
    || (!s.cursor.endsAt 1 isGap && (ch = '-' || (s.depth = 0 && (ch = '?' || ch = ':'))))

/-- The mark is one: inside of brackets always, else only in front of a gap. -/
def isMark (s : Scan) : Bool := s.depth ≠ 0 || s.cursor.endsAt 1 isGap

/-- The tokens that begin with a character. -/
def atChar (s : Scan) (ch : Char) : Except Fault Scan :=
  let c := s.cursor
  if ch = '%' ∧ c.column = 0 then s.atDirective
  else if c.column = 0 && c.documentMark '-' then s.atDocumentMark .documentStart
  else if c.column = 0 && c.documentMark '.' then s.atDocumentMark .documentEnd
  else if ch = '[' then s.atOpening .flowSequenceStart
  else if ch = '\x7b' then s.atOpening .flowMappingStart
  else if ch = ']' then s.atClosing .flowSequenceEnd
  else if ch = '\x7d' then s.atClosing .flowMappingEnd
  else if ch = ',' then s.atComma
  else if ch = '-' && c.endsAt 1 isGap then s.atItem
  else if ch = '?' && s.isMark then s.atKey
  else if ch = ':' && s.isMark then s.atValue
  else if ch = '*' then s.atContent fun c =>
    (Token.name c.next).map fun r => (.alias r.1, r.2)
  else if ch = '&' then s.atContent fun c =>
    (Token.name c.next).map fun r => (.anchor r.1, r.2)
  else if ch = '!' then s.atContent fun c =>
    (Token.tagText c).map fun r => (.tag r.1, r.2)
  else if ch = '|' ∧ s.depth = 0 then s.atBlockScalar false
  else if ch = '>' ∧ s.depth = 0 then s.atBlockScalar true
  else if ch = '\'' then s.atContent fun c =>
    (Quoted.scan false c).map fun r => (.scalar r.1 false, r.2)
  else if ch = '"' then s.atContent fun c =>
    (Quoted.scan true c).map fun r => (.scalar r.1 false, r.2)
  else if s.beginsPlain ch then s.atPlain
  else refuse .token

/-- Reads on until there is at least one token more. -/
def step (s : Scan) : Except Fault Scan := do
  let s ← (skipGaps s.cursor.fuel s).dropStale
  let s := s.unwind s.cursor.column
  let s ← match s.cursor.peek with
    | none => s.atEnd
    | some ch => s.atChar ch
  s.dropStale

/-- How many tokens are settled: those in front of every possible key. -/
def settled (s : Scan) : Nat := s.keys.foldl (fun n k => min n k.2.number) s.tokens.length

/-- The tokens that are settled, and the rest. -/
def release (s : Scan) : List Token × Scan :=
  let n := s.settled
  (s.tokens.take n, { s with
    tokens := s.tokens.drop n
    keys := s.keys.map fun k => (k.1, { k.2 with number := k.2.number - n }) })

/-- What was read of the text is at its end, so that a further token hangs on what
    was not. -/
def isCut (s : Scan) : Bool := s.cursor.rest.length ≤ 1

/-- Texts that end what may be begun at the place where the text was cut off. -/
def endings : List (List Char) :=
  ["\"\n".toList, "'\n".toList, "x\n".toList, ">\n".toList, "1\n".toList]

/-- No token can be read here, however the text goes on. -/
def isStuck (s : Scan) : Bool :=
  endings.all fun e =>
    let c := s.cursor
    !({ s with cursor := { c with rest := c.rest ++ e } } : Scan).step.isOk

/-- All tokens behind those that are settled, which are given last first.  When no
    more can be read, those that are not settled are lost; when the text could not be
    read to its end, `stop` says why. -/
def all (stop : Option Fault) : Nat → List Token → Scan → List Token
  | 0, before, _ => before.reverse
  | fuel + 1, before, s =>
    let (ready, s) := s.release
    let before := ready.reverse ++ before
    if s.finished then before.reverse
    else
      match s.step, stop with
      | .ok t, none => all stop fuel before t
      | .ok t, some f =>
        if s.isCut || t.isCut then (.bad f :: before).reverse else all stop fuel before t
      | .error e, none => (.bad e :: before).reverse
      | .error e, some f =>
        (.bad (if s.isCut || !s.isStuck then f else e) :: before).reverse

end Scan

/-- The tokens of a text, of which no more could be read for the reason that `stop`
    gives.  A mark of the byte order at its start is no part of it. -/
def tokensOf (cs : List Char) (stop : Option Fault) : List Token :=
  let s := Scan.start cs
  let s := if cs.head? = some '\ufeff' then { s with cursor := s.cursor.next } else s
  s.all stop (2 * cs.length + 2) []

end Likeness.Yaml
