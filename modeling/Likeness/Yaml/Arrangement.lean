import Likeness.Yaml.Form
import Likeness.Yaml.Node
import Likeness.Yaml.Stream

/-!
# How tokens are arranged

The tokens of a text form a document: nodes inside of nodes, in blocks that are
moved in or in brackets.  A node can be given a name and be referred to later; a
reference to a node that is still being read stands for that node as a whole.
-/

namespace Likeness.Yaml

namespace Document

/-- Where the reading of nodes stands. -/
structure Parse where
  tokens : List Token
  graph : Graph
  /-- The nodes with names, and the nodes around that have one. -/
  anchors : List (List Char × Nat)
  /-- What the handles of tags stand for. -/
  handles : List (List Char × List Char)

/-- The handles that every document knows. -/
def defaultHandles : List (List Char × List Char) :=
  [(['!'], ['!']), (['!', '!'], Tag.standardHead)]

/-- How deep collections can be in one another.  As in JSON it is the limit of nested calls
    that stops the arranging, less the calls around it when settings are loaded, with two
    calls for each collection.  From deeper calls fewer are left. -/
def depthLimit : Nat := 486

namespace Parse

/-- The next token. -/
def peek (s : Parse) : Except Fault Token :=
  match s.tokens with
  | [] => .ok .streamEnd
  | .bad f :: _ => .error f
  | t :: _ => .ok t

/-- Behind the next token. -/
def drop (s : Parse) : Parse := { s with tokens := s.tokens.drop 1 }

/-- The next token is one of some. -/
def sees (s : Parse) (ts : List Token) : Except Fault Bool := s.peek.map ts.contains

/-- The anchor that stands here, if one does. -/
def anchor? (s : Parse) : Except Fault (Option (List Char) × Parse) := do
  match ← s.peek with
  | .anchor name => .ok (some name, s.drop)
  | _ => .ok (none, s)

/-- The tag that stands here, if one does. -/
def tag? (s : Parse) : Except Fault (Option TagText × Parse) := do
  match ← s.peek with
  | .tag t => .ok (some t, s.drop)
  | _ => .ok (none, s)

/-- The anchor and the tag that stand here, in either order. -/
def properties (s : Parse) : Except Fault (Option (List Char) × Option TagText × Parse) := do
  let (anchor, s) ← s.anchor?
  let (tag, s) ← s.tag?
  match anchor, tag with
  | none, some t => do
    let (anchor, s) ← s.anchor?
    .ok (anchor, some t, s)
  | anchor, tag => .ok (anchor, tag, s)

/-- What a written tag stands for. -/
def tagOf (s : Parse) : Option TagText → Except Fault (Option (List Char))
  | none => .ok none
  | some ⟨none, suffix⟩ => .ok (some suffix)
  | some ⟨some handle, suffix⟩ =>
    match s.handles.lookup handle with
    | some head => .ok (some (head ++ suffix))
    | none => refuse .arrangement

/-- The tag of a collection of a kind. -/
def collectionTag (kind : Tag) : Option (List Char) → Tag
  | none | some ['!'] => kind
  | some name => .named name

/-- The tag of a scalar; only a plain one, or one that is marked so, may stand for
    more than its text. -/
def scalarTag (plain : Bool) (codes : List Nat) : Option (List Char) → Tag
  | none => if plain then Form.tag codes else .text
  | some ['!'] => Form.tag codes
  | some name => .named name

/-- Refuses a name that was given before. -/
def checkAnchor (s : Parse) : Option (List Char) → Except Fault Unit
  | none => .ok ()
  | some name => if (s.anchors.lookup name).isSome then refuse .reference else .ok ()

/-- A further node, maybe with a name. -/
def add (s : Parse) (anchor : Option (List Char)) (n : Node) : Nat × Parse :=
  let id := s.graph.size
  let anchors := match anchor with
    | none => s.anchors
    | some a => (a, id) :: s.anchors
  (id, { s with graph := s.graph.push n, anchors := anchors })

/-- A scalar that nothing is written for. -/
def addNothing (s : Parse) : Nat × Parse := s.add none .nothing

/-- A collection, which is there before what it holds is read. -/
def addAround (s : Parse) (anchor : Option (List Char)) (tag : Tag) (empty : Content)
    (read : Parse → Except Fault (Content × Parse)) : Except Fault (Nat × Parse) := do
  let (id, s) := s.add anchor ⟨tag, empty⟩
  let (content, s) ← read s
  .ok (id, { s with graph := s.graph.setContent id content })

/-- A sequence with the items that are read. -/
def addSequence (s : Parse) (anchor tag : Option (List Char))
    (read : Parse → Except Fault (List Nat × Parse)) : Except Fault (Nat × Parse) := do
  s.checkAnchor anchor
  s.addAround anchor (collectionTag .sequence tag) (.sequence []) fun s =>
    (read s).map fun r => (.sequence r.1, r.2)

/-- A mapping with the entries that are read. -/
def addMapping (s : Parse) (anchor tag : Option (List Char))
    (read : Parse → Except Fault (Entries × Parse)) : Except Fault (Nat × Parse) := do
  s.checkAnchor anchor
  s.addAround anchor (collectionTag .mapping tag) (.mapping []) fun s =>
    (read s).map fun r => (.mapping r.1, r.2)

/-- A scalar. -/
def addScalar (s : Parse) (anchor tag : Option (List Char)) (plain : Bool) (codes : List Nat) :
    Except Fault (Nat × Parse) := do
  s.checkAnchor anchor
  .ok (s.add anchor ⟨scalarTag plain codes tag, .scalar codes⟩)

end Parse

mutual

/-- A node in a number of collections.  Blocks are allowed or not, and so are items
    that are not moved in. -/
def read : Nat → Nat → Bool → Bool → Parse → Except Fault (Nat × Parse)
  | 0, _, _, _, _ => refuse .arrangement
  | fuel + 1, depth, block, bare, s => do
    if depthLimit < depth then throw .nestedTooDeep
    let d := depth + 1
    match ← s.peek with
    | .alias a =>
      match s.anchors.lookup a with
      | some id => .ok (id, s.drop)
      | none => refuse .reference
    | _ =>
      let (anchor, written, s) ← s.properties
      let tag ← s.tagOf written
      let t ← s.peek
      if bare && t == .blockEntry then s.addSequence anchor tag (readBareItems fuel d)
      else
        match t with
        | .scalar codes plain => s.drop.addScalar anchor tag plain codes
        | .flowSequenceStart => s.addSequence anchor tag fun s => readFlowItems fuel d true s.drop
        | .flowMappingStart => s.addMapping anchor tag fun s => readFlowEntries fuel d true s.drop
        | t =>
          if block && t == .blockSequenceStart then
            s.addSequence anchor tag fun s => readItems fuel d s.drop
          else if block && t == .blockMappingStart then
            s.addMapping anchor tag fun s => readEntries fuel d s.drop
          else if anchor.isSome || tag.isSome then s.addScalar anchor tag tag.isNone []
          else refuse .arrangement

/-- A node, or nothing when one of some tokens stands in its place. -/
def readUnless : Nat → Nat → Bool → Bool → List Token → Parse → Except Fault (Nat × Parse)
  | 0, _, _, _, _, _ => refuse .arrangement
  | fuel + 1, d, block, bare, ends, s => do
    if ← s.sees ends then .ok s.addNothing else read fuel d block bare s

/-- The items of a sequence in a block. -/
def readItems : Nat → Nat → Parse → Except Fault (List Nat × Parse)
  | 0, _, _ => refuse .arrangement
  | fuel + 1, d, s => do
    match ← s.peek with
    | .blockEntry =>
      let (n, s) ← readUnless fuel d true false [.blockEntry, .blockEnd] s.drop
      let (ns, s) ← readItems fuel d s
      .ok (n :: ns, s)
    | .blockEnd => .ok ([], s.drop)
    | _ => refuse .arrangement

/-- The items of a sequence that is not moved in. -/
def readBareItems : Nat → Nat → Parse → Except Fault (List Nat × Parse)
  | 0, _, _ => refuse .arrangement
  | fuel + 1, d, s => do
    match ← s.peek with
    | .blockEntry =>
      let (n, s) ← readUnless fuel d true false [.blockEntry, .key, .value, .blockEnd] s.drop
      let (ns, s) ← readBareItems fuel d s
      .ok (n :: ns, s)
    | _ => .ok ([], s)

/-- The value behind a key, or nothing when there is no colon. -/
def readValue : Nat → Nat → Bool → Bool → List Token → Parse → Except Fault (Nat × Parse)
  | 0, _, _, _, _, _ => refuse .arrangement
  | fuel + 1, d, block, bare, ends, s => do
    match ← s.peek with
    | .value => readUnless fuel d block bare ends s.drop
    | _ => .ok s.addNothing

/-- The entries of a mapping in a block. -/
def readEntries : Nat → Nat → Parse → Except Fault (Entries × Parse)
  | 0, _, _ => refuse .arrangement
  | fuel + 1, d, s => do
    match ← s.peek with
    | .key =>
      let ends := [Token.key, .value, .blockEnd]
      let (k, s) ← readUnless fuel d true true ends s.drop
      let (v, s) ← readValue fuel d true true ends s
      let (es, s) ← readEntries fuel d s
      .ok ((k, v) :: es, s)
    | .blockEnd => .ok ([], s.drop)
    | _ => refuse .arrangement

/-- The items of a sequence in brackets; an item with a key is a mapping of its
    own. -/
def readFlowItems : Nat → Nat → Bool → Parse → Except Fault (List Nat × Parse)
  | 0, _, _, _ => refuse .arrangement
  | fuel + 1, d, first, s => do
    if ← s.sees [.flowSequenceEnd] then .ok ([], s.drop)
    else
      let s ←
        if first then .ok s
        else if ← s.sees [.flowEntry] then .ok s.drop
        else refuse .arrangement
      match ← s.peek with
      | .flowSequenceEnd => .ok ([], s.drop)
      | .key =>
        let (n, s) ← s.drop.addMapping none none (readFlowPair fuel d)
        let (ns, s) ← readFlowItems fuel d false s
        .ok (n :: ns, s)
      | _ =>
        let (n, s) ← read fuel d false false s
        let (ns, s) ← readFlowItems fuel d false s
        .ok (n :: ns, s)

/-- The only entry of a mapping that is an item of a sequence in brackets, behind the
    mark of its key. -/
def readFlowPair : Nat → Nat → Parse → Except Fault (Entries × Parse)
  | 0, _, _ => refuse .arrangement
  | fuel + 1, d, s => do
    let d := d + 1
    let (k, s) ← readUnless fuel d false false [.value, .flowEntry, .flowSequenceEnd] s
    let (v, s) ← readValue fuel d false false [.flowEntry, .flowSequenceEnd] s
    .ok ([(k, v)], s)

/-- The entries of a mapping in brackets; a node without a colon is a key. -/
def readFlowEntries : Nat → Nat → Bool → Parse → Except Fault (Entries × Parse)
  | 0, _, _, _ => refuse .arrangement
  | fuel + 1, d, first, s => do
    if ← s.sees [.flowMappingEnd] then .ok ([], s.drop)
    else
      let s ←
        if first then .ok s
        else if ← s.sees [.flowEntry] then .ok s.drop
        else refuse .arrangement
      match ← s.peek with
      | .flowMappingEnd => .ok ([], s.drop)
      | .key =>
        let (k, s) ← readUnless fuel d false false [.value, .flowEntry, .flowMappingEnd] s.drop
        let (v, s) ← readValue fuel d false false [.flowEntry, .flowMappingEnd] s
        let (es, s) ← readFlowEntries fuel d false s
        .ok ((k, v) :: es, s)
      | _ =>
        let (k, s) ← read fuel d false false s
        let (v, s) := s.addNothing
        let (es, s) ← readFlowEntries fuel d false s
        .ok ((k, v) :: es, s)

end

/-! ## Documents -/

/-- What the directives in front of a document have said so far. -/
structure Prologue where
  version : Bool
  handles : List (List Char × List Char)

/-- The directives in front of a document: one version at most, and that the
    first one of the format; no handle twice. -/
def readDirectives : Nat → Prologue → Parse → Except Fault (Prologue × Parse)
  | 0, _, _ => refuse .arrangement
  | fuel + 1, p, s => do
    match ← s.peek with
    | .directive (.version major) =>
      if p.version || major ≠ 1 then refuse .arrangement
      else readDirectives fuel { p with version := true } s.drop
    | .directive (.tagHandle handle head) =>
      if (p.handles.lookup handle).isSome then refuse .arrangement
      else readDirectives fuel { p with handles := (handle, head) :: p.handles } s.drop
    | .directive .other => readDirectives fuel p s.drop
    | _ => .ok (p, s)

/-- The start of a document that is marked: its directives and its mark. -/
def readStart (fuel : Nat) (s : Parse) : Except Fault Parse := do
  let (p, s) ← readDirectives fuel ⟨false, []⟩ s
  if ← s.sees [.documentStart] then
    .ok { s.drop with handles := p.handles ++ defaultHandles }
  else refuse .arrangement

/-- Behind marks that end a document. -/
def skipEnds : Nat → Parse → Except Fault Parse
  | 0, s => .ok s
  | fuel + 1, s => do
    if ← s.sees [.documentEnd] then skipEnds fuel s.drop else .ok s

/-- The node of a document that is marked. -/
def readContent (fuel : Nat) (s : Parse) : Except Fault (Nat × Parse) := do
  match ← s.peek with
  | .directive _ | .documentStart | .documentEnd | .streamEnd => .ok s.addNothing
  | _ => read fuel 1 true false s

/-- The only document, if there is one at all. -/
def ofTokens? (tokens : List Token) : Except Fault (Option Document) := do
  let fuel := 4 * tokens.length + 4
  let s : Parse := ⟨tokens, #[], [], defaultHandles⟩
  let (found, s) ← match ← s.peek with
    | .streamEnd => .ok (none, s)
    | .directive _ | .documentStart => do
      let (n, s) ← readContent fuel (← readStart fuel s)
      .ok (some n, s)
    | _ => do
      let (n, s) ← read fuel 1 true false s
      .ok (some n, s)
  let s ← skipEnds fuel s
  if ← s.sees [.streamEnd] then .ok (found.map fun root => ⟨s.graph, root⟩)
  else
    let _ ← readStart fuel s
    refuse .reference

end Document

end Likeness.Yaml
