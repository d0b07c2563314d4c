import Likeness.Yaml.Tag

/-!
# Nodes

A document is made of nodes: scalars, sequences and mappings, each with a tag.  A
node can be referred to from other places, even from inside of itself, so nodes are
kept in a graph, and what a node holds is told by the numbers of other nodes.
-/

namespace Likeness.Yaml

/-- The entries of a mapping: the numbers of keys and values. -/
abbrev Entries := List (Nat × Nat)

/-- What a node holds. -/
inductive Content where
  /-- A text by its code points. -/
  | scalar (codes : List Nat)
  | sequence (items : List Nat)
  | mapping (entries : Entries)
  deriving Repr, DecidableEq

/-- A node of a document. -/
structure Node where
  tag : Tag
  content : Content
  deriving Repr, DecidableEq

/-- A scalar without text. -/
def Node.nothing : Node := ⟨.null, .scalar []⟩

/-- The nodes of a document, each with the number of its place. -/
abbrev Graph := Array Node

namespace Graph

/-- The node with a number. -/
def node (g : Graph) (id : Nat) : Node := g[id]?.getD .nothing

/-- The tag of a node. -/
def tag (g : Graph) (id : Nat) : Tag := (g.node id).tag

/-- What a node holds. -/
def content (g : Graph) (id : Nat) : Content := (g.node id).content

/-- The entries of a node that is a mapping. -/
def entries (g : Graph) (id : Nat) : Entries :=
  match g.content id with
  | .mapping es => es
  | _ => []

/-- The graph in which a node holds something else. -/
def setContent (g : Graph) (id : Nat) (content : Content) : Graph :=
  g.setIfInBounds id { g.node id with content := content }

/-- The graph in which a node has another tag. -/
def setTag (g : Graph) (id : Nat) (tag : Tag) : Graph :=
  g.setIfInBounds id { g.node id with tag := tag }

end Graph

/-- The nodes of a document and the number of the one that stands for it. -/
structure Document where
  graph : Graph
  root : Nat

end Likeness.Yaml
