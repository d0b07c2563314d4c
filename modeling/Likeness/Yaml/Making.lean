import Likeness.Value.Hashable
import Likeness.Yaml.Inclusion
import Likeness.Yaml.Scalar

/-!
# Making the values of nodes

The value of a document is made level by level: a collection is begun when it is met,
and what it holds is made when all that was begun before it is done.  So a collection
may hold itself, and of several faults the one that is not so deep counts.
-/

namespace Likeness.Yaml

/-- Where the making of values stands. -/
structure Making where
  graph : Graph
  /-- The values of the nodes that are made or begun, by their numbers. -/
  values : Array (Option Value)
  /-- The collections that are begun, first come first served. -/
  begun : List Nat

/-- A computation that makes values. -/
abbrev Make (α : Type) : Type := StateT Making (Except Fault) α

namespace Make

/-- The text of a node from which a scalar is to be made; a mapping has that of its
    default value.  The first number bounds how far such values lead. -/
def scalarText (g : Graph) : Nat → Nat → Except Fault (List Nat)
  | 0, _ => .error .nestedTooDeep
  | fuel + 1, id =>
    match g.content id with
    | .scalar codes => .ok codes
    | .sequence _ => unmade
    | .mapping es =>
      match es.find? fun e => g.tag e.1 = .default with
      | some e => scalarText g fuel e.2
      | none => unmade

/-- The node holds a text. -/
def isScalar (g : Graph) (id : Nat) : Bool :=
  match g.content id with
  | .scalar _ => true
  | _ => false

/-- The value of a node from which a scalar is to be made; the default value of a
    mapping is no time. -/
def scalarValue (g : Graph) (id : Nat) : Except Fault Value := do
  let codes ← scalarText g (g.size + 1) id
  if g.tag id = .time && !isScalar g id then .error .wrongKind
  else Scalar.value (g.tag id) codes

/-- A node has a value. -/
def keep (id : Nat) (v : Value) : Make Value := do
  modify fun s => { s with values := s.values.setIfInBounds id (some v) }
  pure v

/-- A collection that holds nothing yet. -/
def start (id : Nat) (empty : Value) : Make Value := do
  modify fun s => { s with begun := s.begun ++ [id] }
  keep id empty

/-- The value of a node, which is made once. -/
def value (id : Nat) : Make Value := do
  let s ← get
  match s.values[id]?.join with
  | some v => pure v
  | none =>
    match s.graph.tag id with
    | .sequence | .orderedMapping | .pairs => start id (.list [])
    | .mapping => start id (.dict [])
    | .set => start id (.set false [])
    | .merge | .default | .unknown => throw (.notYaml .construction)
    | _ =>
      match scalarValue s.graph id with
      | .ok v => keep id v
      | .error e => throw e

/-- The value of a node that is a key, which cannot be changed. -/
def key (id : Nat) : Make Value := do
  let k ← value id
  if k.isHashable then pure k else throw (.notYaml .construction)

/-- The entries of a mapping, after it has taken in those of others. -/
def entries (id : Nat) : Make (List (Value × Value)) := do
  let s ← get
  match s.graph.complete id with
  | .error e => throw e
  | .ok g =>
    set { s with graph := g }
    (g.entries id).mapM fun e => do
      let k ← key e.1
      let v ← value e.2
      pure (k, v)

/-- The pair that a mapping with one entry stands for. -/
def pair (id : Nat) : Make Value := do
  match (← get).graph.content id with
  | .mapping [e] =>
    let k ← value e.1
    let v ← value e.2
    pure (.tuple [k, v])
  | _ => throw (.notYaml .construction)

/-- The value of a collection with what it holds.  Collections in it are only begun. -/
def filled (id : Nat) : Make Value := do
  let g := (← get).graph
  match g.tag id, g.content id with
  | .sequence, .sequence items => pure (.list (← items.mapM value))
  | .orderedMapping, .sequence items | .pairs, .sequence items =>
    pure (.list (← items.mapM pair))
  | .mapping, .mapping _ => pure (Value.dictOf (← entries id))
  | .set, .mapping _ => pure (.set false (Value.distinct ((← entries id).map (·.1))))
  | _, _ => throw (.notYaml .construction)

/-- Fills the collections that are begun, and those that are begun by that; the first
    number is how many there can be. -/
def fillAll : Nat → Make Unit
  | 0 => pure ()
  | fuel + 1 => do
    match (← get).begun with
    | [] => pure ()
    | id :: rest =>
      modify fun s => { s with begun := rest }
      let _ ← filled id
      fillAll fuel

/-- The value of a node, when all that belongs to it could be made. -/
def whole (id : Nat) : Make Value := do
  let v ← value id
  if (← get).begun.isEmpty then pure v
  else
    modify fun s => { s with begun := [] }
    let v ← filled id
    fillAll (← get).graph.size
    pure v

end Make

/-- The value of a document.  Of the collections inside of its root only the kind is
    told, as no more of them is asked for; but all that they hold has to be right. -/
def Document.value (d : Document) : Except Fault Value :=
  (Make.whole d.root).run' ⟨d.graph, .replicate d.graph.size none, []⟩

end Likeness.Yaml
