import Likeness.Yaml.Node
import Likeness.Yaml.Refusal

/-!
# Entries taken in

A mapping may take in the entries of other mappings, which its own entries override.
The nodes change when that is done: an entry that says what is taken in is gone, what
was taken in stands in front of the rest, and a key that stands for its text is a text
from then on.
-/

namespace Likeness.Yaml.Graph

/-- How many entries there are in all mappings. -/
def entryCount (g : Graph) : Nat := g.foldl (fun n node =>
  match node.content with
  | .mapping es => n + es.length
  | _ => n) 0

/-- The key does not say that something is taken in. -/
def isOwn (g : Graph) (e : Nat × Nat) : Bool := g.tag e.1 != .merge

/-- The graph in which the keys of some entries that stand for their texts are texts. -/
def settleKeys (g : Graph) (es : Entries) : Graph :=
  es.foldl (fun g e => if g.tag e.1 = .default then g.setTag e.1 .text else g) g

/-- The entries that a node gives to be taken in: those of a mapping, or of several,
    the first of which counts most.  What they take in themselves is taken in by
    `complete` before. -/
def given (complete : Nat → Graph → Except Fault Graph) (id : Nat) (g : Graph) :
    Except Fault (Entries × Graph) :=
  match g.content id with
  | .mapping _ => do
    let g ← complete id g
    .ok (g.entries id, g)
  | .sequence items =>
    items.foldlM (fun (es, g) item =>
      match g.content item with
      | .mapping _ => do
        let g ← complete item g
        .ok (g.entries item ++ es, g)
      | _ => unmade) ([], g)
  | .scalar _ => unmade

/-- Takes in what the entries of a mapping from a place on say, behind what was taken
    in before.  Each time, an entry that says so is gone, so that the first number,
    which is how many such entries there can be, bounds how often that happens. -/
def completeFrom : Nat → Nat → Entries → Nat → Graph → Except Fault Graph
  | 0, _, _, _, g => .ok g
  | fuel + 1, place, taken, id, g =>
    let es := g.entries id
    let own := (es.drop place).takeWhile g.isOwn
    let g := g.settleKeys own
    let place := place + own.length
    match es[place]? with
    | none => .ok (if taken.isEmpty then g else g.setContent id (.mapping (taken ++ es)))
    | some e => do
      let g := g.setContent id (.mapping (es.eraseIdx place))
      let (more, g) ← given (completeFrom fuel 0 []) e.2 g
      completeFrom fuel place (taken ++ more) id g

/-- Takes in what the entries of a mapping say. -/
def complete (id : Nat) (g : Graph) : Except Fault Graph :=
  completeFrom (g.entryCount + 1) 0 [] id g

end Likeness.Yaml.Graph
