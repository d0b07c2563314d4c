/-!
# Tags

The tag of a node says what the node stands for.  The format has names for its tags;
other names mean nothing to it.
-/

namespace Likeness.Yaml

/-- What a node stands for. -/
inductive Tag where
  | null
  | truth
  | integer
  | number
  | time
  | text
  | octets
  | sequence
  | mapping
  | set
  /-- A mapping whose entries have an order. -/
  | orderedMapping
  | pairs
  /-- The key under which other mappings are taken in. -/
  | merge
  /-- The key of what a mapping stands for where a scalar is asked for. -/
  | default
  /-- Nothing that is known. -/
  | unknown
  deriving Repr, DecidableEq

namespace Tag

/-- What the tags of the format begin with. -/
def standardHead : List Char := "tag:yaml.org,2002:".toList

/-- The tags of the format by their names. -/
def names : List (String × Tag) := [
  ("null", null), ("bool", truth), ("int", integer), ("float", number), ("timestamp", time),
  ("str", text), ("binary", octets), ("seq", sequence), ("map", mapping), ("set", set),
  ("omap", orderedMapping), ("pairs", pairs), ("merge", merge), ("value", default)]

/-- The tag with a name. -/
def named (name : List Char) : Tag :=
  if standardHead.isPrefixOf name then
    (names.lookup (String.ofList (name.drop standardHead.length))).getD unknown
  else unknown

end Tag

end Likeness.Yaml
