import Likeness.Fault
import Likeness.Ranking
import Likeness.Schema.Reading

/-!
# Pairs

A batch scores pairs of texts.  A pair may have an identifier; one without it is
numbered by its place.
-/

namespace Likeness

/-- Two texts to be scored against each other. -/
structure Pair where
  id : Option String
  left : String
  right : String
  deriving Repr, DecidableEq

namespace Pair

/-- The name under which pairs are known to the one who writes them. -/
def schemaName : String := "PairModel"

/-- The pair that a value describes. -/
def read : Value → Except Fault Pair
  | .dict entries =>
    let id := Schema.optional entries "id" none (Schema.nullable Schema.text)
    let left := Schema.required entries "left" Schema.text
    let right := Schema.required entries "right" Schema.text
    match id, left, right with
    | .ok id, .ok left, .ok right => .ok ⟨id, left, right⟩
    | id, left, right =>
      .error (.invalid ([Schema.complaint? id, Schema.complaint? left,
        Schema.complaint? right].filterMap fun c => c))
  | _ => .error (.invalid [⟨none, .noMapping schemaName⟩])

/-- The identifier that a place gives, counted from one. -/
def placeId (place : Nat) : String := "pair-" ++ Decimal.intText place

/-- The pair with an identifier, its place's if it has none. -/
def numbered (place : Nat) (p : Pair) : Pair :=
  match p.id with
  | some _ => p
  | none => { p with id := some (placeId place) }

end Pair

end Likeness
