import Likeness.Value.Equality
import Likeness.Value.Places

/-!
# Members and keys

The members of a set and the keys of a dictionary have to have a hash code of
their own.  What can be changed has none.
-/

namespace Likeness.Value

mutual

/-- The value has a hash code of its own, so that it can stand in a set. -/
def isHashable : Value → Bool
  | list _ | dict _ | set false _ | bytes true _ | record _ _ | unhashable => false
  | tuple xs => areHashable xs
  | charRange _ negated => isHashable negated
  | _ => true
termination_by structural v => v

/-- Every item can stand in a set. -/
def areHashable : List Value → Bool
  | [] => true
  | x :: xs => isHashable x && areHashable xs
termination_by structural xs => xs

end

/-- Refuses a value that cannot stand in a set. -/
def checkHashable (v : Value) : Except Fault Unit :=
  if v.isHashable then .ok () else .error .wrongKind

/-- A set of values, each of which can stand in it; they come in the order of their
    places. -/
def setOf (frozen : Bool) (xs : List Value) : Except Fault Value :=
  (xs.forM checkHashable).map fun _ => set frozen (Places.arranged (distinct xs))

/-- The range with some bounds: where it stops; where it starts and stops; and how
    far its integers are apart, which cannot be nothing. -/
def rangeOf : List Value → Except Fault Value
  | [stop] => bounded (int 0) stop (int 1)
  | [start, stop] => bounded start stop (int 1)
  | [start, stop, step] => bounded start stop step
  | _ => .error .wrongKind
where
  /-- The range with three bounds. -/
  bounded (start stop step : Value) : Except Fault Value :=
    match start.int?, stop.int?, step.int? with
    | some a, some b, some c => if c = 0 then .error .zeroStep else .ok (range a b c)
    | _, _, _ => .error .wrongKind

/-- The span between two texts of one character, with its direction. -/
def spanOf (start finish negated : Value) : Except Fault Value :=
  match start, finish with
  | text start, text finish =>
    (CharSpan.ofTexts start finish).map fun span => charRange span negated
  | text start, _ => if start.length = 1 then .error .wrongKind else .error .wideBounds
  | _, _ => .error .wrongKind

end Likeness.Value
