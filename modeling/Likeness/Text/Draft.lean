import Likeness.Fault

/-!
# Texts that may break off

Writing may fail in the middle.  A draft is what was written until then and, if
it broke off, why; what would follow is lost.
-/

namespace Likeness.Text

/-- A text, and why it breaks off if it does. -/
structure Draft where
  chars : List Char
  fault : Option Fault

namespace Draft

/-- A finished piece. -/
def of (cs : List Char) : Draft := ⟨cs, none⟩

/-- Nothing, for a reason. -/
def stop (e : Fault) : Draft := ⟨[], some e⟩

/-- One draft and then another, unless the first breaks off. -/
def append (d e : Draft) : Draft :=
  match d.fault with
  | some _ => d
  | none => ⟨d.chars ++ e.chars, e.fault⟩

instance : Append Draft := ⟨append⟩

/-- A piece, or nothing and the reason. -/
def ofExcept : Except Fault (List Char) → Draft
  | .ok cs => of cs
  | .error e => stop e

/-- The whole text, unless it breaks off. -/
def finished (d : Draft) : Except Fault (List Char) :=
  match d.fault with
  | none => .ok d.chars
  | some e => .error e

/-- Pieces one after another. -/
def concat (ds : List Draft) : Draft := ds.foldr append (of [])

end Draft

end Likeness.Text
