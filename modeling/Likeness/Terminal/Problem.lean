import Likeness.Decimal.Layout

/-!
# What is wrong with markup
-/

namespace Likeness.Terminal

/-- Why a text is not markup. -/
inductive Problem where
  /-- A tag turns off a style that is not on. -/
  | strayTag (tag : String) (position : Nat)
  /-- A tag turns off the last style, and none is on. -/
  | nothingToClose (position : Nat)
  /-- What a handler is given cannot be read: the part that was read, in what was
      given, and why. -/
  | badHandler (part given reason : String)
  deriving Repr, DecidableEq

/-- A problem in words. -/
def Problem.message : Problem → String
  | strayTag tag position =>
    "closing tag '" ++ tag ++ "' at position " ++ Decimal.intText position
      ++ " doesn't match any open tag"
  | nothingToClose position =>
    "closing tag '[/]' at position " ++ Decimal.intText position ++ " has nothing to close"
  | badHandler part given reason =>
    "error parsing " ++ part ++ " in " ++ given ++ "; " ++ reason

end Likeness.Terminal
