import Likeness.Text.Split

/-!
# Paths

A path is a list of names, from a root or from the place where the program
works.  Empty names and single dots in its text mean nothing.
-/

namespace Likeness

/-- A path in the store. -/
structure Path where
  /-- What stands in front of the first name: nothing, or the slashes of a root. -/
  root : String
  names : List String
  deriving Repr, DecidableEq

namespace Path

/-- The root that a text begins with; two slashes and no third are a root of
    their own. -/
def rootOf : List Char → String
  | '/' :: '/' :: '/' :: _ => "/"
  | '/' :: '/' :: _ => "//"
  | '/' :: _ => "/"
  | _ => ""

/-- The path of a text. -/
def ofString (s : String) : Path :=
  let cs := s.toList
  ⟨rootOf cs, ((Text.words (· == '/') cs).filter (· ≠ ['.'])).map String.ofList⟩

/-- The text of a path. -/
def text (p : Path) : String :=
  let body := String.intercalate "/" p.names
  if p.root = "" && p.names.isEmpty then "." else p.root ++ body

/-- How many bytes one name may have. -/
def nameLimit : Nat := 255

/-- How many bytes the text of a path may have. -/
def lengthLimit : Nat := 4095

/-- The path contains the character that ends texts for the keeper of files. -/
def hasNul (p : Path) : Bool := p.names.any fun name => name.toList.contains '\x00'

/-- The path of something inside. -/
def child (p : Path) (name : String) : Path := { p with names := p.names ++ [name] }

/-- The path of what something is inside. -/
def parent (p : Path) : Path := { p with names := p.names.dropLast }

end Path

end Likeness
