import Likeness.Text.Ranges

/-!
# Blank characters

Two notions of blank are in use.  White space is the character property of that
name.  A line read from a file is trimmed of a little more: the four information
separators count as blank there.
-/

namespace Likeness.Text

/-- The code points with the property White_Space. -/
def whiteSpaceRanges : List (Nat × Nat) := [
  (9, 13), (32, 32), (133, 133), (160, 160), (5760, 5760), (8192, 8202), (8232, 8233),
  (8239, 8239), (8287, 8287), (12288, 12288)]

/-- The code points at which the ends of a line are trimmed. -/
def blankRanges : List (Nat × Nat) := [
  (9, 13), (28, 32), (133, 133), (160, 160), (5760, 5760), (8192, 8202), (8232, 8233),
  (8239, 8239), (8287, 8287), (12288, 12288)]

/-- The character has the property White_Space. -/
def isWhiteSpace (c : Char) : Bool := inRanges whiteSpaceRanges c.toNat

/-- The character is white space or one of the information separators. -/
def isBlank (c : Char) : Bool := inRanges blankRanges c.toNat

/-- A text without the characters of a class at either end. -/
def trimBoth (p : Char → Bool) (s : List Char) : List Char :=
  ((s.dropWhile p).reverse.dropWhile p).reverse

end Likeness.Text
