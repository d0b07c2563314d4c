/-!
# What is wrong with JSON text
-/

namespace Likeness.Json

/-- Why a text is not JSON. -/
inductive Problem where
  | valueExpected
  | nameExpected
  | colonExpected
  | commaExpected
  /-- Something follows the value. -/
  | extraData
  | unterminatedText
  | controlCharacter
  | badEscape
  | badUnicodeEscape
  /-- The text begins with a byte order mark. -/
  | byteOrderMark
  deriving Repr, DecidableEq

/-- A problem in words. -/
def Problem.message : Problem → String
  | valueExpected => "Expecting value"
  | nameExpected => "Expecting property name enclosed in double quotes"
  | colonExpected => "Expecting ':' delimiter"
  | commaExpected => "Expecting ',' delimiter"
  | extraData => "Extra data"
  | unterminatedText => "Unterminated string starting at"
  | controlCharacter => "Invalid control character at"
  | badEscape => "Invalid \\escape"
  | badUnicodeEscape => "Invalid \\uXXXX escape"
  | byteOrderMark => "Unexpected UTF-8 BOM (decode using utf-8-sig)"

/-- A place in a document: its line and its column, both from one, and the
    characters before it. -/
structure Place where
  line : Nat
  column : Nat
  position : Nat
  deriving Repr, DecidableEq

/-- The place in a document at which some characters are left. -/
def Place.of (document : List Char) (left : Nat) : Place :=
  let before := document.take (document.length - left)
  ⟨before.count '\n' + 1, (before.reverse.takeWhile (· ≠ '\n')).length + 1, before.length⟩

/-- Why a text is refused, and at which place: a place is counted from the end,
    by the characters that are left there. -/
inductive Refusal where
  | at (problem : Problem) (left : Nat)
  /-- An integer has more digits than are read. -/
  | tooManyDigits (count : Nat)
  /-- Arrays or objects are nested too deep. -/
  | tooDeep
  deriving Repr, DecidableEq

end Likeness.Json
