import Likeness.CharSet.Basic

/-!
# Filtering texts by character sets

Counting, dropping, keeping and squeezing the characters of a text that belong
to a set.  When no definition has any character the text is passed by: nothing is
counted or dropped, and nothing is kept.
-/

namespace Likeness.CharSet

/-- No definition has any character. -/
def blankDefinitions (definitions : List (Option (List Char))) : Bool :=
  definitions.all fun d => (d.getD []).isEmpty

/-- How many characters of the text belong to the set. -/
def count (s : Option (List Char)) (definitions : List (Option (List Char))) : Nat :=
  let text := s.getD []
  if text.isEmpty || blankDefinitions definitions then 0
  else text.countP (ofDefinitions definitions).contains

/-- Some character of the text belongs to the set. -/
def containsAny (s : Option (List Char)) (definitions : List (Option (List Char))) : Bool :=
  let text := s.getD []
  if text.isEmpty || blankDefinitions definitions then false
  else text.any (ofDefinitions definitions).contains

/-- The text without the characters of the set. -/
def delete (s : Option (List Char)) (definitions : List (Option (List Char))) :
    Option (List Char) :=
  s.map fun text =>
    if text.isEmpty || blankDefinitions definitions then text
    else text.filter fun c => !(ofDefinitions definitions).contains c

/-- The characters of the text that belong to the set. -/
def keep (s : Option (List Char)) (definitions : List (Option (List Char))) :
    Option (List Char) :=
  s.map fun text =>
    if text.isEmpty || blankDefinitions definitions then []
    else text.filter (ofDefinitions definitions).contains

/-- A text behind the character `last`, without the members of the set that
    repeat the character before them. -/
def squeezeAfter (set : CharSet) (last : Char) : List Char → List Char
  | [] => []
  | c :: rest =>
    if c == last && set.contains c then squeezeAfter set last rest
    else c :: squeezeAfter set c rest

/-- The text with each run of one member of the set collapsed to one. -/
def squeeze (s : Option (List Char)) (definitions : List (Option (List Char))) :
    Option (List Char) :=
  s.map fun text =>
    if blankDefinitions definitions then text
    else
      match text with
      | [] => []
      | c :: rest => c :: squeezeAfter (ofDefinitions definitions) c rest

end Likeness.CharSet
