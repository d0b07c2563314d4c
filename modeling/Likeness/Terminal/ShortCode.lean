import Likeness.Terminal.Pictograph
import Likeness.Text.Blank
import Likeness.Text.Small
import Likeness.Text.Split

/-!
# Short codes

A pictograph can be written by its name between two colons.  The name may end in
the wish for its colourful or its plain form.  A code with no such name stays as
it is, and its second colon does not begin another one.
-/

namespace Likeness.Terminal.ShortCode

open Text (isBlank isWhiteSpace)

/-- What follows a word in a list in which names and meanings alternate. -/
def meaning? (name : List Char) : List (List Char) → Option (List Char)
  | n :: m :: rest => if n = name then some m else meaning? name rest
  | _ => none

/-- The pictograph of a name, in any case of letters. -/
def pictograph? (name : List Char) : Option (List Char) :=
  if name.isEmpty then none
  else meaning? (Text.small name) (Text.words isWhiteSpace pictographs.toList)

/-- A text without an ending that it has. -/
def without? (ending cs : List Char) : Option (List Char) :=
  if ending.isSuffixOf cs then some (cs.take (cs.length - ending.length)) else none

/-- The characters that a code stands for, if it is known. -/
def decode? (code : List Char) : Option (List Char) :=
  match without? ['-', 'e', 'm', 'o', 'j', 'i'] code, without? ['-', 't', 'e', 'x', 't'] code with
  | some name, _ => (pictograph? name).map fun p => p ++ ['\uFE0F']
  | none, some name => (pictograph? name).map fun p => p ++ ['\uFE0E']
  | none, none => pictograph? code

/-- A text with its codes replaced, given the code that is being read, if any, with
    its characters in reverse. -/
def replaceFrom : Option (List Char) → List Char → List Char
  | none, [] => []
  | some read, [] => ':' :: read.reverse
  | none, c :: rest => if c = ':' then replaceFrom (some []) rest else c :: replaceFrom none rest
  | some read, c :: rest =>
    if c = ':' then
      ((decode? read.reverse).getD (':' :: read.reverse ++ [':'])) ++ replaceFrom none rest
    else if isBlank c then ':' :: read.reverse ++ c :: replaceFrom none rest
    else replaceFrom (some (c :: read)) rest

/-- A text with its codes replaced. -/
def replace (cs : List Char) : List Char := replaceFrom none cs

end Likeness.Terminal.ShortCode
