import Likeness.Terminal.Color
import Likeness.Text.Small

/-!
# Styles

A style is described in words: attributes, each on or off, a colour, the colour
behind the text, and an address.  Descriptions of one style have one normal form,
in which the words stand in a fixed order; a text that describes no style is its
own, in small letters.
-/

namespace Likeness.Terminal

/-- What can be on or off. -/
inductive Attribute where
  | bold
  | dim
  | italic
  | underline
  | blink
  | blink2
  | reverse
  | conceal
  | strike
  | underline2
  | frame
  | encircle
  | overline
  deriving Repr, DecidableEq

namespace Attribute

/-- The attributes with their names, in the order of the normal form. -/
def named : List (Attribute × String) := [
  (bold, "bold"), (dim, "dim"), (italic, "italic"), (underline, "underline"), (blink, "blink"),
  (blink2, "blink2"), (reverse, "reverse"), (conceal, "conceal"), (strike, "strike"),
  (underline2, "underline2"), (frame, "frame"), (encircle, "encircle"), (overline, "overline")]

/-- Shorter names of some attributes. -/
def shortNames : List (String × Attribute) := [
  ("b", bold), ("c", conceal), ("d", dim), ("i", italic), ("o", overline), ("r", reverse),
  ("s", strike), ("u", underline), ("uu", underline2)]

/-- The attribute of a name. -/
def ofWord? (word : List Char) : Option Attribute :=
  let name := String.ofList word
  match shortNames.lookup name with
  | some a => some a
  | none => (named.find? fun n => n.2 == name).map (·.1)

end Attribute

/-- What a description of a style says. -/
structure Style where
  /-- The attributes that are on or off, the last word on each in front. -/
  attributes : List (Attribute × Bool) := []
  color : Option (List Char) := none
  background : Option (List Char) := none
  address : Option (List Char) := none

namespace Style

/-- The style that some words describe on top of another, unless they describe
    none. -/
def ofWords (s : Style) : List (List Char) → Except Fault (Option Style)
  | [] => .ok (some s)
  | written :: rest =>
    let word := Text.small written
    if word = ['o', 'n'] then
      match rest with
      | [] => .ok none
      | color :: rest => do
        let color := Text.small color
        if ← Color.isNamed color then ofWords { s with background := some color } rest
        else .ok none
    else if word = ['n', 'o', 't'] then
      match rest with
      | [] => .ok none
      | off :: rest =>
        match Attribute.ofWord? off with
        | some a => ofWords { s with attributes := (a, false) :: s.attributes } rest
        | none => .ok none
    else if word = ['l', 'i', 'n', 'k'] then
      match rest with
      | [] => .ok none
      | address :: rest => ofWords { s with address := some address } rest
    else
      match Attribute.ofWord? word with
      | some a => ofWords { s with attributes := (a, true) :: s.attributes } rest
      | none => do
        if ← Color.isNamed word then ofWords { s with color := some word } rest
        else .ok none

/-- The words of the normal form. -/
def words (s : Style) : List (List Char) :=
  (Attribute.named.flatMap fun n =>
    match s.attributes.lookup n.1 with
    | none => []
    | some on => (if on then [] else ["not".toList]) ++ [n.2.toList])
  ++ s.color.toList
  ++ (s.background.toList.flatMap fun c => ["on".toList, c])
  ++ (s.address.toList.flatMap fun a => ["link".toList, a])

/-- The normal form; a style that changes nothing is called so. -/
def text (s : Style) : List Char :=
  if s.words.isEmpty then "none".toList else List.intercalate [' '] s.words

/-- The normal form of a description. -/
def normalForm (description : List Char) : Except Fault (List Char) := do
  let trimmed := Text.trimBoth Text.isBlank description
  if trimmed = "none".toList then .ok trimmed
  else
    match ← ofWords {} (Text.words Text.isBlank description) with
    | some s => .ok s.text
    | none => .ok (Text.small trimmed)

end Style

end Likeness.Terminal
