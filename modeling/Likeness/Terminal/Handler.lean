import Likeness.Terminal.Literal
import Likeness.Terminal.Problem
import Likeness.Text.Blank
import Likeness.Text.Quoted

/-!
# Handlers

A tag may name a handler, with what it is to be given in parentheses behind the
name.  Without parentheses it is given nothing; a text of any other form is read
as what it is given.
-/

namespace Likeness.Terminal.Handler

/-- The name of a handler consists of such characters. -/
def inName (c : Char) : Bool := Literal.inName c || c = '.'

/-- The part of a text that is read as literals. -/
def literalPart (cs : List Char) : List Char :=
  match cs.dropWhile inName with
  | [] => ['(', ')']
  | '(' :: rest => if rest.getLast? = some ')' then '(' :: rest else cs
  | _ => cs

/-- Refuses a handler whose literals cannot be read. -/
def check (given : List Char) : Except Problem Unit :=
  if given.isEmpty then .ok ()
  else
    let part := literalPart (Text.trimBoth Text.isBlank given)
    match Literal.problem? part with
    | none => .ok ()
    | some p =>
      .error (.badHandler (Text.quoted (String.ofList part)) (Text.quoted (String.ofList given))
        p.message)

end Likeness.Terminal.Handler
