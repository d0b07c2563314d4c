import Likeness.Fault
import Likeness.Json.Reader
import Likeness.Text.Blank
import Likeness.Text.Lines

/-!
# Documents and records

A file holds one JSON document, or one on each line.  In the second case blank
lines count but hold nothing, and blanks at the ends of a line are trimmed.
-/

namespace Likeness.Json

/-- The value of a document. -/
def document (cs : List Char) : Except Fault Value :=
  (read cs).mapError fun
    | .at problem left => .notJson problem (.of cs left)
    | .tooManyDigits n => .tooManyDigits (some n)
    | .tooDeep => .nestedTooDeep

/-- The value on a line of a file. -/
def line (path : String) (number : Nat) (cs : List Char) : Except Fault Value :=
  (read cs).mapError fun
    | .at problem _ => .lineNotJson path number problem
    | .tooManyDigits n => .tooManyDigits (some n)
    | .tooDeep => .nestedTooDeep

/-- The values on the lines of a file, from a line number on. -/
def linesFrom (path : String) : Nat → List (List Char) → Except Fault (List Value)
  | _, [] => .ok []
  | number, l :: ls =>
    let trimmed := Text.trimBoth Text.isBlank l
    if trimmed.isEmpty then linesFrom path (number + 1) ls
    else do
      let v ← line path number trimmed
      let vs ← linesFrom path (number + 1) ls
      .ok (v :: vs)

/-- The values on the lines of a file, as far as it can be read: what is wrong
    with a line is found before what stops the reading behind it. -/
def records (path : String) (t : Text.Streamed) : Except Fault (List Value) := do
  let values ← linesFrom path 1 t.lines
  match t.fault with
  | none => .ok values
  | some f => .error (.notUtf8 f)

end Likeness.Json
