import Likeness.Json.Writer
import Likeness.Table.Row
import Likeness.Value.Written

/-!
# Writing tables

The fields of a table are values; nothing is a blank field, and other values are
written as messages show them.  Rows are written one by one, so those before a
row that has no fields stay.
-/

namespace Likeness.Table

open Text (Draft)

/-- The text of a field. -/
def fieldText : Value → Except Fault (List Char)
  | .null => .ok []
  | .int n => Json.integer n
  | v => .ok v.plain.toList

/-- A row of fields. -/
def draftFields (fields : List Value) : Draft :=
  .ofExcept ((fields.mapM fieldText).map encodeRow)

/-- The heading of a table. -/
def draftHeading (heading : Value) : Draft :=
  match heading.elements? with
  | some fields => draftFields fields
  | none =>
    .stop (if heading.canBeBegun then .wrongKind else .rowWithoutFields heading.kindName)

/-- A row of a table. -/
def draftRow (row : Value) : Draft :=
  match row.elements? with
  | some fields => draftFields fields
  | none => .stop .wrongKind

/-- A table with its heading. -/
def write (heading rows : Value) : Draft :=
  draftHeading heading ++
    match rows.elements? with
    | some rows => .concat (rows.map draftRow)
    | none => .stop .wrongKind

end Likeness.Table
