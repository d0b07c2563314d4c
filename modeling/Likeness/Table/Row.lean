/-!
# Rows of a table

A table is written with a tab between fields and a line feed behind each row.  A
field that holds a tab, a quote or a line feed is put in quotes, and the quotes
in it are doubled; so is the only field of a row when it is empty, as the row
would otherwise look like none.

A carriage return is no reason for quotes, as rows end with line feeds.  This is
the rule of the table writer before 3.11.8 and 3.12.2; since then it puts every
field that holds a carriage return in quotes too.
-/

namespace Likeness.Table

/-- A field with this character has to be quoted. -/
def needsQuotes (c : Char) : Bool := c == '\t' || c == '"' || c == '\n'

/-- A field in quotes. -/
def quote (field : List Char) : List Char :=
  '"' :: field.flatMap (fun c => if c = '"' then ['"', '"'] else [c]) ++ ['"']

/-- A field as it is written. -/
def encodeField (field : List Char) : List Char :=
  if field.any needsQuotes then quote field else field

/-- Fields with tabs between them. -/
def joinFields : List (List Char) → List Char
  | [] => []
  | [f] => f
  | f :: fs => f ++ '\t' :: joinFields fs

/-- A row as it is written, with its line feed. -/
def encodeRow : List (List Char) → List Char
  | [[]] => ['"', '"', '\n']
  | fields => joinFields (fields.map encodeField) ++ ['\n']

/-- A table as it is written. -/
def encode (rows : List (List (List Char))) : List Char := rows.flatMap encodeRow

end Likeness.Table
