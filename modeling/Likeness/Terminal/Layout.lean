/-!
# Lines and tables

Commands print lines and tables.  A table is laid out in columns that are as wide as
their widest cell.
-/

namespace Likeness.Terminal

/-- A table with a title and named columns. -/
structure Grid where
  title : String
  columns : List String
  rows : List (List String)
  deriving Repr, DecidableEq

/-- A line or a table. -/
inductive Printed where
  | line (text : String)
  | grid (g : Grid)
  deriving Repr, DecidableEq

/-- A text filled up with blanks. -/
def filled (width : Nat) (s : String) : String :=
  s ++ String.ofList (List.replicate (width - s.length) ' ')

/-- The widths of the columns of some rows. -/
def widths (rows : List (List String)) : List Nat :=
  rows.foldl (fun ws row =>
    let ns := row.map String.length
    List.zipWith max (ws ++ List.replicate (ns.length - ws.length) 0)
      (ns ++ List.replicate (ws.length - ns.length) 0)) []

/-- A row in columns of some widths, without blanks at its end. -/
def rowLine (ws : List Nat) (row : List String) : String :=
  let cs := (String.intercalate "  " (List.zipWith filled ws row)).toList
  String.ofList (cs.reverse.dropWhile (· = ' ')).reverse

/-- A table in lines: its title, the names of its columns, and its rows. -/
def Grid.lines (g : Grid) : List String :=
  let ws := widths (g.columns :: g.rows)
  g.title :: (g.columns :: g.rows).map (rowLine ws)

/-- What is printed, in lines. -/
def Printed.lines : Printed → List String
  | .line text => [text]
  | .grid g => g.lines

end Likeness.Terminal
