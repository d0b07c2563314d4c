import Likeness.Session.Instant
import Likeness.Session.Level
import Likeness.Store.Basic
import Likeness.Terminal.Markup
import Likeness.Terminal.Layout
import Likeness.Text.Capital
import Likeness.Text.Draft
import Likeness.Value.Basic

/-!
# Working in a session

What the program does to its surroundings: it reads and writes the store, prints
results and reports what it does.  `Work` is a computation that may fail; what it
did before it failed stays done.
-/

namespace Likeness

/-- The messages that were reported, and from which level on they are; without a
    level nothing is reported. -/
structure Journal where
  level : Option Level
  entries : List (Level × String)

namespace Journal

/-- Nothing is reported. -/
def silent : Journal := ⟨none, []⟩

/-- A message is reported at this level. -/
def admits (j : Journal) (l : Level) : Bool := j.level.any fun least => least.rank ≤ l.rank

/-- The journal with a message, if it is reported. -/
def add (j : Journal) (l : Level) (message : String) : Journal :=
  if j.admits l then { j with entries := j.entries ++ [(l, message)] } else j

end Journal

/-- The surroundings of the program. -/
structure Session where
  store : Store
  journal : Journal
  /-- What was printed. -/
  screen : List Terminal.Printed
  /-- The time, which stands still while the program works. -/
  now : Instant

/-- Work in a session, which may fail. -/
abbrev Work (α : Type) : Type := ExceptT Fault (StateM Session) α

namespace Work

/-- The result of work and the session after it. -/
def run {α : Type} (w : Work α) (s : Session) : Except Fault α × Session :=
  (ExceptT.run w).run s

/-- What a look at the session gives. -/
def look {α : Type} (f : Session → Except Fault α) : Work α := do
  match f (← get) with
  | .ok a => pure a
  | .error e => throw e

/-- A result that does not depend on the session. -/
def ofExcept {α : Type} : Except Fault α → Work α
  | .ok a => pure a
  | .error e => throw e

/-- A file or folder is at a path. -/
def holds (p : Path) : Work Bool := look fun s => s.store.holds p

/-- Reports a message. -/
def report (l : Level) (message : String) : Work Unit :=
  modify fun s => { s with journal := s.journal.add l message }

/-- Reports from now on what has at least the level of a name, in any case of
    letters.  With an unknown name nothing is reported any more. -/
def reportFrom (name : String) : Work Unit := do
  let capital := String.ofList (Text.capitalise name.toList)
  let level := Level.ofName? capital
  modify fun s => { s with journal := { s.journal with level := level } }
  if level.isNone then throw (.unknownLevel capital)

/-- Reports from now on what has at least the level that a value names.  What is no
    text names none, and nothing is reported any more. -/
def reportFromValue : Value → Work Unit
  | .text name => reportFrom name
  | _ => do
    modify fun s => { s with journal := { s.journal with level := none } }
    throw .noSuchField

/-- Prints a line of markup. -/
def printLine (markup : String) : Work Unit := do
  let text ← ofExcept (Terminal.Markup.render markup)
  modify fun s => { s with screen := s.screen ++ [.line text] }

/-- Prints a table, of which every part is markup. -/
def printGrid (g : Terminal.Grid) : Work Unit := do
  let title ← ofExcept (Terminal.Markup.render g.title)
  let columns ← ofExcept (g.columns.mapM Terminal.Markup.render)
  let rows ← ofExcept (g.rows.mapM fun row => row.mapM Terminal.Markup.render)
  modify fun s => { s with screen := s.screen ++ [.grid ⟨title, columns, rows⟩] }

/-- Makes a folder and all the folders on the way to it. -/
def makeFolder (p : Path) : Work Unit := do
  let store ← look fun s => s.store.makeFolder p
  modify fun s => { s with store := store }

/-- Writes a file. -/
def writeBytes (p : Path) (bytes : List UInt8) : Work Unit := do
  let store ← look fun s => s.store.write p bytes
  modify fun s => { s with store := store }

/-- Writes a draft into a file, and the folders on the way to it; when the draft
    breaks off, the file ends there. -/
def writeDraft (p : Path) (d : Text.Draft) : Work Unit := do
  makeFolder p.parent
  writeBytes p (Text.Utf8.encode d.chars)
  match d.fault with
  | some e => throw e
  | none => pure ()

end Work

end Likeness
