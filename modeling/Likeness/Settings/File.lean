import Likeness.Session.Work
import Likeness.Settings.Basic
import Likeness.Yaml.Document

/-!
# Settings in a file

Settings are read from a file that is named, or else from the default file, which
need not be there.
-/

namespace Likeness.Settings

/-- Where settings are looked for when no file is named. -/
def defaultFile : Path := Path.ofString "fuzzykit.yaml"

/-- The settings that a document describes; one that holds nothing changes nothing. -/
def ofDocument (K : Type) [Scalar K] (path : String) (v : Value) : Except Fault Settings :=
  (read K (if v.holds then v else .dict [])).mapError fun
    | .invalid complaints => .invalidSettings path complaints
    | e => e

/-- The settings of the file that is named, or of the default one. -/
def load (K : Type) [Scalar K] (named : Option Path) (default : Path) : Work Settings := do
  let p := named.getD default
  if ← Work.holds p then
    let pieces ← Work.look fun s => s.store.pieces p
    Work.ofExcept (do ofDocument K p.text (← Yaml.read pieces))
  else
    match named with
    | some p => throw (.settingsMissing p.text)
    | none => pure {}

end Likeness.Settings
