import Likeness.Batch.Record
import Likeness.Batch.Summary
import Likeness.Metric.Registry
import Likeness.Store.Path
import Likeness.Terminal.Markup
import Likeness.Terminal.Layout
import Likeness.Value.Written

/-!
# How results are shown

Commands show their results in lines and tables of markup.  Texts that come from
outside are escaped, so that brackets in them are no tags.
-/

namespace Likeness.Shown

open Terminal (Grid)
open Terminal.Markup (escape)

/-- A score: a whole one as it is, another with some places. -/
def score (places : Nat) : Score Float → String
  | .whole n => Decimal.intText n
  | .real x => Decimal.fixedText places x

/-- A message about what went wrong. -/
def complaint (message : String) : String := "[red]" ++ escape message ++ "[/red]"

/-- The score of two texts; a distance beyond the threshold is shown with it. -/
def distance : Option Int → Score Float → String
  | some t, .whole (-1) =>
    "-1 [yellow](distance exceeds " ++ Decimal.intText t ++ ")[/yellow]"
  | _, s => score 4 s

/-- The kind of a metric. -/
def kind (higherIsBetter : Bool) : String := if higherIsBetter then "similarity" else "distance"

/-- The metrics that are known, by name. -/
def metrics {K : Type} (r : Registry K) : Grid where
  title := "Available Metrics"
  columns := ["name", "kind"]
  rows := r.sortedNames.map fun name =>
    [name, kind ((r.find? name).any (·.higherIsBetter))]

/-- The records of a run. -/
def records (rs : List (Record Float)) : Grid where
  title := "Batch Scores"
  columns := ["pair_id", "left", "right", "score"]
  rows := rs.map fun r => [escape r.pairId, escape r.left, escape r.right, score 4 r.score]

/-- Where the files of a run are.  Brackets in the name of the folder are read as
    tags. -/
def artefacts (folder : Path) : String :=
  "Artefacts written to [green]" ++ folder.text ++ "[/green]"

/-- A value of a summary. -/
def figure : Value → String
  | .real x => Decimal.fixedText 3 x
  | v => v.plain

/-- The summary of a run. -/
def summary (s : Summary Float) : Grid where
  title := "Run Summary"
  columns := ["metric", "value"]
  rows := s.entries.map fun e => [e.1, figure e.2]

/-- A matrix of scores, with its items above and beside it. -/
def matrix (metric : String) (items : List String) (scores : List (List (Score Float))) : Grid where
  title := metric ++ " matrix"
  columns := "" :: items.map escape
  rows := (items.zip scores).map fun r => escape r.1 :: r.2.map (score 3)

end Likeness.Shown
