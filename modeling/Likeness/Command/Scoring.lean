import Likeness.Batch.Record
import Likeness.Matrix

/-!
# Scores of the commands

Three commands score texts by the same settings: one scores two texts, one the
pairs of a file, one all pairs of some items.  What they score is here, apart
from how it is shown.
-/

namespace Likeness.Scoring

variable {K : Type} [Scalar K]

/-- The metric that is asked for, or else that of the settings.  An empty name asks
    for none. -/
def metricName (s : Settings) (asked : Option String) : String :=
  match asked with
  | some name => if name = "" then s.metric else name
  | none => s.metric

/-- The threshold that is asked for, or else that of the settings. -/
def threshold? (s : Settings) (asked : Option Int) : Option Int :=
  match asked with
  | some t => some t
  | none => s.threshold?

/-- The name of the metric of a command, given its threshold. -/
def chosen (s : Settings) (metric : Option String) (threshold : Option Int) : String :=
  chosenName (metricName s metric) threshold.isSome

/-- The metric of a command, given its threshold. -/
def metric (registry : Registry K) (s : Settings) (metric : Option String)
    (threshold : Option Int) : Except Fault (Metric K) :=
  let name := chosen s metric threshold
  registry.make name ((s.optionsWith threshold).forMetric name)

/-- The score of two texts, with case folded if the settings say so. -/
def ofTexts (registry : Registry K) (s : Settings) (asked : Option String) (bound : Option Int)
    (left right : String) : Except Fault (Score K) := do
  let m ← metric registry s asked (threshold? s bound)
  m.score (.text (foldedIf s.casefold left)) (.text (foldedIf s.casefold right))

/-- The runner that scores the pairs of a file. -/
def runner (registry : Registry K) (s : Settings) (asked : Option String) (bound : Option Int) :
    Except Fault (Runner K) :=
  Runner.make registry (metricName s asked) s.casefold (s.optionsWith (threshold? s bound))

/-- The scores of all pairs of items, as they are. -/
def ofItems (registry : Registry K) (s : Settings) (asked : Option String)
    (items : List String) : Except Fault (List (List (Score K))) := do
  let m ← metric registry s asked s.threshold?
  Matrix.pairwise m (items.map .text)

end Likeness.Scoring
