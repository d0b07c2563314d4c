import Likeness.Batch.Pair
import Likeness.Settings.MetricChoice
import Likeness.Text.Folding

/-!
# Runners and records

A runner scores pairs with one metric.  It may fold case before scoring, but the
record of a pair keeps its texts as they were.  When the distance is bounded the
record also says whether the bound was exceeded.
-/

namespace Likeness

/-- The result of scoring a pair. -/
structure Record (K : Type) where
  pairId : String
  left : String
  right : String
  /-- The name of the metric. -/
  metric : String
  score : Score K
  /-- Whether the distance exceeds its bound, if it has one. -/
  exceeded : Option Bool

/-- A metric and how it is applied to pairs. -/
structure Runner (K : Type) where
  /-- The name under which the metric was chosen. -/
  name : String
  metric : Metric K
  casefold : Bool
  /-- The metric is the bounded distance, with a threshold. -/
  bounded : Bool

/-- A text, with case folded if so asked. -/
def foldedIf (casefold : Bool) (s : String) : String :=
  if casefold then String.ofList (Text.fold s.toList) else s

/-- The score that stands for a distance beyond its bound. -/
def isSentinel {K : Type} [Scalar K] (s : Score K) : Bool := s.equal (.whole (-1))

namespace Runner

variable {K : Type} [Scalar K]

/-- The runner for a metric; a threshold chooses the bounded distance. -/
def make (registry : Registry K) (metric : String) (casefold : Bool) (o : MetricOptions) :
    Except Fault (Runner K) := do
  let name := chosenName metric o.isBounded
  let m ← registry.make name (o.forMetric name)
  .ok ⟨name, m, casefold, o.isBounded && name = "levenshtein_bounded"⟩

/-- The metric of a runner that was given none. -/
def defaultMetric : String := "levenshtein"

/-- The runner that is asked for by name: by the name of its metric, whether it folds
    case, and the options of its metric. -/
def ofNamed (registry : Registry K) (named : Named) : Except Fault (Runner K) := do
  let o ← MetricOptions.ofNamed (named.without ["metric_name", "casefold"])
  let metric ← registry.nameOf ((named.lookup "metric_name").getD (.text defaultMetric))
  make registry metric ((named.lookup "casefold").any Value.holds) o

/-- The runner that the settings ask for. -/
def ofSettings (registry : Registry K) (s : Settings) : Except Fault (Runner K) :=
  make registry s.metric s.casefold s.options

/-- The score of two texts. -/
def score (r : Runner K) (left right : String) : Except Fault (Score K) :=
  r.metric.score (.text (foldedIf r.casefold left)) (.text (foldedIf r.casefold right))

/-- The identifier of the pair at a place: its own unless it has none or an empty
    one, else its place's. -/
def pairId (place : Nat) (p : Pair) : String :=
  match p.id with
  | some id => if id = "" then Pair.placeId place else id
  | none => Pair.placeId place

/-- The record of the pair at a place. -/
def record (r : Runner K) (place : Nat) (p : Pair) : Except Fault (Record K) :=
  (r.score p.left p.right).map fun score =>
    ⟨pairId place p, p.left, p.right, r.name, score,
      if r.bounded then some (isSentinel score) else none⟩

end Runner

namespace Record

/-- The record in one line, as it is reported. -/
def progress {K : Type} [Scalar K] (r : Record K) : String :=
  r.pairId ++ " " ++ Text.quoted r.left ++ " vs " ++ Text.quoted r.right ++ " -> " ++ r.score.text

/-- The record as a value. -/
def toValue (r : Record Float) : Value :=
  .dict [
    (.text "pair_id", .text r.pairId),
    (.text "left", .text r.left),
    (.text "right", .text r.right),
    (.text "metric", .text r.metric),
    (.text "score", .ofScore r.score),
    (.text "exceeded", Value.ofOption .bool r.exceeded)]

end Record

end Likeness
