import Likeness.Metric.Comparison

/-!
# Metrics

A metric compares two values by a score, and says whether a higher score is the
better match.  The built-in metrics are the comparisons under their names.
-/

namespace Likeness

/-- A way to score two values. -/
structure Metric (K : Type) where
  name : String
  /-- Similarities grow with likeness, distances shrink. -/
  higherIsBetter : Bool
  /-- The score does not depend on the order of its arguments. -/
  symmetric : Bool
  score : Value → Value → Except Fault (Score K)

namespace Metric

variable {K : Type} [Scalar K]

/-- The metric as messages show it: its name and its direction. -/
def describe (m : Metric K) : String :=
  m.name ++ (if m.higherIsBetter then " (similarity)" else " (distance)")

/-- The edit distance. -/
def levenshtein : Metric K where
  name := "levenshtein"
  higherIsBetter := false
  symmetric := true
  score a b := (editDistance a b none).map .whole

/-- The edit distance up to a threshold, and -1 beyond it. -/
def boundedLevenshtein (threshold : Parameter Float) : Metric K where
  name := "levenshtein_bounded"
  higherIsBetter := false
  symmetric := true
  score a b := (editDistance a b (some threshold)).map .whole

/-- The Jaro similarity. -/
def jaro : Metric K where
  name := "jaro"
  higherIsBetter := true
  symmetric := true
  score a b := (jaroSimilarity a b).map .real

/-- The Jaro-Winkler similarity. -/
def jaroWinkler (p : Match.Boost K) : Metric K where
  name := "jaro_winkler"
  higherIsBetter := true
  symmetric := true
  score a b := (winklerSimilarity p a b).map .real

/-- The Jaro-Winkler similarity with parameters that are refused for a reason: it can
    be described, but it scores nothing. -/
def misparameterised (reason : Fault) : Metric K where
  name := "jaro_winkler"
  higherIsBetter := true
  symmetric := true
  score a b := do
    given "a" a
    given "b" b
    .error reason

/-- The score of the second text as a query in the first.  It is the one built-in
    metric that depends on the order of its arguments. -/
def fuzzy : Metric K where
  name := "fuzzy"
  higherIsBetter := true
  symmetric := false
  score a b :=
    match textOrAbsent? a, textOrAbsent? b with
    | some (some _), some (some _) => (queryScore a b).map .whole
    | _, _ => .error .textsOnly

end Metric

end Likeness
