import Likeness.Metric.Registry
import Likeness.Settings.Basic

/-!
# Choosing a metric

A metric is chosen by a name and parameters of which it takes only its own.  A
threshold given to the plain edit distance chooses the bounded one.
-/

namespace Likeness

/-- The name of the metric that is chosen, given a threshold or none. -/
def chosenName (metric : String) (thresholdGiven : Bool) : String :=
  if metric = "levenshtein" ∧ thresholdGiven then "levenshtein_bounded" else metric

/-- Parameters for any metric. -/
structure MetricOptions where
  /-- The bound of the edit distance; nothing when it has none. -/
  threshold : Value := .null
  scalingFactor : Value := .real Match.defaultScaling
  prefixLimit : Value := .int Match.defaultPrefixLimit

namespace MetricOptions

/-- A threshold was given. -/
def isBounded (o : MetricOptions) : Bool := !o.threshold.isNull

/-- The options that a metric takes, by name. -/
def forMetric (o : MetricOptions) (metric : String) : Named :=
  if metric = "levenshtein_bounded" then [("threshold", o.threshold)]
  else if metric = "jaro_winkler" then
    [("scaling_factor", o.scalingFactor), ("prefix_limit", o.prefixLimit)]
  else []

/-- The options that were given by name. -/
def ofNamed (named : Named) : Except Fault MetricOptions := do
  Named.onlyNames ["threshold", "scaling_factor", "prefix_limit"] named
  .ok {
    threshold := (named.lookup "threshold").getD .null
    scalingFactor := (named.lookup "scaling_factor").getD (.real Match.defaultScaling)
    prefixLimit := (named.lookup "prefix_limit").getD (.int Match.defaultPrefixLimit) }

end MetricOptions

namespace Settings

/-- The options that the settings give, with a threshold of its own. -/
def optionsWith (s : Settings) (threshold : Option Int) : MetricOptions where
  threshold := Value.ofOption .int threshold
  scalingFactor := .real s.scalingFactor
  prefixLimit := .int s.prefixLimit

/-- The threshold of the settings. -/
def threshold? (s : Settings) : Option Int := s.threshold.map Int.ofNat

/-- The options that the settings give. -/
def options (s : Settings) : MetricOptions := s.optionsWith s.threshold?

end Settings

end Likeness
