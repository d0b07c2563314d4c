import Likeness.Metric.Basic
import Likeness.Parameter
import Likeness.Value.Hashable

/-!
# The registry of metrics

Metrics are made by name, with named parameters.  The registry starts with the
built-in kinds and keeps the order in which names first arrived; a kind that is
registered under a present name takes its place.
-/

namespace Likeness

/-- A kind of metric: its name and direction, and how it is made from parameters. -/
structure MetricKind (K : Type) where
  name : String
  higherIsBetter : Bool
  make : Named → Except Fault (Metric K)

namespace MetricKind

variable {K : Type} [Scalar K]

/-- A kind that takes no parameters. -/
def plain (m : Metric K) : MetricKind K where
  name := m.name
  higherIsBetter := m.higherIsBetter
  make params := if params.isEmpty then .ok m else .error .wrongKind

/-- The bounded edit distance; it has to be given a threshold that is not negative. -/
def bounded : MetricKind K where
  name := "levenshtein_bounded"
  higherIsBetter := false
  make params := do
    Named.onlyNames ["threshold"] params
    match params.lookup "threshold" with
    | none | some .null => .error .thresholdRequired
    | some v =>
      match Parameter.ofValue? v with
      | none => .error .wrongKind
      | some t =>
        if t.value.isNegative then .error (.negativeThreshold t.text)
        else .ok (.boundedLevenshtein t)

/-- The Jaro-Winkler similarity; its parameters are checked when it scores. -/
def winkler : MetricKind K where
  name := "jaro_winkler"
  higherIsBetter := true
  make params := do
    Named.onlyNames ["scaling_factor", "prefix_limit"] params
    let scaling := (params.lookup "scaling_factor").getD (.real Match.defaultScaling)
    let limit := (params.lookup "prefix_limit").getD (.int Match.defaultPrefixLimit)
    match Match.Boost.ofValues scaling limit with
    | .ok p => .ok (.jaroWinkler p)
    | .error e => .ok (.misparameterised e)

end MetricKind

/-- The kinds of metrics that are known, by name, in order of arrival. -/
structure Registry (K : Type) where
  kinds : List (String × MetricKind K)

namespace Registry

variable {K : Type} [Scalar K]

/-- A kind put under a name: in place of the kind there, or at the end. -/
def put (name : String) (kind : MetricKind K) :
    List (String × MetricKind K) → List (String × MetricKind K)
  | [] => [(name, kind)]
  | (n, k) :: rest => if n = name then (n, kind) :: rest else (n, k) :: put name kind rest

/-- The built-in kinds. -/
def builtin : Registry K where
  kinds := [MetricKind.plain .levenshtein, MetricKind.bounded, MetricKind.plain .jaro,
    MetricKind.winkler, MetricKind.plain .fuzzy].map fun k => (k.name, k)

/-- The name that a kind has when it was given none. -/
def baseName : String := "base"

/-- The registry with one more kind; a kind has to have a name of its own. -/
def register (r : Registry K) (kind : MetricKind K) : Except Fault (Registry K) :=
  if kind.name = "" ∨ kind.name = baseName then .error .namelessMetric
  else .ok ⟨put kind.name kind r.kinds⟩

/-- The kind under a name. -/
def find? (r : Registry K) (name : String) : Option (MetricKind K) := r.kinds.lookup name

/-- The names in alphabetical order. -/
def sortedNames (r : Registry K) : List String :=
  (r.kinds.map (·.1)).mergeSort fun a b => a ≤ b

/-- The name that a value is; what is no text names no metric. -/
def nameOf (r : Registry K) : Value → Except Fault String
  | .text name => .ok name
  | v => if v.isHashable then .error (.unknownMetric v.plain r.sortedNames) else .error .wrongKind

/-- The metric of a name, made from parameters. -/
def make (r : Registry K) (name : String) (params : Named) : Except Fault (Metric K) :=
  match r.find? name with
  | some kind => kind.make params
  | none => .error (.unknownMetric name r.sortedNames)

end Registry

end Likeness
