import Likeness.Fault
import Likeness.Match.Winkler
import Likeness.Schema.Reading

/-!
# Settings

The defaults of a session: which metric, with which parameters, how many pairs
and which messages.  `Settings.read` takes them from a mapping of any shape;
fields that are not given keep their defaults, and unknown ones are ignored.
-/

namespace Likeness

/-- The defaults of a session. -/
structure Settings where
  metric : String := "levenshtein"
  threshold : Option Nat := none
  scalingFactor : Float := Match.defaultScaling
  prefixLimit : Nat := Match.defaultPrefixLimit
  casefold : Bool := false
  limit : Option Nat := none
  logLevel : String := "WARNING"

namespace Settings

/-- The name under which the settings are known to the one who writes them. -/
def schemaName : String := "SettingsModel"

/-- The parameters of the boost, in the numbers that it is computed in. -/
def boost (K : Type) [Scalar K] (s : Settings) : Match.Boost K :=
  ⟨.ofScore (.real (Scalar.ofFloat s.scalingFactor)), .ofScore (.whole s.prefixLimit)⟩

/-- Refuses parameters whose boost could leave the range of a similarity. -/
def checkBoost (K : Type) [Scalar K] (s : Settings) : Except Fault Unit := do
  let product ← Match.times? (s.boost K).scaling.value (s.boost K).prefixLimit.value
  if Match.exceedsOne product then .error (.invalid [⟨none, .boostTooLarge⟩]) else .ok ()

/-- The settings in the entries of a mapping, field by field. -/
def ofEntries (entries : List (Value × Value)) : Except Fault Settings :=
  let metric := Schema.optional entries "metric" "levenshtein" Schema.text
  let threshold := Schema.optional entries "threshold" none (Schema.nullable Schema.natural)
  let scaling := Schema.optional entries "scaling_factor" Match.defaultScaling Schema.magnitude
  let prefixLimit := Schema.optional entries "prefix_limit" Match.defaultPrefixLimit Schema.natural
  let casefold := Schema.optional entries "casefold" false Schema.truth
  let limit := Schema.optional entries "limit" none (Schema.nullable Schema.natural)
  let logLevel := Schema.optional entries "log_level" "WARNING" Schema.text
  match metric, threshold, scaling, prefixLimit, casefold, limit, logLevel with
  | .ok metric, .ok threshold, .ok scaling, .ok prefixLimit, .ok casefold, .ok limit,
      .ok logLevel =>
    .ok ⟨metric, threshold, scaling, prefixLimit, casefold, limit, logLevel⟩
  | metric, threshold, scaling, prefixLimit, casefold, limit, logLevel =>
    .error (.invalid ([Schema.complaint? metric, Schema.complaint? threshold,
      Schema.complaint? scaling, Schema.complaint? prefixLimit, Schema.complaint? casefold,
      Schema.complaint? limit, Schema.complaint? logLevel].filterMap id))

/-- The settings that a value describes; the boost is checked in the numbers that
    it will be computed in, and only when every field could be read. -/
def read (K : Type) [Scalar K] : Value → Except Fault Settings
  | .dict entries => do
    let s ← ofEntries entries
    s.checkBoost K
    .ok s
  | _ => .error (.invalid [⟨none, .noMapping schemaName⟩])

end Settings

end Likeness
