/-!
# What is wrong with YAML text

Only the kind of a problem is reported.
-/

namespace Likeness.Yaml

/-- Why a text is not a YAML document that can be read. -/
inductive Problem where
  /-- A character is not allowed in any document. -/
  | character
  /-- Something is no token, or no token is allowed there. -/
  | token
  /-- The tokens do not form a document. -/
  | arrangement
  /-- A reference or an anchor is wrong, or there is more than one document. -/
  | reference
  /-- A node stands for no value. -/
  | construction
  deriving Repr, DecidableEq

/-- Which part of a date or of a time is out of its range. -/
inductive TimeProblem where
  | year
  | month
  | day
  | hour
  | minute
  | second
  /-- The offset from universal time, in seconds. -/
  | offset (seconds : Int)
  deriving Repr, DecidableEq

end Likeness.Yaml
