/-!
# Complaints about data

Data from outside is checked field by field, and everything that is wrong with
it is reported at once: where, by a code, and in words.
-/

namespace Likeness

/-- What can be wrong with a field, or with the data as a whole. -/
inductive Problem where
  | missing
  /-- The data is no mapping; the name is that of what it should describe. -/
  | noMapping (expected : String)
  | noText
  | textNotUtf8
  | noInteger
  | integerUnreadable
  | integerTooLong
  | integerWithFraction
  | notFinite
  | noNumber
  | numberUnreadable
  | noTruthValue
  | truthValueUnreadable
  | negative
  /-- The boost of a prefix could leave the range of a similarity. -/
  | boostTooLarge
  deriving Repr, DecidableEq

namespace Problem

/-- The code of a problem. -/
def code : Problem → String
  | missing => "missing"
  | noMapping _ => "model_type"
  | noText => "string_type"
  | textNotUtf8 => "string_unicode"
  | noInteger => "int_type"
  | integerUnreadable => "int_parsing"
  | integerTooLong => "int_parsing_size"
  | integerWithFraction => "int_from_float"
  | notFinite => "finite_number"
  | noNumber => "float_type"
  | numberUnreadable => "float_parsing"
  | noTruthValue => "bool_type"
  | truthValueUnreadable => "bool_parsing"
  | negative => "greater_than_equal"
  | boostTooLarge => "value_error"

/-- A problem in words. -/
def message : Problem → String
  | missing => "Field required"
  | noMapping expected => "Input should be a valid dictionary or instance of " ++ expected
  | noText => "Input should be a valid string"
  | textNotUtf8 => "Input should be a valid string, unable to parse raw data as a unicode string"
  | noInteger => "Input should be a valid integer"
  | integerUnreadable => "Input should be a valid integer, unable to parse string as an integer"
  | integerTooLong => "Unable to parse input string as an integer, exceeded maximum size"
  | integerWithFraction => "Input should be a valid integer, got a number with a fractional part"
  | notFinite => "Input should be a finite number"
  | noNumber => "Input should be a valid number"
  | numberUnreadable => "Input should be a valid number, unable to parse string as a number"
  | noTruthValue => "Input should be a valid boolean"
  | truthValueUnreadable => "Input should be a valid boolean, unable to interpret input"
  | negative => "Input should be greater than or equal to 0"
  | boostTooLarge => "Value error, scaling_factor * prefix_limit must not exceed 1"

end Problem

/-- A problem and the field that has it; the data as a whole has no name. -/
structure Complaint where
  field : Option String
  problem : Problem
  deriving Repr, DecidableEq

/-- What stands in a message for the complaints, which are reported beside it. -/
def Complaint.reference : String := "<validation>"

end Likeness
