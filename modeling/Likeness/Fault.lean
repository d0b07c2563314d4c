import Likeness.Command.Misuse
import Likeness.Decimal.Layout
import Likeness.Json.Problem
import Likeness.Schema.Complaint
import Likeness.Terminal.Problem
import Likeness.Text.Quoted
import Likeness.Text.Utf8
import Likeness.Yaml.Problem

/-!
# Faults

Why a call is refused.  A fault is a cause; its wording is in `Fault.message`
and nowhere else.
-/

namespace Likeness

/-- The causes for which a call has no result. -/
inductive Fault where
  /-- A required argument was not given. -/
  | absent (argument : String)
  | negativeThreshold (given : String)
  | negativePrefixLimit (given : String)
  /-- The boost of a prefix could leave the range of a similarity. -/
  | scalingOutOfRange (factor prefixLimit : String)
  /-- The bounded distance was asked for without its bound. -/
  | thresholdRequired
  /-- A metric on texts was given something else. -/
  | textsOnly
  | evenInitial (given : String)
  | evenMultiplier (given : String)
  /-- A bound of a character range is not one character. -/
  | wideBounds
  /-- The integers of a range are no step apart. -/
  | zeroStep
  /-- All records would share the default value of a field, which can be changed. -/
  | sharedDefault (field kind : String)
  /-- A dictionary has no such key. -/
  | noSuchKey (shown : String)
  | unknownMetric (name : String) (known : List String)
  | namelessMetric
  /-- The metric does not say how to score. -/
  | unscored
  | unknownLevel (name : String)
  /-- The number has more digits than are read, or written. -/
  | tooManyDigits (read : Option Nat)
  /-- Data was checked and refused. -/
  | invalid (complaints : List Complaint)
  /-- The settings in a file were refused. -/
  | invalidSettings (path : String) (complaints : List Complaint)
  /-- A pair in a file was refused. -/
  | invalidPair (number : Nat) (path : String) (complaints : List Complaint)
  | settingsMissing (path : String)
  | pairsMissing (path : String)
  | traceMissing (path : String)
  /-- A document is not JSON. -/
  | notJson (problem : Json.Problem) (place : Json.Place)
  /-- A line of a file is not JSON. -/
  | lineNotJson (path : String) (line : Nat) (problem : Json.Problem)
  /-- Arrays or objects are nested too deep. -/
  | nestedTooDeep
  /-- Bytes are not UTF-8. -/
  | notUtf8 (found : Text.Utf8.Fault)
  /-- Some code points of a text in a row are halves of characters, which UTF-8 does
      not have. -/
  | notEncodable (code position count : Nat)
  /-- A document is not YAML. -/
  | notYaml (problem : Yaml.Problem)
  /-- A date or a time does not exist. -/
  | noSuchTime (problem : Yaml.TimeProblem)
  /-- A text is no integer in a base; it is given as messages show it. -/
  | notInteger (base : Nat) (shown : String)
  /-- A text is no number; it is given as messages show it. -/
  | notNumber (shown : String)
  /-- A text has no character at a place. -/
  | noSuchPlace
  /-- No character has a code. -/
  | noSuchCharacter
  | noSuchFile
  /-- A file is asked for where a folder is. -/
  | isFolder
  /-- A folder is asked for where a file is, with more of the path to come. -/
  | notFolder
  /-- A folder cannot be made where a file is. -/
  | fileExists
  /-- A path contains the character that no name may contain. -/
  | nulInPath
  /-- A name or a path is longer than any can be. -/
  | nameTooLong
  /-- The heading of a table is a value of a kind that is not made of fields. -/
  | rowWithoutFields (kind : String)
  /-- A value is of a kind for which the operation has no meaning. -/
  | wrongKind
  /-- A value lacks an operation or a field that is asked of it. -/
  | noSuchField
  /-- A number is beyond the range of a double, or of 64 bits. -/
  | outOfRange
  /-- What is not a number is next to no integer. -/
  | nanToInteger
  /-- A text is not markup. -/
  | notMarkup (problem : Terminal.Problem)
  /-- The arguments of the program are refused. -/
  | misused (misuse : Misuse)
  deriving Repr, DecidableEq

/-- The wording of bytes that are not UTF-8: which ones, and why. -/
def utf8Message (f : Text.Utf8.Fault) : String :=
  let cause := match f.cause with
    | .invalidStart => "invalid start byte"
    | .invalidContinuation => "invalid continuation byte"
    | .truncated => "unexpected end of data"
  let first := Decimal.intText f.position
  let bytes :=
    if f.length = 1 then
      "byte 0x" ++ String.ofList (Text.Quoted.hex 2 f.byte.toNat) ++ " in position " ++ first
    else
      "bytes in position " ++ first ++ "-" ++ Decimal.intText (f.position + f.length - 1 : Nat)
  "'utf-8' codec can't decode " ++ bytes ++ ": " ++ cause

/-- The wording of code points that UTF-8 does not have. -/
def encodingMessage (code position count : Nat) : String :=
  let first := Decimal.intText position
  let codes :=
    if count = 1 then
      "character '" ++ String.ofList (Text.Quoted.encodeNumber code) ++ "' in position " ++ first
    else
      "characters in position " ++ first ++ "-" ++ Decimal.intText (position + count - 1 : Nat)
  "'utf-8' codec can't encode " ++ codes ++ ": surrogates not allowed"

/-- An offset from universal time in days and seconds, leaving out what is zero. -/
def offsetText (seconds : Int) : String :=
  let days := seconds.fdiv 86400
  let rest := seconds.fmod 86400
  let part (name : String) (n : Int) := if n = 0 then [] else [name ++ "=" ++ Decimal.intText n]
  "datetime.timedelta(" ++ String.intercalate ", " (part "days" days ++ part "seconds" rest) ++ ")"

/-- The wording of a date or time that does not exist. -/
def timeMessage : Yaml.TimeProblem → String
  | .year => "year 0 is out of range"
  | .month => "month must be in 1..12"
  | .day => "day is out of range for month"
  | .hour => "hour must be in 0..23"
  | .minute => "minute must be in 0..59"
  | .second => "second must be in 0..59"
  | .offset seconds =>
    "offset must be a timedelta strictly between -timedelta(hours=24) and timedelta(hours=24), not "
      ++ offsetText seconds ++ "."

/-- The wording of a fault; causes that speak for themselves have none. -/
def Fault.message : Fault → String
  | absent argument => argument ++ " must not be None"
  | negativeThreshold given => "threshold must not be negative, got " ++ given
  | negativePrefixLimit given => "prefix_limit must not be negative, got " ++ given
  | scalingOutOfRange factor limit =>
    "scaling_factor must be non-negative and at most 1 / prefix_limit, got " ++ factor
      ++ " with prefix_limit=" ++ limit
  | thresholdRequired => "levenshtein_bounded requires a threshold"
  | textsOnly => "fuzzy metric only compares strings"
  | evenInitial given => "initial must be a non-zero odd number, got " ++ given
  | evenMultiplier given => "multiplier must be a non-zero odd number, got " ++ given
  | wideBounds => "CharRange bounds must be single characters"
  | zeroStep => "range() arg 3 must not be zero"
  | sharedDefault field kind =>
    "mutable default <class '" ++ kind ++ "'> for field " ++ field
      ++ " is not allowed: use default_factory"
  | noSuchKey shown => shown
  | unknownMetric name known =>
    "Unknown metric '" ++ name ++ "', expected one of " ++ Text.bracketed (known.map Text.quoted)
  | namelessMetric => "Metric class must define a name"
  | unknownLevel name => "Level '" ++ name ++ "' does not exist"
  | tooManyDigits (some n) =>
    "Exceeds the limit (4300 digits) for integer string conversion: value has "
      ++ Decimal.intText n ++ " digits; use sys.set_int_max_str_digits() to increase the limit"
  | tooManyDigits none =>
    "Exceeds the limit (4300 digits) for integer string conversion; "
      ++ "use sys.set_int_max_str_digits() to increase the limit"
  | invalid _ => Complaint.reference
  | invalidSettings path _ => "Invalid settings in " ++ path ++ ": " ++ Complaint.reference
  | invalidPair number path _ =>
    "Invalid pair #" ++ Decimal.intText number ++ " in " ++ path ++ ": " ++ Complaint.reference
  | settingsMissing path => "Settings file not found at " ++ path
  | pairsMissing path => "Pairs file not found at " ++ path
  | traceMissing path => "Trace not found at " ++ path
  | notJson problem place =>
    problem.message ++ ": line " ++ Decimal.intText place.line ++ " column "
      ++ Decimal.intText place.column ++ " (char " ++ Decimal.intText place.position ++ ")"
  | lineNotJson path line problem =>
    path ++ ":" ++ Decimal.intText line ++ ": " ++ problem.message
  | notUtf8 found => utf8Message found
  | notEncodable code position count => encodingMessage code position count
  | noSuchTime problem => timeMessage problem
  | notInteger base shown =>
    "invalid literal for int() with base " ++ Decimal.intText base ++ ": " ++ shown
  | notNumber shown => "could not convert string to float: " ++ shown
  | noSuchPlace => "string index out of range"
  | noSuchCharacter => "chr() arg not in range(0x110000)"
  | nanToInteger => "cannot convert float NaN to integer"
  | nulInPath => "embedded null byte"
  | notYaml _ | nestedTooDeep | noSuchFile | isFolder | notFolder | fileExists | nameTooLong => ""
  | rowWithoutFields kind => "iterable expected, not " ++ kind
  | unscored | wrongKind | noSuchField | outOfRange => ""
  | notMarkup problem => problem.message
  | misused misuse => misuse.message

end Likeness
