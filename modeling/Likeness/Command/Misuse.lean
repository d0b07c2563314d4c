/-!
# Misuse of the command line

Why arguments are refused before any work is done.
-/

namespace Likeness

/-- The causes for which arguments are refused. -/
inductive Misuse where
  | noCommand
  | unknownCommand (name : String)
  | unknownOption (name : String)
  /-- An option stands at the end without the value that it takes. -/
  | valueMissing (option : String)
  /-- An option that takes no value has one. -/
  | valueUnwanted (option : String)
  /-- The value of an option is no integer. -/
  | notInteger (option value : String)
  /-- A path contains the character that no path may contain. -/
  | notPath (name : String)
  | argumentMissing (name : String)
  | tooManyArguments (first : String)
  deriving Repr, DecidableEq

/-- The wording of a misuse. -/
def Misuse.message : Misuse → String
  | noCommand => "Missing command."
  | unknownCommand name => "No such command '" ++ name ++ "'."
  | unknownOption name => "No such option: " ++ name
  | valueMissing option => "Option '" ++ option ++ "' requires an argument."
  | valueUnwanted option => "Option '" ++ option ++ "' does not take a value."
  | notInteger option value =>
    "Invalid value for '" ++ option ++ "': '" ++ value ++ "' is not a valid integer."
  | notPath name => "Invalid value for '" ++ name ++ "': embedded null byte"
  | argumentMissing name => "Missing argument '" ++ name ++ "'."
  | tooManyArguments first => "Got unexpected extra argument (" ++ first ++ ")"

end Likeness
