import Likeness.Command.Request

/-!
# How the program is used

The text that is shown when help is asked for.
-/

namespace Likeness.Command

/-- What a command does. -/
def purpose : Command → String
  | distance => "Score two texts."
  | metrics => "List the metrics."
  | batch => "Score the pairs of a file and keep the results in a folder."
  | report => "Summarise the results in a folder."
  | matrix => "Score texts against each other."

/-- The arguments of a command. -/
def argumentNames : Command → String
  | distance => " LEFT RIGHT"
  | metrics => ""
  | batch => " PAIRS_PATH"
  | report => " RUN_PATH"
  | matrix => " ITEMS..."

/-- How an option is written. -/
def optionText (o : OptionForm) : String :=
  (o.letter.elim "" fun c => String.ofList ['-', c, ',', ' ']) ++ o.name
    ++ (if o.takesValue then " VALUE" else "")

/-- How a command is used. -/
def usage (c : Command) : List String :=
  (c.name ++ c.argumentNames) :: ("  " ++ c.purpose) :: c.options.map fun o => "  " ++ optionText o

/-- How the program is used. -/
def overview : List String :=
  ["Measures how alike texts are.", "Options in front of the command:"]
    ++ ([levelOption, settingsOption, help].map fun o => "  " ++ optionText o)
    ++ all.flatMap usage

end Likeness.Command
