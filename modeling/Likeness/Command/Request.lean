import Likeness.Command.Arguments
import Likeness.Store.Path

/-!
# Requests

What a command line asks for.  It is read in two steps, because the settings come
in between: first what stands in front of the command, then the command's own
options and arguments.
-/

namespace Likeness

/-- The commands. -/
inductive Command where
  | distance
  | metrics
  | batch
  | report
  | matrix
  deriving Repr, DecidableEq

namespace Command

/-- The name of a command. -/
def name : Command → String
  | distance => "distance"
  | metrics => "metrics"
  | batch => "batch"
  | report => "report"
  | matrix => "matrix"

/-- All commands. -/
def all : List Command := [distance, metrics, batch, report, matrix]

/-- The command of a name. -/
def ofName? (name : String) : Option Command := all.find? fun c => c.name = name

/-- The option that asks how a command is used. -/
def help : OptionForm := ⟨"--help", none, false⟩

/-- The metric to use. -/
def metricOption : OptionForm := ⟨"--metric", some 'm', true⟩

/-- The bound of the edit distance. -/
def thresholdOption : OptionForm := ⟨"--threshold", some 't', true⟩

/-- How many pairs to score at most. -/
def limitOption : OptionForm := ⟨"--limit", some 'l', true⟩

/-- The folder for the files of a run. -/
def folderOption : OptionForm := ⟨"--run-path", none, true⟩

/-- The level of messages, in front of the command. -/
def levelOption : OptionForm := ⟨"--log-level", none, true⟩

/-- The file of settings, in front of the command. -/
def settingsOption : OptionForm := ⟨"--settings", none, true⟩

/-- The options of a command. -/
def options : Command → List OptionForm
  | distance => [metricOption, thresholdOption, help]
  | metrics => [help]
  | batch => [metricOption, thresholdOption, limitOption, folderOption, help]
  | report => [help]
  | matrix => [metricOption, help]

end Command

/-- What stands in front of the options of a command. -/
structure Preamble where
  logLevel : Option String
  settings : Option Path
  command : Command
  /-- The options and arguments of the command. -/
  rest : List String
  deriving Repr, DecidableEq

/-- What stands in front of the command, and the rest. -/
structure Heading where
  logLevel : Option String
  settings : Option Path
  rest : List String

/-- The options in front of a command; there are none when only help is asked for. -/
def Heading.read (args : List String) : Except Misuse (Option Heading) := do
  let a ← Arguments.read [Command.levelOption, Command.settingsOption, Command.help] false args
  if a.has Command.help.name then .ok none
  else
    let settings ← a.pathOf Command.settingsOption.name
    .ok (some ⟨a.value? Command.levelOption.name, settings, a.plain⟩)

/-- A command line read up to its command; there is none when only help is asked
    for.  What is no command is read once more as options, which matters when it
    stands behind the end of the options. -/
def Preamble.read (args : List String) : Except Misuse (Option Preamble) := do
  match ← Heading.read args with
  | none => .ok none
  | some ⟨_, _, []⟩ => .error .noCommand
  | some ⟨logLevel, settings, name :: rest⟩ =>
    match Command.ofName? name with
    | some command => .ok (some ⟨logLevel, settings, command, rest⟩)
    | none => do
      match ← Heading.read (name :: rest) with
      | none => .ok none
      | some _ => .error (.unknownCommand name)

/-- What a command is asked to do. -/
inductive Request where
  | distance (left right : String) (metric : Option String) (threshold : Option Int)
  | metrics
  | batch (pairs : Path) (metric : Option String) (threshold limit : Option Int)
      (folder : Option Path)
  | report (folder : Path)
  | matrix (items : List String) (metric : Option String)
  /-- How the command is used. -/
  | help
  deriving Repr, DecidableEq

namespace Request

/-- The one path that is expected. -/
def onePath (name : String) : List String → Except Misuse Path
  | [] => .error (.argumentMissing name)
  | a :: rest => do
    let p ← Arguments.path name a
    match rest with
    | [] => .ok p
    | extra :: _ => .error (.tooManyArguments extra)

/-- The two arguments that are expected. -/
def two (first second : String) : List String → Except Misuse (String × String)
  | [] => .error (.argumentMissing first)
  | [_] => .error (.argumentMissing second)
  | [a, b] => .ok (a, b)
  | _ :: _ :: extra :: _ => .error (.tooManyArguments extra)

/-- The arguments, of which there has to be one. -/
def atLeastOne (name : String) : List String → Except Misuse (List String)
  | [] => .error (.argumentMissing name)
  | as => .ok as

/-- What a command with some options and arguments is asked to do. -/
def ofArguments (command : Command) (a : Arguments) : Except Misuse Request := do
  a.checkValues [Command.thresholdOption.name, Command.limitOption.name]
    [Command.folderOption.name]
  let metric := a.value? Command.metricOption.name
  let threshold ← a.integerOf Command.thresholdOption.name
  let limit ← a.integerOf Command.limitOption.name
  let folder ← a.pathOf Command.folderOption.name
  match command with
  | .distance =>
    let (left, right) ← two "LEFT" "RIGHT" a.plain
    .ok (.distance left right metric threshold)
  | .metrics => do
    a.expectNone
    .ok .metrics
  | .batch => do
    .ok (.batch (← onePath "PAIRS_PATH" a.plain) metric threshold limit folder)
  | .report => do
    .ok (.report (← onePath "RUN_PATH" a.plain))
  | .matrix => do
    let items ← atLeastOne "ITEMS..." a.plain
    .ok (.matrix items metric)

/-- What a command is asked to do by its part of the command line. -/
def read (command : Command) (args : List String) : Except Misuse Request := do
  let a ← Arguments.read command.options true args
  if a.has Command.help.name then .ok .help else ofArguments command a

end Request

end Likeness
