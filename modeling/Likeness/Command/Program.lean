import Likeness.Batch.Run
import Likeness.Command.Request
import Likeness.Command.Scoring
import Likeness.Command.Shown
import Likeness.Settings.File

/-!
# The program

One run of the program: settings are loaded, messages are reported from the level
that is asked for, and a command is carried out.  Some faults are explained in a
line, and the run ends as refused; all others break it off.
-/

namespace Likeness

/-- How a run ends that is not broken off. -/
inductive Ending where
  | done
  /-- It said why it could not do what was asked. -/
  | refused
  /-- It was asked how it is used. -/
  | help
  deriving Repr, DecidableEq

/-- The number with which a run ends. -/
def Ending.exitCode : Ending → Nat
  | done | help => 0
  | refused => 1

/-- Whether a fault is that something has a value that it must not have. -/
def Fault.isBadValue : Fault → Bool
  | .absent _ | .negativeThreshold _ | .negativePrefixLimit _ | .scalingOutOfRange _ _
  | .thresholdRequired | .textsOnly | .evenInitial _ | .evenMultiplier _ | .wideBounds
  | .zeroStep | .sharedDefault _ _ | .unknownMetric _ _ | .namelessMetric | .unknownLevel _
  | .tooManyDigits _ | .invalid _ | .invalidSettings _ _ | .invalidPair _ _ _ | .notJson _ _
  | .lineNotJson _ _ _ | .notUtf8 _ | .notEncodable _ _ _ | .noSuchTime _ | .notInteger _ _
  | .notNumber _ | .noSuchCharacter | .nanToInteger | .nulInPath => true
  | _ => false

/-- Whether a fault is that a file is missing. -/
def Fault.isMissingFile : Fault → Bool
  | .settingsMissing _ | .pairsMissing _ | .traceMissing _ | .noSuchFile => true
  | _ => false

namespace Program

/-- Says why the run ends. -/
def refuse (message : String) : Work Ending := do
  Work.printLine (Shown.complaint message)
  pure .refused

/-- Goes on with the result of work.  Faults of some causes end the run, with their
    wording. -/
def explaining {α : Type} (causes : Fault → Bool) (w : Work α) (next : α → Work Ending) :
    Work Ending := do
  let result ← tryCatch (w.map Except.ok) fun (e : Fault) =>
    if causes e then pure (.error e) else throw e
  match result with
  | .ok a => next a
  | .error (e : Fault) => refuse e.message

/-- Scores two texts. -/
def distance (s : Settings) (left right : String) (metric : Option String)
    (threshold : Option Int) : Work Ending :=
  explaining Fault.isBadValue
    (Work.ofExcept (Scoring.ofTexts Registry.builtin s metric threshold left right))
    fun score => do
      Work.printLine (Shown.distance (Scoring.threshold? s threshold) score)
      pure .done

/-- Lists the metrics. -/
def metrics : Work Ending := do
  Work.printGrid (Shown.metrics (Registry.builtin (K := Float)))
  pure .done

/-- The folder for a run that was given none. -/
def defaultFolder (now : Instant) (metric : String) : Path :=
  ((Path.ofString "runs").child (now.stamp ++ "_" ++ metric))

/-- Scores the pairs of a file, and writes the files of the run. -/
def batch (s : Settings) (pairs : Path) (metric : Option String) (threshold limit : Option Int)
    (folder : Option Path) : Work Ending := do
  if !(← Work.holds pairs) then refuse ("Pairs file not found: " ++ pairs.text)
  else
    explaining Fault.isBadValue
      (do
        let runner ← Work.ofExcept (Scoring.runner Registry.builtin s metric threshold)
        let folder := folder.getD (defaultFolder (← get).now runner.name)
        let limit := limit.orElse fun _ => s.limit.map Int.ofNat
        let records ← Batch.runFile runner pairs limit (some folder)
        pure (records, folder))
      fun (records, folder) => do
        Work.printGrid (Shown.records records)
        Work.printLine (Shown.artefacts folder)
        pure .done

/-- Summarises the trace of a run. -/
def report (folder : Path) : Work Ending := do
  if !(← Work.holds folder) then refuse ("Run path not found: " ++ folder.text)
  else
    explaining (fun e => e.isBadValue || e.isMissingFile)
      (do
        let records ← Artefacts.loadTrace folder
        Work.ofExcept (Summary.ofRecords records))
      fun summary => do
        Work.printGrid (Shown.summary summary)
        pure .done

/-- Scores items against each other. -/
def matrix (s : Settings) (items : List String) (metric : Option String) : Work Ending :=
  explaining Fault.isBadValue
    (Work.ofExcept (Scoring.ofItems Registry.builtin s metric items))
    fun scores => do
      Work.printGrid (Shown.matrix (Scoring.chosen s metric s.threshold?) items scores)
      pure .done

/-- Does what is asked for. -/
def answer (s : Settings) : Request → Work Ending
  | .distance left right metric threshold => distance s left right metric threshold
  | .metrics => metrics
  | .batch pairs metric threshold limit folder => batch s pairs metric threshold limit folder
  | .report folder => report folder
  | .matrix items metric => matrix s items metric
  | .help => pure .help

/-- The level from which messages are reported; an empty one counts as none. -/
def levelName (s : Settings) (asked : Option String) : String :=
  match asked with
  | some level => if level = "" then s.logLevel else level
  | none => s.logLevel

/-- Carries out a command. -/
def command (p : Preamble) : Work Ending :=
  explaining (fun e => e.isBadValue || e.isMissingFile)
    (Settings.load Float p.settings Settings.defaultFile)
    fun s => do
      Work.reportFrom (levelName s p.logLevel)
      let request ← Work.ofExcept ((Request.read p.command p.rest).mapError .misused)
      answer s request

/-- One run of the program. -/
def run (args : List String) : Work Ending := do
  match ← Work.ofExcept ((Preamble.read args).mapError .misused) with
  | some p => command p
  | none => pure .help

end Program

end Likeness
