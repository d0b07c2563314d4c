import Likeness.Batch.Record
import Likeness.Batch.Summary
import Likeness.Json.Document
import Likeness.Json.Writer
import Likeness.Session.Work
import Likeness.Table.Writer

/-!
# Files of a run

A run leaves three files in its folder: the trace, with one record on each line;
the table of scores; and the summary.  A trace can be read again and reported on.
-/

namespace Likeness.Artefacts

open Text (Draft)

/-- A document with a line feed at its end. -/
def documentDraft (layout : Json.Layout) (v : Value) : Draft :=
  Json.write layout v ++ .of ['\n']

/-- One value on each line.  A value that has no form leaves no part of a line. -/
def linesDraft (vs : List Value) : Draft :=
  .concat (vs.map fun v =>
    .ofExcept ((Json.write .inline v).finished.map fun cs => cs ++ ['\n']))

/-- How the parts of a document are set apart. -/
def layout : Json.Layout := .blanks 2

/-- The heading of the table of scores. -/
def heading : Value := .list (["pair_id", "score", "exceeded", "left", "right"].map .text)

/-- How a score is shown in a table: a whole score as it is, another with four
    places. -/
def scoreField : Score Float → Value
  | .whole n => .int n
  | .real x => .text (Decimal.fixedText 4 x)

/-- The row of a record. -/
def row (r : Record Float) : Value :=
  .list [.text r.pairId, scoreField r.score,
    Value.ofOption (fun b => .int (if b then 1 else 0)) r.exceeded, .text r.left, .text r.right]

/-- The trace of a run. -/
def traceDraft (records : List (Record Float)) : Draft := linesDraft (records.map Record.toValue)

/-- The table of scores of a run. -/
def tableDraft (records : List (Record Float)) : Draft :=
  Table.write heading (.list (records.map row))

/-- A mapping with texts as names. -/
def mapping (entries : List (String × Value)) : Value :=
  .dict (entries.map fun e => (.text e.1, e.2))

/-- The summary of a run, with its time and the name of its metric. -/
def summaryValue (s : Summary Float) (now : Instant) (metric : String) : Value :=
  mapping (s.entries ++ [("generated_at", .text now.iso), ("metric", .text metric)])

/-- Writes the files of a run into a folder. -/
def persist (records : List (Record Float)) (folder : Path) (metric : String) : Work Unit := do
  Work.makeFolder folder
  Work.writeDraft (folder.child "trace.jsonl") (traceDraft records)
  Work.writeDraft (folder.child "scores.tsv") (tableDraft records)
  let summary ← Work.ofExcept (Summary.ofRecords (records.map Record.toValue))
  let session ← get
  Work.writeDraft (folder.child "summary.json")
    (documentDraft layout (summaryValue summary session.now metric))
  Work.report .info ("Run artefacts written to " ++ folder.text)

/-- The values on the lines of a file. -/
def readRecords (p : Path) : Work (List Value) :=
  Work.look fun s => do Json.records p.text (← s.store.lines p)

/-- The records of a run. -/
def loadTrace (folder : Path) : Work (List Value) := do
  let trace := folder.child "trace.jsonl"
  if ← Work.holds trace then readRecords trace else throw (.traceMissing trace.text)

/-- Writes a report on a run, with its summary and its records, and says where. -/
def writeReport (folder : Path) (destination : Option Path) : Work Path := do
  let records ← loadTrace folder
  let summary ← Work.ofExcept (Summary.ofRecords records)
  let target := destination.getD (folder.child "report.json")
  Work.writeDraft target (documentDraft layout
    (mapping [("summary", mapping summary.entries), ("records", .list records)]))
  pure target

end Likeness.Artefacts
