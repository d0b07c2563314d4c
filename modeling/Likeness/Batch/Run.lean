import Likeness.Batch.Artefacts

/-!
# Running a batch

All pairs are scored before anything is written: a pair that cannot be read or
scored leaves the store as it was.
-/

namespace Likeness.Batch

variable {K : Type} [Scalar K]

/-- The pairs that values describe, numbered from a place on; the file they come
    from is named when one is refused. -/
def readPairs (path : String) : Nat → List Value → Except Fault (List Pair)
  | _, [] => .ok []
  | place, v :: vs => do
    let p ← (Pair.read v).mapError fun
      | .invalid complaints => .invalidPair place path complaints
      | e => e
    let ps ← readPairs path (place + 1) vs
    .ok (p.numbered place :: ps)

/-- The pairs of a file. -/
def loadPairs (p : Path) : Work (List Pair) := do
  if ← Work.holds p then
    let values ← Artefacts.readRecords p
    Work.ofExcept (readPairs p.text 1 values)
  else throw (.pairsMissing p.text)

/-- The records of pairs from a place on; each is reported. -/
def scoreFrom (r : Runner K) : Nat → List Pair → Work (List (Record K))
  | _, [] => pure []
  | place, p :: ps => do
    let record ← Work.ofExcept (r.record place p)
    Work.report .debug record.progress
    let records ← scoreFrom r (place + 1) ps
    pure (record :: records)

/-- Scores pairs, and writes the files of the run if it has a folder. -/
def runPairs (r : Runner Float) (pairs : List Pair) (folder : Option Path) :
    Work (List (Record Float)) := do
  let records ← scoreFrom r 1 pairs
  Work.report .info
    ("Scored " ++ Decimal.intText records.length ++ " pairs with " ++ r.metric.describe)
  match folder with
  | some folder => Artefacts.persist records folder r.name
  | none => pure ()
  pure records

/-- Scores the pairs of a file, up to a limit. -/
def runFile (r : Runner Float) (p : Path) (limit : Option Int) (folder : Option Path) :
    Work (List (Record Float)) := do
  let pairs := Ranking.upTo limit (← loadPairs p)
  Work.report .info ("Loaded " ++ Decimal.intText pairs.length ++ " pairs from " ++ p.text)
  runPairs r pairs folder

end Likeness.Batch
