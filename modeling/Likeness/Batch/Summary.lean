import Likeness.Statistics.Mean
import Likeness.Statistics.Order
import Likeness.Value.Equality

/-!
# Summaries

A summary of trace records.  Only scores that are within the bound enter its
statistics; those that exceed it are counted.  The least, the greatest and an
unpaired middle score are reported as they were found.
-/

namespace Likeness

/-- The statistics of a list of trace records; there is none over nothing. -/
structure Summary (K : Type) where
  pairs : Nat
  scored : Nat
  mean : Option (Score K)
  /-- A score that was found, or the midpoint of two. -/
  median : Option (Value ⊕ Score K)
  least : Option Value
  greatest : Option Value
  /-- The part of the records that exceed their bound, if there is a bound. -/
  exceededRate : Option K

namespace Summary

variable {K : Type} [Scalar K]

/-- A field of a trace record; one that is missing holds nothing. -/
def recordField (name : String) : Value → Except Fault Value
  | .dict entries => .ok ((Value.field? name entries).getD .null)
  | _ => .error .noSuchField

/-- The score of a record, unless it has none or exceeds its bound. -/
def scoreOf? (record exceeded : Value) : Option Value :=
  match recordField "score" record with
  | .ok .null | .error _ => none
  | .ok score => if exceeded.holds then none else some score

/-- The number that a score is. -/
def number (v : Value) : Except Fault (Score K) :=
  (v.number?).elim (.error .wrongKind) fun s => .ok (Score.ofFloat s)

/-- One score is below another. -/
def below (v w : Value × Score K) : Bool := v.2.below w.2

/-- The median, as it was found or as the midpoint of two. -/
def medianOf (scores : List (Value × Score K)) : Except Fault (Option (Value ⊕ Score K)) :=
  match Statistics.middle? below scores with
  | none => .ok none
  | some (.one x) => .ok (some (.inl x.1))
  | some (.two x y) => (Statistics.midpoint x.2 y.2).map fun m => some (.inr m)

/-- The part that a count is of a whole, as a number. -/
def part (count whole : Nat) : Except Fault K :=
  (Scalar.nearest? (K := K) count whole).elim (.error .outOfRange) .ok

/-- The summary of trace records. -/
def ofRecords (records : List Value) : Except Fault (Summary K) := do
  let flags ← records.mapM (recordField "exceeded")
  let found := (records.zip flags).filterMap fun r => scoreOf? r.1 r.2
  let scores ← found.mapM fun v => (number (K := K) v).map fun s => (v, s)
  let mean ← if scores.isEmpty then .ok none
    else (Statistics.mean (scores.map (·.2))).map some
  let median ← medianOf scores
  let rate ← if flags.all Value.isNull then .ok none
    else (part (flags.countP Value.holds) records.length).map some
  .ok {
    pairs := records.length
    scored := scores.length
    mean := mean
    median := median
    least := (Statistics.least? below scores).map (·.1)
    greatest := (Statistics.greatest? below scores).map (·.1)
    exceededRate := rate }

/-- The summary of a value that should hold trace records; nothing, and what is
    empty, holds none. -/
def ofValue (v : Value) : Except Fault (Summary K) :=
  if !v.holds then ofRecords []
  else
    match v.elements? with
    | some records => ofRecords records
    | none => .error .wrongKind

/-- The entries of a summary, in the order in which they are reported. -/
def entries (s : Summary Float) : List (String × Value) := [
  ("num_pairs", .int s.pairs),
  ("num_scored", .int s.scored),
  ("mean_score", Value.ofOption Value.ofScore s.mean),
  ("median_score", Value.ofOption (Sum.elim id Value.ofScore) s.median),
  ("min_score", s.least.getD .null),
  ("max_score", s.greatest.getD .null),
  ("exceeded_rate", Value.ofOption .real s.exceededRate)]

end Summary

end Likeness
