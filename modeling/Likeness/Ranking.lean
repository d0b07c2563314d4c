import Likeness.Metric.Basic

/-!
# Rankings

Candidates in the order of their likeness to a query, the best first and equally
good ones in the order in which they came.  Candidates with a negative score are
left out: a bounded distance marks those beyond its threshold so.

The scores are held side by side, and so all in one kind of numbers: where one is a
number of the formulas, the integers among them become such numbers.  Integers of any
size are held here.  The program holds those of 64 bits and has no ranking for larger
ones, which no metric of its own gives for texts that fit into memory.
-/

namespace Likeness.Ranking

variable {K : Type} [Scalar K]

/-- One score is at least as good as another. -/
def atLeastAsGood (higherIsBetter : Bool) (s t : Score K) : Bool :=
  if higherIsBetter then t.atMost s else s.atMost t

/-- The front of a list up to a limit, a negative one counting as zero. -/
def upTo {α : Type} (limit : Option Int) (xs : List α) : List α :=
  match limit with
  | none => xs
  | some n => xs.take n.toNat

/-- The limit that a value sets.  A number below zero counts as zero even if it is no
    integer. -/
def limitOf : Value → Except Fault (Option Int)
  | .null => .ok none
  | v =>
    match v.number? with
    | some (.whole n) => .ok (some n)
    | some (.real x) => if x < 0 then .ok (some 0) else .error .wrongKind
    | none => .error .wrongKind

/-- The candidates with their scores. -/
def scored (m : Metric K) (query : Value) (candidates : List Value) :
    Except Fault (List (Value × Score K)) :=
  candidates.mapM fun c => (m.score c query).map (c, ·)

/-- Scores in one kind of numbers: integers, unless one of them is a number of the
    formulas. -/
def alike (cs : List (Value × Score K)) : Except Fault (List (Value × Score K)) :=
  if cs.all fun c => c.2.isWhole then .ok cs
  else cs.mapM fun c => (Match.toScalar? c.2).map fun x => (c.1, .real x)

/-- The candidates in order, with their scores. -/
def rank (m : Metric K) (query : Value) (candidates : List Value) (limit : Option Int) :
    Except Fault (List (Value × Score K)) :=
  ((scored m query candidates).bind alike).map fun cs =>
    upTo limit
      ((cs.filter fun c => c.2.isRanked).mergeSort fun c d =>
        atLeastAsGood m.higherIsBetter c.2 d.2)

end Likeness.Ranking
