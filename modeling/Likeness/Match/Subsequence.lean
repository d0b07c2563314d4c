import Likeness.Text.Folding

/-!
# Scoring a query as a subsequence

The characters of a query are looked up in a term from left to right.  Each one
found scores a point, and two more when it directly follows the one found before
it.  A character that is not found any more ends the search, for it uses up the
rest of the term.
-/

namespace Likeness.Match

/-- The score of a query in what is left of a term; `adjacent` says that the
    character before was found. -/
def scoreFrom {α : Type} [BEq α] (adjacent : Bool) : (term query : List α) → Nat
  | _, [] => 0
  | [], _ => 0
  | t :: term, q :: query =>
    if t == q then (if adjacent then 3 else 1) + scoreFrom true term query
    else scoreFrom false term (q :: query)

/-- The score of a query in a term, regardless of case. -/
def subsequenceScore (term query : List Char) : Nat :=
  scoreFrom false (Text.fold term) (Text.fold query)

/-- The score of a query in a term by their code points, of which some may be halves of
    characters. -/
def subsequenceScoreOfCodes (term query : List Nat) : Nat :=
  scoreFrom false (Text.foldCodes term) (Text.foldCodes query)

end Likeness.Match
