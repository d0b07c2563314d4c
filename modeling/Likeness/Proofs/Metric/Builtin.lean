import Likeness.Metric.Basic
import Likeness.Proofs.Match.Similarity
import Likeness.Proofs.Metric.Distance
import Likeness.Proofs.Prefix

/-! # The built-in metrics on texts

    What each built-in metric computes of two texts, in closed form.  From these
    forms follow the two facts that a matrix of scores relies on: a metric that
    calls itself symmetric is (`Metric.Builtin.score_comm`), and a score is
    always found (`Metric.Builtin.score_total`). -/

namespace Likeness

variable {K : Type}

/-! ## Distances and the query score of two texts -/

/-- The edit distance of two texts. -/
def textDistance (s t : String) : Nat :=
  Edit.distance (fun c d => c == d) s.toList t.toList

theorem levenshtein_texts (s t : String) :
    (Metric.levenshtein : Metric K).score (.text s) (.text t)
      = .ok (.whole (textDistance s t)) := by
  show (editDistance (.text s) (.text t) none).map Score.whole = _
  rw [(Value.seenAs_texts s t).editDistance_none]
  rfl

theorem boundedLevenshtein_texts {s t : String} (hs : s.toList.length ≤ Edit.unreachable)
    (ht : t.toList.length ≤ Edit.unreachable) {p : Parameter Float} {n : Nat}
    (hp : p.value = .whole n) :
    (Metric.boundedLevenshtein p : Metric K).score (.text s) (.text t)
      = .ok (.whole (if textDistance s t ≤ n then (textDistance s t : Int) else -1)) := by
  show (editDistance (.text s) (.text t) (some p)).map Score.whole = _
  rw [(Value.seenAs_texts s t).editDistance_some hs ht hp]
  rfl

theorem fuzzy_texts (s t : String) :
    (Metric.fuzzy : Metric K).score (.text s) (.text t)
      = .ok (.whole (Match.subsequenceScore s.toList t.toList)) :=
  rfl

variable [Scalar K]

/-! ## Similarities of two texts -/

/-- The Jaro similarity of two texts. -/
def textJaro (s t : String) : K :=
  Match.jaro (fun c d => c == d) s.toList t.toList

theorem jaroSimilarity_texts (s t : String) :
    (jaroSimilarity (.text s) (.text t) : Except Fault K) = .ok (textJaro s t) :=
  (Value.seenAs_texts s t).jaroSimilarity

theorem jaro_texts (s t : String) :
    (Metric.jaro : Metric K).score (.text s) (.text t) = .ok (.real (textJaro s t)) := by
  show (jaroSimilarity (.text s) (.text t) : Except Fault K).map Score.real = _
  rw [jaroSimilarity_texts]
  rfl

theorem jaroWinkler_texts {p : Match.Boost K} (hp : p.check = .ok ()) (s t : String) :
    (Metric.jaroWinkler p).score (.text s) (.text t)
      = (p.raise (textJaro s t)
          (sharedLength (fun c d => c == d) s.toList t.toList)).map Score.real := by
  show (winklerSimilarity p (.text s) (.text t)).map Score.real = _
  rw [winklerSimilarity, hp, jaroSimilarity_texts]
  rfl

/-- The boost is checked before it is known what is compared, so parameters that are refused
    are refused for all texts. -/
theorem jaroWinkler_refused {p : Match.Boost K} {e : Fault} (hp : p.check = .error e)
    (s t : String) : (Metric.jaroWinkler p : Metric K).score (.text s) (.text t) = .error e := by
  show (winklerSimilarity p (.text s) (.text t)).map Score.real = _
  rw [winklerSimilarity, hp]
  rfl

section Range

variable [Scalar.Rounds K] {s t : String}

theorem length_lt_two_pow (hs : s.toList.length ≤ Edit.unreachable) : s.toList.length < 2 ^ 64 :=
  lt_of_le_of_lt hs (by decide)

theorem sharedLength_lt (hs : s.toList.length ≤ Edit.unreachable) (t : String) :
    sharedLength (fun c d => c == d) s.toList t.toList < 2 ^ 64 :=
  lt_of_le_of_lt (sharedLength_le _ s.toList t.toList) (length_lt_two_pow hs)

theorem textJaro_within (hs : s.toList.length ≤ Edit.unreachable)
    (ht : t.toList.length ≤ Edit.unreachable) : Scalar.Within (textJaro s t : K) 1 :=
  Match.jaro_within (fun _ _ _ _ => BEq.comm) (length_lt_two_pow hs) (length_lt_two_pow ht)

theorem textJaro_self (hs : s.toList.length ≤ Edit.unreachable) :
    Scalar.Denotes (textJaro s s : K) 1 :=
  Match.jaro_of_forall₂ (fun _ _ _ _ => BEq.comm)
    (List.forall₂_same.mpr fun c _ => beq_self_eq_true c) (length_lt_two_pow hs)

end Range

/-! ## Symmetry -/

/-- A built-in metric, with parameters that it accepts. -/
inductive Metric.Builtin : Metric K → Prop where
  | levenshtein : Builtin .levenshtein
  | bounded {p : Parameter Float} {n : Nat} (h : p.value = .whole n) :
      Builtin (.boundedLevenshtein p)
  | jaro : Builtin .jaro
  | winkler {p : Match.Boost K} (h : p.check = .ok ()) : Builtin (.jaroWinkler p)
  | fuzzy : Builtin .fuzzy

private theorem beq_symm {s t : List Char} : ∀ c ∈ s, ∀ d ∈ t, (c == d) = (d == c) :=
  fun _ _ _ _ => BEq.comm

/-- **A METRIC THAT CALLS ITSELF SYMMETRIC IS**, in any arithmetic in which sums do not
    depend on the order of their terms. -/
theorem Metric.Builtin.score_comm {m : Metric K} (hm : m.Builtin) (hsymm : m.symmetric = true)
    (hadd : ∀ x y : K, x + y = y + x) {s t : String}
    (hs : s.toList.length ≤ Edit.unreachable) (ht : t.toList.length ≤ Edit.unreachable) :
    m.score (.text s) (.text t) = m.score (.text t) (.text s) := by
  have hdistance : textDistance s t = textDistance t s := Edit.distance_comm beq_symm
  have hjaro : (textJaro s t : K) = textJaro t s := Match.jaro_comm hadd beq_symm
  cases hm with
  | levenshtein => rw [levenshtein_texts, levenshtein_texts, hdistance]
  | bounded hp =>
      rw [boundedLevenshtein_texts hs ht hp, boundedLevenshtein_texts ht hs hp, hdistance]
  | jaro => rw [jaro_texts, jaro_texts, hjaro]
  | winkler hp =>
      rw [jaroWinkler_texts hp, jaroWinkler_texts hp, hjaro, sharedLength_comm beq_symm]
  | fuzzy => exact nomatch hsymm

/-! ## Every score is found -/

/-- Every integer is a number of the formulas. -/
def Scalar.HoldsIntegers (K : Type) [Scalar K] : Prop :=
  ∀ n : Int, ∃ x : K, Scalar.ofInt? n = some x

theorem toScalar?_total (hint : Scalar.HoldsIntegers K) (s : Score K) :
    ∃ x, Match.toScalar? s = .ok x := by
  cases s with
  | whole n =>
      obtain ⟨x, hx⟩ := hint n
      refine ⟨x, ?_⟩
      rw [Match.toScalar?, hx]
      rfl
  | real x => exact ⟨x, rfl⟩

theorem times?_total (hint : Scalar.HoldsIntegers K) (s t : Score K) :
    ∃ u, Match.times? s t = .ok u := by
  cases s with
  | whole m =>
      cases t with
      | whole n => exact ⟨_, rfl⟩
      | real y =>
          obtain ⟨x, hx⟩ := hint m
          refine ⟨.real (x * y), ?_⟩
          rw [Match.times?, hx]
          rfl
  | real x =>
      cases t with
      | whole n =>
          obtain ⟨y, hy⟩ := hint n
          refine ⟨.real (x * y), ?_⟩
          rw [Match.times?, hy]
          rfl
      | real y => exact ⟨_, rfl⟩

theorem raise_total (hint : Scalar.HoldsIntegers K) (p : Match.Boost K) (base : K)
    (shared : Nat) : ∃ x, p.raise base shared = .ok x := by
  obtain ⟨u, hu⟩ := times?_total hint (p.reach shared) p.scaling.value
  obtain ⟨x, hx⟩ := toScalar?_total hint u
  refine ⟨base + x * (Scalar.ofNat 1 - base), ?_⟩
  rw [Match.Boost.raise, hu]
  show (Match.toScalar? u).bind _ = _
  rw [hx]
  rfl

/-- No distance is above the lengths of its texts. -/
theorem textDistance_le {s t : String} (hs : s.toList.length ≤ Edit.unreachable)
    (ht : t.toList.length ≤ Edit.unreachable) : textDistance s t ≤ Edit.unreachable :=
  (Edit.distance_le_max fun _ _ _ _ => BEq.comm).trans (max_le hs ht)

/-- A bounded distance is no larger either, and neither is its mark. -/
theorem natAbs_within_le {distance : Nat} (h : distance ≤ Edit.unreachable) (p : Prop)
    [Decidable p] : (if p then (distance : Int) else -1).natAbs ≤ Edit.unreachable := by
  split_ifs
  · exact h
  · decide

/-- **EVERY SCORE IS FOUND**, and those of a distance are integers of 64 bits. -/
theorem Metric.Builtin.score_total {m : Metric K} (hm : m.Builtin)
    (hint : Scalar.HoldsIntegers K) {s t : String}
    (hs : s.toList.length ≤ Edit.unreachable) (ht : t.toList.length ≤ Edit.unreachable) :
    ∃ score, m.score (.text s) (.text t) = .ok score ∧
      (m.higherIsBetter = false → ∃ n : Int, score = .whole n ∧ n.natAbs ≤ Edit.unreachable) := by
  have hdistance := textDistance_le hs ht
  cases hm with
  | levenshtein => exact ⟨_, levenshtein_texts s t, fun _ => ⟨_, rfl, hdistance⟩⟩
  | bounded hp =>
      exact ⟨_, boundedLevenshtein_texts hs ht hp, fun _ => ⟨_, rfl, natAbs_within_le hdistance _⟩⟩
  | jaro => exact ⟨_, jaro_texts s t, fun h => nomatch h⟩
  | @winkler p hp =>
      obtain ⟨x, hx⟩ := raise_total hint p (textJaro s t)
        (sharedLength (fun c d => c == d) s.toList t.toList)
      refine ⟨.real x, ?_, fun h => nomatch h⟩
      rw [jaroWinkler_texts hp, hx]
      rfl
  | fuzzy => exact ⟨_, fuzzy_texts s t, fun h => nomatch h⟩

end Likeness
