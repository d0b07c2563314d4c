import Likeness.Command.Scoring
import Likeness.Proofs.Batch.Threshold
import Likeness.Proofs.Match.Subsequence
import Likeness.Proofs.Metric.Registry
import Likeness.Proofs.Scalar.Double

/-! # Three commands and one score

    Two texts can be scored on their own, as a pair of a file and as two items
    of a matrix.  Each command chooses its metric from the settings anew, and
    the metrics that can be chosen either score all texts or refuse all of them
    for one reason (`Metric.Decided`).

    The main result is `Scoring.scores_agree`: the first two commands give the
    same score, or fail for the same reason, under all settings; a matrix gives
    that of the texts as they are, so it agrees with them unless case is folded
    (`Scoring.matrix_keeps_case`). -/

namespace Likeness

/-! ## The boost in doubles -/

namespace Match.Boost

variable {p : Boost Float} {z : Float} {n : Nat}

/-- The reach of a boost whose limit is a natural is an integer, at most as large as the
    number of shared items. -/
theorem reach_whole (hn : p.prefixLimit.value = .whole n) (shared : Nat) :
    ∃ k : Nat, p.reach shared = .whole k ∧ k ≤ shared := by
  unfold Boost.reach
  rw [hn, Score.below_whole]
  split_ifs with h
  · have hlt : (n : Int) < shared := of_decide_eq_true h
    exact ⟨n, rfl, by omega⟩
  · exact ⟨shared, rfl, Nat.le_refl _⟩

/-- With a scaling that is a double, the boost for a prefix is found. -/
theorem exists_raise (hz : p.scaling.value = .real z) (hn : p.prefixLimit.value = .whole n)
    (base : Float) {shared : Nat} (hshared : shared ≤ Edit.unreachable) :
    ∃ x, p.raise base shared = .ok x := by
  obtain ⟨k, hreach, hk⟩ := reach_whole hn shared
  have hsmall : (k : Int).natAbs < twoTo 200 := by
    have hbound : Edit.unreachable < twoTo 200 := by decide
    rw [Int.natAbs_natCast]
    omega
  obtain ⟨w, hw⟩ := Scalar.ofInt?_double hsmall
  refine ⟨base + w * z * (Scalar.ofNat 1 - base), ?_⟩
  rw [Boost.raise, hreach, hz, times?, hw]
  rfl

end Match.Boost

/-! ## Metrics that settings can choose -/

/-- A metric that scores all texts so that a matrix can hold the score, or that refuses
    all texts for one reason. -/
inductive Metric.Decided (m : Metric Float) : Prop where
  | scores (h : ∀ x y : String, x.toList.length ≤ Edit.unreachable →
      y.toList.length ≤ Edit.unreachable →
      ∃ score c, m.score (.text x) (.text y) = .ok score ∧
        Matrix.held m.higherIsBetter score = .ok c ∧ Matrix.Holds c score)
  | refuses (e : Fault) (h : ∀ x y : String, m.score (.text x) (.text y) = .error e)

namespace Metric.Decided

theorem levenshtein : (Metric.levenshtein : Metric Float).Decided := by
  refine .scores fun x y hx hy => ?_
  have hsize : (textDistance x y : Int).natAbs ≤ Edit.unreachable := textDistance_le hx hy
  exact ⟨_, _, levenshtein_texts x y, Matrix.held_whole hsize, Or.inl rfl⟩

theorem bounded {p : Parameter Float} {n : Nat} (hp : p.value = .whole n) :
    (Metric.boundedLevenshtein p : Metric Float).Decided := by
  refine .scores fun x y hx hy => ?_
  have hsize := natAbs_within_le (textDistance_le hx hy) (textDistance x y ≤ n)
  exact ⟨_, _, boundedLevenshtein_texts hx hy hp, Matrix.held_whole hsize, Or.inl rfl⟩

theorem jaro : (Metric.jaro : Metric Float).Decided :=
  .scores fun x y _ _ => ⟨_, _, jaro_texts x y, rfl, Or.inl rfl⟩

/-- A query score is a number of characters that a double can hold. -/
theorem fuzzy : (Metric.fuzzy : Metric Float).Decided := by
  refine .scores fun x y _ hy => ?_
  have hle := Match.subsequenceScore_le x.toList y.toList
  have hsmall : ((Match.subsequenceScore x.toList y.toList : Nat) : Int).natAbs < twoTo 200 := by
    have hbound : 9 * Edit.unreachable < twoTo 200 := by decide
    rw [Int.natAbs_natCast]
    omega
  obtain ⟨z, hz⟩ := Scalar.ofInt?_double hsmall
  refine ⟨_, .real z, fuzzy_texts x y, ?_, Or.inr ⟨_, z, rfl, hz, rfl⟩⟩
  show (Scalar.ofInt? _).elim _ _ = _
  rw [hz]
  rfl

theorem winkler {p : Match.Boost Float} {z : Float} {n : Nat} (hz : p.scaling.value = .real z)
    (hn : p.prefixLimit.value = .whole n) : (Metric.jaroWinkler p).Decided := by
  cases hcheck : p.check with
  | error e => exact .refuses e (jaroWinkler_refused hcheck)
  | ok =>
      refine .scores fun x y hx _ => ?_
      obtain ⟨w, hw⟩ := Match.Boost.exists_raise hz hn (textJaro x y)
        (Nat.le_trans (sharedLength_le (fun c d => c == d) x.toList y.toList) hx)
      refine ⟨.real w, .real w, ?_, rfl, Or.inl rfl⟩
      rw [jaroWinkler_texts hcheck, hw]
      rfl

end Metric.Decided

/-! ## The metric that a command chooses -/

namespace Scoring

variable {K : Type} [Scalar K]

/-- Whatever settings choose is decided. -/
theorem metric_decided {s : Settings} {asked : Option String} {threshold : Option Nat}
    {m : Metric Float}
    (hm : metric Registry.builtin s asked (threshold.map Int.ofNat) = .ok m) : m.Decided := by
  obtain ⟨kind, hkind, hmake⟩ := Registry.make_eq_ok hm
  generalize chosen s asked (threshold.map Int.ofNat) = name at hkind hmake
  obtain ⟨rfl, rfl⟩ | ⟨rfl, rfl⟩ | ⟨rfl, rfl⟩ | ⟨rfl, rfl⟩ | ⟨rfl, rfl⟩ :=
    Registry.find?_builtin hkind
  · cases hmake
    exact .levenshtein
  · cases threshold with
    | none => exact nomatch hmake
    | some t =>
        cases (Registry.make_bounded t).symm.trans hmake
        exact .bounded rfl
  · cases hmake
    exact .jaro
  · cases hmake
    exact .winkler rfl rfl
  · cases hmake
    exact .fuzzy

/-! ## The matrix of two texts -/

/-- The matrix of two items is found when all four cells are, and the first of its rows
    is that of the first item. -/
theorem pairwise_two {m : Metric K} {x y : Value} {c₀₀ c₀₁ c₁₀ c₁₁ : Score K}
    (h₀₀ : Matrix.cell m x x = .ok c₀₀) (h₀₁ : Matrix.cell m x y = .ok c₀₁)
    (h₁₀ : Matrix.cell m y x = .ok c₁₀) (h₁₁ : Matrix.cell m y y = .ok c₁₁) :
    ∃ rest, Matrix.pairwise m [x, y] = .ok ([c₀₀, c₀₁] :: rest) := by
  have hfirst := mapM_two h₀₀ h₀₁
  have hsecond := mapM_two h₁₀ h₁₁
  rw [Matrix.pairwise]
  split_ifs
  · have hlast := mapM_cons_ok [] h₁₁
    refine ⟨[[c₀₁, c₁₁]], ?_⟩
    rw [Matrix.upperRows, hfirst, Matrix.upperRows, hlast]
    rfl
  · exact ⟨[[c₁₀, c₁₁]], mapM_two (f := fun a => [x, y].mapM (Matrix.cell m a)) hfirst hsecond⟩

/-- The matrix of two items is refused when its first cell is. -/
theorem pairwise_two_error {m : Metric K} {x y : Value} {e : Fault}
    (h : Matrix.cell m x x = .error e) : Matrix.pairwise m [x, y] = .error e := by
  have hfirst := mapM_cons_error [y] h
  rw [Matrix.pairwise]
  split_ifs
  · rw [Matrix.upperRows, hfirst]
    rfl
  · exact mapM_cons_error [y] hfirst

/-- A matrix of two items holds a score, or is refused as the score is. -/
def Agrees (matrix : Except Fault (List (List (Score K)))) : Except Fault (Score K) → Prop
  | .error e => matrix = .error e
  | .ok score => ∃ rows row c, matrix = .ok rows ∧ rows[0]? = some row ∧ row[1]? = some c ∧
      Matrix.Holds c score

/-- The matrix of two texts by a metric that settings can choose agrees with their
    score. -/
theorem pairwise_agrees {m : Metric Float} (hm : m.Decided) {x y : String}
    (hx : x.toList.length ≤ Edit.unreachable) (hy : y.toList.length ≤ Edit.unreachable) :
    Agrees (Matrix.pairwise m ([x, y].map .text)) (m.score (.text x) (.text y)) := by
  cases hm with
  | refuses e hrefuses =>
      rw [hrefuses x y]
      refine pairwise_two_error ?_
      rw [Matrix.cell, hrefuses x x]
      rfl
  | scores hscores =>
      have hcell : ∀ u v : String, u.toList.length ≤ Edit.unreachable →
          v.toList.length ≤ Edit.unreachable → ∃ score c,
            m.score (.text u) (.text v) = .ok score ∧
            Matrix.cell m (.text u) (.text v) = .ok c ∧ Matrix.Holds c score := by
        intro u v hu hv
        obtain ⟨score, c, hscore, hheld, hholds⟩ := hscores u v hu hv
        refine ⟨score, c, hscore, ?_, hholds⟩
        rw [Matrix.cell, hscore]
        exact hheld
      -- The matrix scores all four pairs of the two texts, and all four have a score.
      obtain ⟨_, _, -, h₀₀, -⟩ := hcell x x hx hx
      obtain ⟨score, c, hscore, h₀₁, hholds⟩ := hcell x y hx hy
      obtain ⟨_, _, -, h₁₀, -⟩ := hcell y x hy hx
      obtain ⟨_, _, -, h₁₁, -⟩ := hcell y y hy hy
      obtain ⟨rest, hrows⟩ := pairwise_two h₀₀ h₀₁ h₁₀ h₁₁
      rw [hscore]
      exact ⟨_, _, c, hrows, rfl, rfl, hholds⟩

/-! ## The three commands -/

omit [Scalar K] in
/-- A batch scores by the metric that a command chooses, with case folded if the settings
    say so. -/
theorem runner_eq (registry : Registry K) (s : Settings) (asked : Option String)
    (bound : Option Int) :
    ∃ name bounded, runner registry s asked bound
      = (metric registry s asked (threshold? s bound)).map fun m =>
          ⟨name, m, s.casefold, bounded⟩ := by
  have hbounded : (s.optionsWith (threshold? s bound)).isBounded
      = (threshold? s bound).isSome := by
    cases threshold? s bound with
    | none => rfl
    | some t => rfl
  refine ⟨chosen s asked (threshold? s bound), (threshold? s bound).isSome &&
    chosen s asked (threshold? s bound) = "levenshtein_bounded", ?_⟩
  rw [runner, Runner.make, hbounded, metric, chosen]
  cases registry.make _ _ with
  | error e => rfl
  | ok m => rfl

/-- What a batch records of a pair is the score of its texts. -/
theorem record_score (registry : Registry K) (s : Settings) (asked : Option String)
    (bound : Option Int) (place : Nat) (p : Pair) :
    ((runner registry s asked bound).bind fun r => (r.record place p).map (·.score))
      = ofTexts registry s asked bound p.left p.right := by
  obtain ⟨name, bounded, hrunner⟩ := runner_eq registry s asked bound
  rw [hrunner, ofTexts]
  cases metric registry s asked (threshold? s bound) with
  | error e => rfl
  | ok m =>
      show ((m.score _ _).map _).map _ = m.score _ _
      cases m.score _ _ with
      | error e => rfl
      | ok score => rfl

/-- **THE COMMANDS AGREE ON A SCORE**: under all settings, the score of two texts is what
    a batch records of them as a pair, and the matrix of the two holds the score that
    they have when case is not folded; where there is no score, there is one reason for
    all of them.  Neither text is longer than the largest size there is, which marks
    unreached cells. -/
theorem scores_agree (s : Settings) (asked : Option String) (place : Nat) (p : Pair)
    (hleft : p.left.toList.length ≤ Edit.unreachable)
    (hright : p.right.toList.length ≤ Edit.unreachable) :
    ((runner (K := Float) Registry.builtin s asked none).bind fun r =>
        (r.record place p).map (·.score))
      = ofTexts Registry.builtin s asked none p.left p.right ∧
    Agrees (ofItems (K := Float) Registry.builtin s asked [p.left, p.right])
      (ofTexts Registry.builtin { s with casefold := false } asked none p.left p.right) := by
  refine ⟨record_score Registry.builtin s asked none place p, ?_⟩
  show Agrees (metric Registry.builtin s asked s.threshold? >>= fun m => _)
    (metric Registry.builtin s asked s.threshold? >>= fun m => _)
  cases hm : metric (K := Float) Registry.builtin s asked s.threshold? with
  | error e => rfl
  | ok m => exact pairwise_agrees (metric_decided hm) hleft hright

/-- Two letters that only differ in case, with case folded and a bound on the distance. -/
theorem scores_agree_folded :
    ("A".toList.length ≤ Edit.unreachable ∧ "a".toList.length ≤ Edit.unreachable) ∧
    ((runner (K := Float) Registry.builtin { casefold := true, threshold := some 3 } none none).bind
        fun r => (r.record 1 ⟨none, "A", "a"⟩).map (·.score)) = .ok (.whole 0) ∧
    ∃ rows row c,
      ofItems (K := Float) Registry.builtin { casefold := true, threshold := some 3 } none ["A", "a"]
        = .ok rows ∧ rows[0]? = some row ∧ row[1]? = some c ∧ Matrix.Holds c (.whole 1) := by
  have hleft : "A".toList.length ≤ Edit.unreachable := by decide
  have hright : "a".toList.length ≤ Edit.unreachable := by decide
  obtain ⟨hrecord, hmatrix⟩ :=
    scores_agree { casefold := true, threshold := some 3 } none 1 ⟨none, "A", "a"⟩ hleft hright
  exact ⟨⟨hleft, hright⟩, hrecord, hmatrix⟩

/-- **A MATRIX KEEPS CASE** where settings fold it: two letters that only differ in case
    are one edit apart in the matrix, and none for the other two commands. -/
theorem matrix_keeps_case :
    ∃ s, Settings.read Float (.dict [(.text "casefold", .bool true)]) = .ok s ∧
      ofTexts (K := Float) Registry.builtin s none none "A" "a" = .ok (.whole 0) ∧
      ((runner (K := Float) Registry.builtin s none none).bind fun r =>
        (r.record 1 ⟨none, "A", "a"⟩).map (·.score)) = .ok (.whole 0) ∧
      ofItems (K := Float) Registry.builtin s none ["A", "a"]
        = .ok [[.whole 0, .whole 1], [.whole 1, .whole 0]] := by
  refine ⟨{ casefold := true }, ?_, ?_, ?_, ?_⟩
  · rfl
  · rfl
  · rfl
  · rfl

end Scoring

end Likeness
