import Likeness.Metric.Registry
import Likeness.Proofs.Batch.Run
import Likeness.Proofs.Matrix
import Likeness.Proofs.Ranking

/-! # What a threshold changes in a batch

    A threshold turns the edit distance into the bounded one.  Rankings,
    matrices and runs treat the mark of a distance beyond the bound in three
    ways: a ranking drops it, a matrix holds it, a record says that the bound
    was exceeded.

    The main result is `threshold_only_hides`: in all three, the distances
    within the threshold stay as they were, where they were. -/

namespace Likeness

variable {K : Type} [Scalar K]

/-! ## The bounded distance of texts -/

/-- A whole number as the threshold of the bounded distance. -/
def Parameter.ofNat (t : Nat) : Parameter Float := ⟨.whole t, (Value.int t).plain⟩

/-- A score within a threshold, or the mark for one that is beyond it. -/
def Score.within (t : Nat) (s : Score K) : Score K :=
  if s.atMost (.whole t) then s else .whole (-1)

theorem Score.within_whole (t : Nat) (d : Int) :
    (Score.whole d : Score K).within t = .whole (if d ≤ t then d else -1) := by
  show (if decide (d ≤ t) = true then _ else _) = _
  split_ifs with h₁ h₂ h₂
  · rfl
  · exact absurd (of_decide_eq_true h₁) h₂
  · exact absurd (decide_eq_true h₂) h₁
  · rfl

theorem Registry.make_levenshtein :
    (Registry.builtin : Registry K).make "levenshtein" [] = .ok .levenshtein := rfl

theorem Registry.make_bounded (t : Nat) :
    (Registry.builtin : Registry K).make "levenshtein_bounded" [("threshold", .int t)]
      = .ok (.boundedLevenshtein (.ofNat t)) := by
  have hpos : (Score.whole t : Score Float).isNegative = false :=
    decide_eq_false (Int.not_lt.mpr (Int.natCast_nonneg t))
  show (if (Score.whole t : Score Float).isNegative then
      .error (.negativeThreshold (Parameter.ofNat t).text)
    else .ok (.boundedLevenshtein (.ofNat t)) : Except Fault (Metric K)) = _
  rw [hpos]
  rfl

/-- The bounded distance of two texts is their distance within the threshold. -/
theorem bounded_texts {s u : String} (hs : s.toList.length ≤ Edit.unreachable)
    (hu : u.toList.length ≤ Edit.unreachable) (t : Nat) :
    (Metric.boundedLevenshtein (.ofNat t) : Metric K).score (.text s) (.text u)
      = .ok ((Score.whole (textDistance s u)).within t) := by
  rw [boundedLevenshtein_texts hs hu (n := t) rfl, Score.within_whole]
  simp only [Int.ofNat_le]

theorem textDistance_comm (s u : String) : textDistance s u = textDistance u s :=
  Edit.distance_comm fun _ _ _ _ => BEq.comm

/-! ## Rankings, matrices and records -/

/-- What is not dropped as marked is what is within the threshold. -/
theorem filter_within {α : Type} (t : Nat) (value : α → Value) (distance : α → Nat)
    (candidates : List α) :
    (candidates.map fun c =>
        (value c, if (distance c : Int) ≤ t then (distance c : Int) else -1)).filter
          (fun c => decide (0 ≤ c.2))
      = ((candidates.map fun c => (value c, (distance c : Int))).filter
          fun c => decide (0 ≤ c.2)).filter fun c => decide (c.2 ≤ (t : Int)) := by
  induction candidates with
  | nil => rfl
  | cons c cs ih =>
      simp only [List.map_cons, List.filter_cons, Int.natCast_nonneg, decide_true, if_true, ih]
      by_cases h : (distance c : Int) ≤ t
      · simp [h]
      · simp [h]

/-- The ranking by the bounded distance is the ranking by the distance, without the
    candidates beyond the threshold. -/
theorem rank_bounded (t : Nat) {query : String} {candidates : List String}
    (hquery : query.toList.length ≤ Edit.unreachable)
    (hcandidates : ∀ c ∈ candidates, c.toList.length ≤ Edit.unreachable) (limit : Option Int) :
    ∃ ranked,
      Ranking.rank (.levenshtein : Metric K) (.text query) (candidates.map .text) none
        = .ok ranked ∧
      Ranking.rank (.boundedLevenshtein (.ofNat t) : Metric K) (.text query)
          (candidates.map .text) limit
        = .ok (Ranking.upTo limit (ranked.filter fun c => c.2.atMost (.whole t))) := by
  have hplain : ∀ c ∈ candidates, (.levenshtein : Metric K).score (.text c) (.text query)
      = .ok (.whole (textDistance c query : Int)) := by
    intro c _
    exact levenshtein_texts c query
  have hbounded : ∀ c ∈ candidates,
      (.boundedLevenshtein (.ofNat t) : Metric K).score (.text c) (.text query)
        = .ok (.whole (if (textDistance c query : Int) ≤ t then textDistance c query else -1)) := by
    intro c hc
    rw [bounded_texts (hcandidates c hc) hquery, Score.within_whole]
  -- The bounded ranking filters before it sorts, the plain one is filtered after it.
  refine ⟨_, Ranking.rank_whole rfl hplain none, ?_⟩
  rw [Ranking.rank_whole rfl hbounded limit, filter_within,
    ← Ranking.filter_mergeSort Ranking.lower_trans Ranking.lower_total]
  rw [← Ranking.filter_ofWhole]
  rfl

/-- The matrix of bounded distances is the matrix of distances, within the
    threshold. -/
theorem pairwise_bounded (t : Nat) {items : List String}
    (hitems : ∀ s ∈ items, s.toList.length ≤ Edit.unreachable) :
    ∃ rows,
      Matrix.pairwise (.levenshtein : Metric K) (items.map .text) = .ok rows ∧
      Matrix.pairwise (.boundedLevenshtein (.ofNat t) : Metric K) (items.map .text)
        = .ok (rows.map fun row => row.map (Score.within t)) := by
  have hplain : ∀ s ∈ items, ∀ u ∈ items, (.levenshtein : Metric K).score (.text s) (.text u)
        = .ok (.whole (textDistance s u : Int)) ∧
      (textDistance s u : Int).natAbs ≤ Edit.unreachable := by
    intro s hs u hu
    exact ⟨levenshtein_texts s u, textDistance_le (hitems s hs) (hitems u hu)⟩
  have hbounded : ∀ s ∈ items, ∀ u ∈ items,
      (.boundedLevenshtein (.ofNat t) : Metric K).score (.text s) (.text u)
        = .ok (.whole (if (textDistance s u : Int) ≤ t then textDistance s u else -1)) ∧
      (if (textDistance s u : Int) ≤ t then (textDistance s u : Int) else -1).natAbs
        ≤ Edit.unreachable := by
    intro s hs u hu
    refine ⟨?_, natAbs_within_le (textDistance_le (hitems s hs) (hitems u hu)) _⟩
    rw [bounded_texts (hitems s hs) (hitems u hu), Score.within_whole]
  refine ⟨_, Matrix.pairwise_whole rfl ?_ hplain, ?_⟩
  · intro s u
    rw [textDistance_comm]
  · rw [Matrix.pairwise_whole rfl ?_ hbounded]
    · simp only [List.map_map, Function.comp_def, Score.within_whole]
    · intro s u
      rw [textDistance_comm]

/-- A record within a threshold, as the bounded distance makes it. -/
def Record.within (t : Nat) (r : Record K) : Record K :=
  { r with
    metric := "levenshtein_bounded"
    score := r.score.within t
    exceeded := some (!r.score.atMost (.whole t)) }

/-- The mark, and no distance, is taken for one. -/
theorem isSentinel_within (t d : Nat) :
    isSentinel ((Score.whole d : Score K).within t)
      = !(Score.whole d : Score K).atMost (.whole t) := by
  have hmark : ∀ n : Int, isSentinel (.whole n : Score K) = decide (n = -1) := by
    intro n
    show (n * ((1 : Nat) : Int) == -1 * ((1 : Nat) : Int)) = _
    rw [Int.natCast_one, Int.mul_one, Int.mul_one, beq_eq_decide]
  rw [Score.within_whole, hmark]
  show _ = !decide ((d : Int) ≤ t)
  by_cases h : (d : Int) ≤ t
  · have hne : (d : Int) ≠ -1 := by omega
    simp [h, hne]
  · simp [h]

theorem runner_levenshtein (casefold : Bool) :
    Runner.make (Registry.builtin : Registry K) "levenshtein" casefold {}
      = .ok ⟨"levenshtein", .levenshtein, casefold, false⟩ := rfl

/-- A threshold makes the runner of the distance the runner of the bounded one. -/
theorem runner_bounded (casefold : Bool) (t : Nat) :
    Runner.make (Registry.builtin : Registry K) "levenshtein" casefold { threshold := .int t }
      = .ok ⟨"levenshtein_bounded", .boundedLevenshtein (.ofNat t), casefold, true⟩ := by
  show ((Registry.builtin : Registry K).make "levenshtein_bounded" [("threshold", .int t)]
    >>= fun m => .ok (Runner.mk "levenshtein_bounded" m casefold true)) = _
  rw [Registry.make_bounded]
  rfl

/-- The records of pairs by the bounded distance are their records by the distance,
    within the threshold. -/
theorem records_bounded (t : Nat) (casefold : Bool) {pairs : List Pair}
    (hpairs : ∀ p ∈ pairs, (foldedIf casefold p.left).toList.length ≤ Edit.unreachable ∧
      (foldedIf casefold p.right).toList.length ≤ Edit.unreachable) (place : Nat) :
    ∃ records,
      (⟨"levenshtein", .levenshtein, casefold, false⟩ : Runner K).records place pairs
        = .ok records ∧
      (⟨"levenshtein_bounded", .boundedLevenshtein (.ofNat t), casefold, true⟩ :
          Runner K).records place pairs = .ok (records.map (Record.within t)) := by
  induction pairs generalizing place with
  | nil => exact ⟨[], rfl, rfl⟩
  | cons p ps ih =>
      obtain ⟨records, hplain, hbounded⟩ :=
        ih (fun q hq => hpairs q (List.mem_cons_of_mem _ hq)) (place + 1)
      obtain ⟨hleft, hright⟩ := hpairs p List.mem_cons_self
      refine ⟨⟨Runner.pairId place p, p.left, p.right, "levenshtein",
        .whole (textDistance (foldedIf casefold p.left) (foldedIf casefold p.right)), none⟩
          :: records, ?_, ?_⟩
      · rw [Runner.records_cons, hplain, Runner.record, Runner.score, levenshtein_texts]
        rfl
      · rw [Runner.records_cons, hbounded, Runner.record, Runner.score,
          bounded_texts hleft hright]
        show Except.ok (Record.mk _ _ _ _ _ (some (isSentinel _)) :: _) = _
        rw [isSentinel_within]
        rfl

/-- **A THRESHOLD ONLY HIDES** in a batch.  The ranking by the bounded distance is the
    ranking by the distance without the candidates beyond the threshold, up to the
    limit; the matrix is the matrix of distances with the mark in place of those beyond
    it; and the records of a run keep the scores within the threshold, have the mark in
    place of those beyond it, and say which of the two it was.  No text is longer than
    the largest size there is, which marks unreached cells. -/
theorem threshold_only_hides (t : Nat) :
    (∃ plain bounded : Metric K,
      Registry.builtin.make "levenshtein" [] = .ok plain ∧
      Registry.builtin.make "levenshtein_bounded" [("threshold", .int t)] = .ok bounded ∧
      (∀ (query : String) (candidates : List String) (limit : Option Int),
        query.toList.length ≤ Edit.unreachable →
        (∀ c ∈ candidates, c.toList.length ≤ Edit.unreachable) →
        ∃ ranked,
          Ranking.rank plain (.text query) (candidates.map .text) none = .ok ranked ∧
          Ranking.rank bounded (.text query) (candidates.map .text) limit
            = .ok (Ranking.upTo limit (ranked.filter fun c => c.2.atMost (.whole t)))) ∧
      (∀ items : List String, (∀ s ∈ items, s.toList.length ≤ Edit.unreachable) →
        ∃ rows,
          Matrix.pairwise plain (items.map .text) = .ok rows ∧
          Matrix.pairwise bounded (items.map .text)
            = .ok (rows.map fun row => row.map (Score.within t)))) ∧
    (∀ casefold : Bool, ∃ plain bounded : Runner Float,
      Runner.make Registry.builtin "levenshtein" casefold {} = .ok plain ∧
      Runner.make Registry.builtin "levenshtein" casefold { threshold := .int t } = .ok bounded ∧
      ∀ pairs : List Pair,
        (∀ p ∈ pairs, (foldedIf casefold p.left).toList.length ≤ Edit.unreachable ∧
          (foldedIf casefold p.right).toList.length ≤ Edit.unreachable) →
        ∃ records,
          (∀ s, ((Batch.runPairs plain pairs none).run s).1 = .ok records) ∧
          (∀ s, ((Batch.runPairs bounded pairs none).run s).1
            = .ok (records.map (Record.within t))) ∧
          ∀ folder s s' found, (Batch.runPairs bounded pairs (some folder)).run s = (.ok found, s') →
            found = records.map (Record.within t)) := by
  refine ⟨⟨_, _, Registry.make_levenshtein (K := K), Registry.make_bounded t, ?_, ?_⟩, ?_⟩
  · intro query candidates limit hquery hcandidates
    exact rank_bounded t hquery hcandidates limit
  · intro items hitems
    exact pairwise_bounded t hitems
  · intro casefold
    refine ⟨_, _, runner_levenshtein casefold, runner_bounded casefold t, ?_⟩
    intro pairs hpairs
    obtain ⟨records, hplain, hbounded⟩ := records_bounded (K := Float) t casefold hpairs 1
    refine ⟨records, fun s => ?_, fun s => ?_, ?_⟩
    · rw [Batch.runPairs_none, hplain]
    · rw [Batch.runPairs_none, hbounded]
    · intro folder s s' found hrun
      obtain ⟨hfound, -⟩ := Batch.runPairs_eq_ok hrun
      exact Except.ok.inj (hfound.symm.trans hbounded)

/-- Four candidates of which one is at most two away from the query and not equal to it,
    three words in a matrix, and a pair that only differs in case. -/
theorem threshold_only_hides_kitten :
    (∃ plain bounded : Metric Float, ∃ ranked rows,
      Registry.builtin.make "levenshtein_bounded" [("threshold", .int 2)] = .ok bounded ∧
      Ranking.rank plain (.text "kitten")
        (["sitting", "kitten", "mitten", "dog"].map .text) none = .ok ranked ∧
      Ranking.rank bounded (.text "kitten")
          (["sitting", "kitten", "mitten", "dog"].map .text) (some 3)
        = .ok (Ranking.upTo (some 3) (ranked.filter fun c => c.2.atMost (.whole 2))) ∧
      Matrix.pairwise plain (["frog", "fog", "hippo"].map .text) = .ok rows ∧
      Matrix.pairwise bounded (["frog", "fog", "hippo"].map .text)
        = .ok (rows.map fun row => row.map (Score.within 2))) ∧
    ∃ (bounded : Runner Float) (records : List (Record Float)),
      Runner.make Registry.builtin "levenshtein" true { threshold := .int 2 } = .ok bounded ∧
      ∀ s, ((Batch.runPairs bounded [⟨none, "Frog", "FROG"⟩] none).run s).1
        = .ok (records.map (Record.within 2)) := by
  obtain ⟨⟨plain, bounded, -, hmake, hrank, hmatrix⟩, hruns⟩ := threshold_only_hides (K := Float) 2
  obtain ⟨ranked, hplain, hbounded⟩ :=
    hrank "kitten" ["sitting", "kitten", "mitten", "dog"] (some 3) (by decide) (by decide)
  obtain ⟨rows, hrows, hwithin⟩ := hmatrix ["frog", "fog", "hippo"] (by decide)
  obtain ⟨_, runner, _, hrunner, hrecords⟩ := hruns true
  obtain ⟨records, -, hrun, -⟩ := hrecords [⟨none, "Frog", "FROG"⟩] (by decide +kernel)
  exact ⟨⟨plain, bounded, ranked, rows, hmake, hplain, hbounded, hrows, hwithin⟩,
    runner, records, hrunner, hrun⟩

end Likeness
