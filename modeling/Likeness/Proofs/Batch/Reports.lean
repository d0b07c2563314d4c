import Likeness.Proofs.Batch.Pairs
import Likeness.Proofs.Batch.Summary
import Likeness.Proofs.Batch.Threshold
import Likeness.Proofs.Command.Scoring

/-! # Summaries of runs

    A distance beyond its bound goes three ways: the search gives the mark for it, the
    record takes the mark for an exceeded bound, and the summary goes by what the record
    says, not by the score.  So the summary of a run counts the pairs beyond the threshold
    and takes the scores of the others; by any other metric it takes the scores of all pairs
    (`Batch.summary_of_run`). -/

namespace Likeness

/-! ## Runners of built-in metrics -/

/-- Parameters that are not special, with a threshold that is an integer. -/
structure MetricOptions.Finite (o : MetricOptions) : Prop where
  threshold : ∀ s, o.threshold.number? = some s → ∃ n : Int, s = .whole n
  scalingFactor : ∀ s, o.scalingFactor.number? = some s → ∃ a, s.Denotes a
  prefixLimit : ∀ s, o.prefixLimit.number? = some s → ∃ a, s.Denotes a

theorem Score.ofFloat_self (s : Score Float) : (ofFloat s : Score Float) = s := by
  cases s with
  | whole n => rfl
  | real x => rfl

theorem Parameter.ofValue?_eq_some {v : Value} {p : Parameter Float} (h : ofValue? v = some p) :
    v.number? = some p.value := by
  obtain ⟨s, hs, rfl⟩ := Option.map_eq_some_iff.mp h
  rw [hs, Score.ofFloat_self]

namespace MetricKind

theorem plain_eq_ok {m m' : Metric Float} {params : Named} (h : (plain m).make params = .ok m') :
    m' = m := by
  rw [plain] at h
  dsimp only at h
  split_ifs at h
  exact (Except.ok.inj h).symm

/-- The bounded distance is made from a number that is not negative. -/
theorem bounded_eq_ok {v : Value} {m : Metric Float}
    (h : (bounded : MetricKind Float).make [("threshold", v)] = .ok m) :
    ∃ t, Parameter.ofValue? v = some t ∧ t.value.isNegative = false ∧
      m = .boundedLevenshtein t := by
  obtain ⟨_, -, h⟩ := bind_eq_ok h
  have hlookup : List.lookup "threshold" [("threshold", v)] = some v := rfl
  rw [hlookup] at h
  split at h
  · exact nomatch h
  · exact nomatch h
  · rename_i v' _ heq
    obtain rfl := Option.some.inj heq
    split at h
    · exact nomatch h
    · rename_i t ht
      split_ifs at h with hnegative
      exact ⟨t, ht, eq_false_of_ne_true hnegative, (Except.ok.inj h).symm⟩

/-- The Jaro-Winkler similarity is made from parameters that it may refuse to score by. -/
theorem winkler_eq_ok {scaling limit : Value} {m : Metric Float}
    (h : (winkler : MetricKind Float).make [("scaling_factor", scaling), ("prefix_limit", limit)]
      = .ok m) :
    (∃ p, Match.Boost.ofValues scaling limit = .ok p ∧ m = .jaroWinkler p) ∨
      ∃ e, m = .misparameterised e := by
  obtain ⟨_, -, h⟩ := bind_eq_ok h
  have hscaling : List.lookup "scaling_factor"
      [("scaling_factor", scaling), ("prefix_limit", limit)] = some scaling := rfl
  have hlimit : List.lookup "prefix_limit"
      [("scaling_factor", scaling), ("prefix_limit", limit)] = some limit := rfl
  rw [hscaling, hlimit] at h
  dsimp only [Option.getD_some] at h
  split at h
  · rename_i p hp
    exact .inl ⟨p, hp, (Except.ok.inj h).symm⟩
  · exact .inr ⟨_, (Except.ok.inj h).symm⟩

end MetricKind

namespace Runner

/-- The edit distance of a pair, with case folded if so asked. -/
def distance (r : Runner Float) (p : Pair) : Nat :=
  textDistance (foldedIf r.casefold p.left) (foldedIf r.casefold p.right)

/-- No text of a pair is longer than the largest size there is, with case folded if so asked. -/
def Fits (r : Runner Float) (p : Pair) : Prop :=
  (foldedIf r.casefold p.left).toList.length ≤ Edit.unreachable ∧
    (foldedIf r.casefold p.right).toList.length ≤ Edit.unreachable

/-- A runner of the bounded distance with a threshold. -/
structure Bounds (r : Runner Float) (t : Nat) : Prop where
  name : r.name = "levenshtein_bounded"
  bounded : r.bounded = true
  score : ∀ p, r.Fits p → r.score p.left p.right = .ok ((Score.whole (r.distance p)).within t)

/-- A runner of another metric. -/
structure Scores (r : Runner Float) : Prop where
  name : r.name ≠ "levenshtein_bounded"
  bounded : r.bounded = false
  score : ∀ p score, r.Fits p → r.score p.left p.right = .ok score → ∃ a, score.Denotes a ∧ 0 ≤ a

theorem make_eq_ok {registry : Registry Float} {metric : String} {casefold : Bool}
    {o : MetricOptions} {r : Runner Float} (h : make registry metric casefold o = .ok r) :
    registry.make r.name (o.forMetric r.name) = .ok r.metric ∧
      r.bounded = (o.isBounded && r.name = "levenshtein_bounded") := by
  obtain ⟨m, hm, h⟩ := bind_eq_ok h
  cases h
  exact ⟨hm, rfl⟩

/-- A metric that only gives scores that are numbers and not negative. -/
theorem scores_of_proper {r : Runner Float} (hname : r.name ≠ "levenshtein_bounded")
    (hbounded : r.bounded = false) (hm : r.metric.Proper)
    (hmetric : r.metric.name ≠ "levenshtein_bounded") : r.Scores := by
  refine ⟨hname, hbounded, fun p score hfits hscore => ?_⟩
  obtain ⟨found, kind, hfound⟩ := Ranking.exists_scores hm hmetric hfits.2
    (List.forall_mem_singleton.mpr hfits.1)
  obtain ⟨hs, hkind, hpos⟩ := hfound _ (List.mem_singleton_self _)
  obtain rfl := Except.ok.inj (hs.symm.trans hscore)
  obtain ⟨a, ha⟩ := hkind.denotes
  exact ⟨a, ha, ha.value ▸ hpos⟩

theorem bounds_of_threshold {r : Runner Float} {o : MetricOptions} (ho : o.Finite)
    (hname : r.name = "levenshtein_bounded")
    (hbounded : r.bounded = (o.isBounded && r.name = "levenshtein_bounded"))
    {p : Parameter Float} (hp : Parameter.ofValue? o.threshold = some p)
    (hnegative : p.value.isNegative = false) (hm : r.metric = .boundedLevenshtein p) :
    ∃ t : Nat, o.threshold.number? = some (.whole t) ∧ r.Bounds t := by
  have hnumber := Parameter.ofValue?_eq_some hp
  obtain ⟨n, hn⟩ := ho.threshold _ hnumber
  rw [hn] at hnumber hnegative
  obtain ⟨t, rfl⟩ := Int.eq_ofNat_of_zero_le (not_lt.mp (of_decide_eq_false hnegative))
  have hnull : o.threshold.isNull = false := by
    cases ho : o.threshold with
    | null =>
        rw [ho] at hnumber
        exact nomatch hnumber
    | _ => rfl
  refine ⟨t, hnumber, hname, ?_, fun q hfits => ?_⟩
  · rw [hbounded, MetricOptions.isBounded, hnull, decide_eq_true hname]
    rfl
  · rw [Runner.score, hm, boundedLevenshtein_texts hfits.1 hfits.2 hn, Score.within_whole]
    simp only [Int.ofNat_le]
    rfl

theorem scores_of_error {r : Runner Float} (hname : r.name ≠ "levenshtein_bounded")
    (hbounded : r.bounded = false)
    (h : ∀ s t : String, ∃ e, r.metric.score (.text s) (.text t) = .error e) : r.Scores := by
  refine ⟨hname, hbounded, fun p score _ hscore => ?_⟩
  obtain ⟨e, he⟩ := h (foldedIf r.casefold p.left) (foldedIf r.casefold p.right)
  exact nomatch he.symm.trans hscore

theorem scores_of_winkler {r : Runner Float} {o : MetricOptions} (ho : o.Finite)
    (hname : r.name ≠ "levenshtein_bounded") (hbounded : r.bounded = false)
    {p : Match.Boost Float} (hp : Match.Boost.ofValues o.scalingFactor o.prefixLimit = .ok p)
    (hm : r.metric = .jaroWinkler p) : r.Scores := by
  cases hcheck : p.check with
  | error e =>
      exact scores_of_error hname hbounded fun s t => ⟨e, hm ▸ jaroWinkler_refused hcheck s t⟩
  | ok =>
      have hfinite : p.Finite := by
        unfold Match.Boost.ofValues at hp
        split at hp
        · rename_i scaling limit hscaling hlimit
          obtain rfl := Except.ok.inj hp
          exact ⟨ho.scalingFactor _ (Parameter.ofValue?_eq_some hscaling),
            ho.prefixLimit _ (Parameter.ofValue?_eq_some hlimit)⟩
        · exact nomatch hp
        · exact nomatch hp
      refine scores_of_proper hname hbounded (hm ▸ .winkler hcheck hfinite) ?_
      rw [hm]
      exact (by decide : "jaro_winkler" ≠ "levenshtein_bounded")

/-- **WHAT A RUNNER OF A BUILT-IN METRIC SCORES**. -/
theorem make_builtin {metric : String} {casefold : Bool} {o : MetricOptions} (ho : o.Finite)
    {r : Runner Float} (h : make Registry.builtin metric casefold o = .ok r) :
    (∃ t : Nat, o.threshold.number? = some (.whole t) ∧ r.Bounds t) ∨ r.Scores := by
  obtain ⟨hmetric, hbounded⟩ := make_eq_ok h
  obtain ⟨kind, hkind, hmake⟩ := Registry.make_eq_ok hmetric
  have hother : r.name ≠ "levenshtein_bounded" → r.bounded = false := by
    intro hname
    rw [hbounded, decide_eq_false hname, Bool.and_false]
  have hplain : ∀ {m : Metric Float}, r.name ≠ "levenshtein_bounded" → m.Proper →
      m.name ≠ "levenshtein_bounded" → r.metric = m → r.Scores := by
    rintro m hname hproper hmname rfl
    exact scores_of_proper hname (hother hname) hproper hmname
  obtain ⟨hname, rfl⟩ | ⟨hname, rfl⟩ | ⟨hname, rfl⟩ | ⟨hname, rfl⟩ | ⟨hname, rfl⟩ :=
    Registry.find?_builtin hkind
  · exact .inr (hplain (by rw [hname]; decide) .levenshtein (by decide)
      (MetricKind.plain_eq_ok hmake))
  · rw [hname] at hmake
    obtain ⟨p, hp, hnegative, hm⟩ := MetricKind.bounded_eq_ok hmake
    exact .inl (bounds_of_threshold ho hname hbounded hp hnegative hm)
  · exact .inr (hplain (by rw [hname]; decide) .jaro (by decide) (MetricKind.plain_eq_ok hmake))
  · have hne : r.name ≠ "levenshtein_bounded" := by
      rw [hname]
      decide
    rw [hname] at hmake
    refine .inr ?_
    obtain ⟨p, hp, hm⟩ | ⟨e, hm⟩ := MetricKind.winkler_eq_ok hmake
    · exact scores_of_winkler ho hne (hother hne) hp hm
    · exact scores_of_error hne (hother hne) fun s t => ⟨e, by rw [hm]; rfl⟩
  · exact .inr (hplain (by rw [hname]; decide) .fuzzy (by decide) (MetricKind.plain_eq_ok hmake))

/-! ## The figures of runs -/

/-- Records are those of the pairs, one for each. -/
theorem forall₂_records {r : Runner Float} {R : Pair → Record Float → Prop} {pairs : List Pair}
    (hR : ∀ p ∈ pairs, ∀ place record, r.Recorded place p record → R p record) {place : Nat}
    {records : List (Record Float)} (h : r.records place pairs = .ok records) :
    List.Forall₂ R pairs records := by
  induction pairs generalizing place records with
  | nil =>
      obtain rfl := Except.ok.inj h
      exact .nil
  | cons p ps ih =>
      rw [records_cons] at h
      obtain ⟨record, hrecord, h⟩ := bind_eq_ok h
      obtain ⟨rest, hrest, rfl⟩ := map_eq_ok h
      obtain ⟨score, hscore, -⟩ := map_eq_ok hrecord
      obtain ⟨record', hrecord', hrecorded⟩ := record_of_score hscore place
      obtain rfl := Except.ok.inj (hrecord.symm.trans hrecord')
      exact .cons (hR p List.mem_cons_self place record hrecorded)
        (ih (fun q hq => hR q (List.mem_cons_of_mem p hq)) hrest)

/-- The record of a pair by the bounded distance. -/
structure RecordedWithin (r : Runner Float) (t : Nat) (p : Pair) (record : Record Float) : Prop where
  score : record.score = (Score.whole (r.distance p)).within t
  exceeded : record.exceeded = some (decide (t < r.distance p))

theorem Bounds.recorded {r : Runner Float} {t : Nat} (hr : r.Bounds t) {place : Nat} {p : Pair}
    {record : Record Float} (hfits : r.Fits p) (h : r.Recorded place p record) :
    r.RecordedWithin t p record := by
  have hscore : record.score = (Score.whole (r.distance p)).within t :=
    Except.ok.inj (h.score.symm.trans (hr.score p hfits))
  refine ⟨hscore, ?_⟩
  rw [h.exceeded, hr.bounded, if_pos rfl, hscore, isSentinel_within]
  show some (!decide ((r.distance p : Int) ≤ t)) = _
  rw [← decide_not]
  exact congrArg some (decide_eq_decide.mpr (not_le.trans Int.ofNat_lt))

/-- A record of the bounded distance that does not exceed the bound has the distance. -/
theorem RecordedWithin.kept {r : Runner Float} {t : Nat} {p : Pair} {record : Record Float}
    (h : r.RecordedWithin t p record) (hkept : record.isExceeded = false) :
    record.score = .whole (r.distance p) ∧ r.distance p ≤ t := by
  have hle : r.distance p ≤ t := by
    rw [Record.isExceeded, h.exceeded] at hkept
    by_contra hgt
    rw [decide_eq_true (not_le.mp hgt)] at hkept
    cases hkept
  rw [h.score, Score.within_whole, if_pos (by exact_mod_cast hle)]
  exact ⟨rfl, hle⟩

end Runner

namespace Batch

/-- What a summary over fractions reports of the records of a run. -/
structure Reports (r : Runner Float) (o : MetricOptions) (pairs : List Pair)
    (records : List (Record Float)) (summary : Summary Rat) : Prop where
  /-- Its statistics are those of the scores that do not exceed the bound. -/
  figures : summary.figures = .of (records.map Record.exceeded) (Record.values records)
  /-- The scores that enter them are numbers that are not negative, so no mark is one. -/
  scores : ∀ record ∈ Record.kept records, ∃ a, record.score.Denotes a ∧ 0 ≤ a
  count : summary.pairs = pairs.length
  scored : summary.scored + records.countP Record.isExceeded = summary.pairs
  /-- By the bounded distance they are within the threshold, and the other pairs are counted. -/
  bounded : r.name = "levenshtein_bounded" → ∃ t : Nat,
    o.threshold.number? = some (.whole t) ∧
    (∀ record ∈ Record.kept records, ∃ d : Nat, record.score = .whole d ∧ d ≤ t) ∧
    (pairs ≠ [] → ∃ rate, summary.exceededRate = some rate ∧
      rate * summary.pairs = pairs.countP fun p => decide (t < r.distance p))
  other : r.name ≠ "levenshtein_bounded" →
    summary.exceededRate = none ∧ summary.scored = summary.pairs
  ordered : 0 < summary.scored →
    ∃ low average middle high, 0 ≤ low ∧ summary.figures.Enclosed low average middle high

section Reports

variable {r : Runner Float} {o : MetricOptions} {pairs : List Pair}
  {records : List (Record Float)} {summary : Summary Rat}

/-- Every record was scored within the bound or exceeds it. -/
theorem scored_add_exceeded
    (h : summary.figures = .of (records.map Record.exceeded) (Record.values records)) :
    summary.pairs = records.length ∧
      summary.scored + records.countP Record.isExceeded = summary.pairs := by
  have hpairs : summary.pairs = records.length :=
    (congrArg Figures.pairs h).trans (List.length_map _)
  have hscored : summary.scored = (Record.kept records).length :=
    (congrArg Figures.scored h).trans (List.length_map _)
  exact ⟨hpairs, by rw [hscored, Record.length_kept, hpairs]⟩

theorem enclosed_of_scored
    (h : summary.figures = .of (records.map Record.exceeded) (Record.values records))
    (hscores : ∀ record ∈ Record.kept records, ∃ a, record.score.Denotes a ∧ 0 ≤ a)
    (hpos : 0 < summary.scored) : ∃ low average middle high, 0 ≤ low ∧
      summary.figures.Enclosed low average middle high := by
  have hscored : summary.scored = (Record.values records).length := congrArg Figures.scored h
  rw [hscored, List.length_pos_iff] at hpos
  rw [h]
  obtain ⟨low, average, middle, high, henclosed⟩ :=
    Figures.exists_enclosed (records.map Record.exceeded) hpos
  refine ⟨low, average, middle, high, ?_, henclosed⟩
  obtain ⟨record, hrecord, rfl⟩ := List.mem_map.mp (List.min?_mem henclosed.least)
  obtain ⟨a, ha, h0⟩ := hscores record hrecord
  exact ha.value ▸ h0

theorem Reports.of_bounds {t : Nat} (hr : r.Bounds t)
    (ht : o.threshold.number? = some (.whole t)) (hpairs : ∀ p ∈ pairs, r.Fits p)
    (hrecords : r.records 1 pairs = .ok records)
    (h : summary.figures = .of (records.map Record.exceeded) (Record.values records)) :
    Reports r o pairs records summary := by
  have hall : List.Forall₂ (r.RecordedWithin t) pairs records :=
    Runner.forall₂_records (fun p hp _ _ hrecorded => hr.recorded (hpairs p hp) hrecorded) hrecords
  have hkept : ∀ record ∈ Record.kept records, ∃ d : Nat, record.score = .whole d ∧ d ≤ t := by
    intro record hrecord
    obtain ⟨hmem, hnot⟩ := List.mem_filter.mp hrecord
    obtain ⟨p, -, hp⟩ := exists_of_forall₂ hall hmem
    exact ⟨r.distance p, hp.kept (by simpa using hnot)⟩
  have hmarks : records.map Record.exceeded
      = (pairs.map fun p => decide (t < r.distance p)).map some := by
    have hsame := List.forall₂_map_left_iff.mpr (List.forall₂_map_right_iff.mpr
      (hall.flip.imp fun _ _ hp => hp.exceeded))
    rw [List.forall₂_eq_eq_eq] at hsame
    rw [List.map_map]
    exact hsame
  have hscores : ∀ record ∈ Record.kept records, ∃ a, record.score.Denotes a ∧ 0 ≤ a := by
    intro record hrecord
    obtain ⟨d, hd, -⟩ := hkept record hrecord
    exact ⟨d, hd ▸ .whole d, Nat.cast_nonneg d⟩
  obtain ⟨hcount, hsum⟩ := scored_add_exceeded h
  refine ⟨h, hscores, hcount.trans hall.length_eq.symm, hsum,
    fun _ => ⟨t, ht, hkept, fun hne => ?_⟩, fun hname => absurd hr.name hname,
    enclosed_of_scored h hscores⟩
  have hrate : summary.exceededRate = _ := congrArg Figures.exceededRate h
  obtain ⟨rate, hsome, hproduct⟩ := Figures.rate_of_marks
    (pairs.map fun p => decide (t < r.distance p)) (by simpa using hne) (Record.values records)
  rw [← hmarks] at hsome
  refine ⟨rate, hrate.trans hsome, ?_⟩
  rw [List.length_map, List.count, List.countP_map] at hproduct
  rw [hcount, ← hall.length_eq, hproduct]
  simp only [Function.comp_def, beq_true]

theorem Reports.of_scores (hr : r.Scores) (hpairs : ∀ p ∈ pairs, r.Fits p)
    (hrecords : r.records 1 pairs = .ok records)
    (h : summary.figures = .of (records.map Record.exceeded) (Record.values records)) :
    Reports r o pairs records summary := by
  have hall : List.Forall₂ (fun _ record => record.exceeded = none ∧
      ∃ a, record.score.Denotes a ∧ 0 ≤ a) pairs records := by
    refine Runner.forall₂_records (fun p hp _ _ hrecorded => ⟨?_, ?_⟩) hrecords
    · rw [hrecorded.exceeded, hr.bounded]
      rfl
    · exact hr.score p _ (hpairs p hp) hrecorded.score
  have hnone : ∀ record ∈ records, record.exceeded = none ∧ ∃ a, record.score.Denotes a ∧ 0 ≤ a :=
    fun record hrecord => (exists_of_forall₂ hall hrecord).elim fun _ hp => hp.2
  have hscores : ∀ record ∈ Record.kept records, ∃ a, record.score.Denotes a ∧ 0 ≤ a :=
    fun record hrecord => (hnone record (List.mem_of_mem_filter hrecord)).2
  obtain ⟨hcount, hsum⟩ := scored_add_exceeded h
  refine ⟨h, hscores, hcount.trans hall.length_eq.symm, hsum,
    fun hname => absurd hname hr.name, fun _ => ⟨?_, ?_⟩, enclosed_of_scored h hscores⟩
  · have hrate : summary.exceededRate = _ := congrArg Figures.exceededRate h
    refine hrate.trans (if_pos ?_)
    simpa using fun record hrecord => (hnone record hrecord).1
  · have hzero : records.countP Record.isExceeded = 0 := by
      refine List.countP_eq_zero.mpr fun record hrecord => ?_
      rw [Record.isExceeded, (hnone record hrecord).1]
      exact Bool.false_ne_true
    rwa [hzero, Nat.add_zero] at hsum

end Reports

/-- **A SUMMARY TAKES NO MARK FOR A SCORE.**  The records of a run of a built-in metric, with
    parameters that are not special, have a summary over exact fractions.  Each pair was scored
    within the bound or is counted as exceeding it.  By the bounded distance these are the pairs
    whose distance is beyond the threshold, and the part that they are of all pairs is known if
    there are any; by another metric there are none, and no such part.  The scores are not
    negative, their least and their greatest one enclose mean and median, and the figures
    are the same for the records in any other order.  No text is longer than the largest size
    there is. -/
theorem summary_of_run {metric : String} {casefold : Bool} {o : MetricOptions} (ho : o.Finite)
    {r : Runner Float} (hr : Runner.make Registry.builtin metric casefold o = .ok r)
    {pairs : List Pair} (hpairs : ∀ p ∈ pairs, r.Fits p) {folder : Option Path} {s s' : Session}
    {records : List (Record Float)}
    (hrun : (runPairs r pairs folder).run s = (.ok records, s')) :
    ∃ summary, Summary.ofRecords (records.map Record.toValue) = .ok summary ∧
      Reports r o pairs records summary ∧
      ∀ records' : List (Record Float), records'.Perm records →
        ∃ summary' : Summary Rat, Summary.ofRecords (records'.map Record.toValue) = .ok summary' ∧
          summary'.figures = summary.figures := by
  have hrecords : r.records 1 pairs = .ok records := by
    cases folder with
    | none => exact (runPairs_none r pairs s).symm.trans (congrArg Prod.fst hrun)
    | some folder => exact (runPairs_eq_ok hrun).1
  obtain ⟨summary, hsummary, hfigures⟩ := Summary.ofRecords_figures records
  refine ⟨summary, hsummary, ?_, fun records' hperm => ?_⟩
  · obtain ⟨t, ht, hbounds⟩ | hscores := Runner.make_builtin ho hr
    · exact .of_bounds hbounds ht hpairs hrecords hfigures
    · exact .of_scores hscores hpairs hrecords hfigures
  · obtain ⟨summary', hsummary', hfigures'⟩ := Summary.ofRecords_figures records'
    refine ⟨summary', hsummary', ?_⟩
    rw [hfigures, hfigures']
    exact Figures.of_perm (hperm.map _) ((hperm.filter _).map _)

/-- Two pairs of which one is beyond the threshold. -/
theorem summary_of_run_kitten :
    let o : MetricOptions := { threshold := .int 2 }
    let pairs : List Pair := [⟨none, "frog", "fog"⟩, ⟨none, "kitten", "sitting"⟩]
    o.Finite ∧ ∃ (r : Runner Float) (records : List (Record Float)) (summary : Summary Rat),
      Runner.make Registry.builtin "levenshtein" false o = .ok r ∧ (∀ p ∈ pairs, r.Fits p) ∧
      (∀ s, ((runPairs r pairs none).run s).1 = .ok records) ∧
      Summary.ofRecords (records.map Record.toValue) = .ok summary ∧
      summary.exceededRate = some (1 / 2) := by
  intro o pairs
  have ho : o.Finite := by
    have hscaling : Scalar.exact Match.defaultScaling
        = .ratio 7205759403792794 72057594037927936 := by decide +kernel
    refine ⟨?_, ?_, ?_⟩
    · intro s hs
      exact ⟨2, (Option.some.inj hs).symm⟩
    · intro s hs
      obtain rfl := Option.some.inj hs
      exact ⟨_, .real ⟨_, _, hscaling, by norm_num, rfl⟩⟩
    · intro s hs
      obtain rfl := Option.some.inj hs
      exact ⟨_, .whole _⟩
  have hr := runner_bounded (K := Float) false 2
  have hpairs : ∀ p ∈ pairs, p.left.toList.length ≤ Edit.unreachable ∧
      p.right.toList.length ≤ Edit.unreachable := by decide
  obtain ⟨records, -, hrecords⟩ := records_bounded (K := Float) 2 false hpairs 1
  let s : Session := {
    store := ⟨[], []⟩, journal := .silent, screen := [], now := ⟨2024, 5, 6, 7, 8, 9, 0⟩ }
  obtain ⟨summary, hsummary, hreports, -⟩ := summary_of_run ho hr hpairs
    (s := s) (Prod.ext ((runPairs_none _ pairs s).trans hrecords) rfl)
  refine ⟨ho, _, _, summary, hr, hpairs,
    fun s => (runPairs_none _ pairs s).trans hrecords, hsummary, ?_⟩
  obtain ⟨t, ht, -, hrate⟩ := hreports.bounded rfl
  obtain rfl : 2 = t := Int.ofNat.inj (Score.whole.inj (Option.some.inj ht))
  obtain ⟨rate, hsome, hproduct⟩ := hrate (by decide)
  have hbeyond : (pairs.countP fun p => decide (2 < textDistance (foldedIf false p.left)
      (foldedIf false p.right))) = 1 := by decide +kernel
  rw [hreports.count] at hproduct
  replace hproduct : rate * (2 : Nat) = (1 : Nat) := hproduct.trans (congrArg Nat.cast hbeyond)
  rw [hsome]
  refine congrArg some ?_
  push_cast at hproduct
  linarith

end Batch

end Likeness
