import Likeness.Command.Program
import Likeness.Proofs.Command.Scoring
import Likeness.Proofs.Settings.Range
import Likeness.Proofs.Statistics.Mean

/-! # Scoring under accepted settings

    Settings that were read from a file have passed the checks that the metrics make
    again.  So a command that scores texts under them can fail only before it
    scores: the name of its metric or its threshold is a bad value
    (`Scoring.metric_fault`).  All texts have a score then, and the score is bounded
    (`Scoring.exists_score`). -/

namespace Likeness

/-! ## Bounded scores -/

namespace Score

theorem moderate_whole {n : Int} (h : n.natAbs ≤ ceiling) :
    (Score.whole n : Score Float).Moderate := by
  rintro num den ⟨⟩
  exact ⟨Nat.one_pos, (Nat.one_mul _).symm ▸ h⟩

theorem moderate_within {x : Float} (h : Scalar.Within x 1) : (Score.real x).Moderate := by
  intro num den hexact
  obtain ⟨a, ⟨num', den', hexact', hden, rfl⟩, h0, h1⟩ := h
  obtain ⟨rfl, rfl⟩ := Decimal.Exact.ratio.inj (hexact.symm.trans hexact')
  have hpos : (0 : ℚ) < den := by exact_mod_cast hden
  rw [div_le_one hpos] at h1
  have hle : num ≤ (den : Int) := by exact_mod_cast h1
  have hnonneg : 0 ≤ num := by
    have hmul := mul_nonneg h0 hpos.le
    rw [div_mul_cancel₀ _ hpos.ne'] at hmul
    exact_mod_cast hmul
  refine ⟨hden, ?_⟩
  have hceiling : den * 1 ≤ den * ceiling := Nat.mul_le_mul_left den (by decide)
  show num.natAbs ≤ den * ceiling
  omega

theorem moderate_nan {x : Float} (h : Scalar.exact x = .nan) : (Score.real x).Moderate := by
  intro num den hexact
  exact nomatch h.symm.trans hexact

/-- A matrix can hold a bounded score, if that of a distance is an integer of 64 bits. -/
theorem Moderate.held {s : Score Float} (h : s.Moderate) {higherIsBetter : Bool}
    (hwhole : higherIsBetter = false → ∃ n : Int, s = .whole n ∧ n.natAbs ≤ Edit.unreachable) :
    ∃ c, Matrix.held higherIsBetter s = .ok c := by
  cases higherIsBetter with
  | false =>
      obtain ⟨n, rfl, hn⟩ := hwhole rfl
      exact ⟨_, Matrix.held_whole hn⟩
  | true =>
      cases s with
      | real x => exact ⟨_, rfl⟩
      | whole n =>
          obtain ⟨x, hx⟩ := Scalar.ofInt?_double
            (lt_of_le_of_lt (Statistics.Moderate.whole_le h) (by decide))
          exact ⟨.real x, by rw [Matrix.held, hx]; rfl⟩

end Score

/-! ## Accepted settings -/

/-- Settings that a mapping describes, or those that none was given for. -/
def Settings.Accepted (s : Settings) : Prop := ∃ v, Settings.read Float v = .ok s

theorem Settings.accepted_default : ({} : Settings).Accepted := by
  have hcheck : (({} : Settings).checkBoost Float).toBool = true := by decide +kernel
  refine ⟨.dict [], ?_⟩
  show (({} : Settings).checkBoost Float >>= fun _ => .ok ({} : Settings)) = .ok {}
  cases hboost : ({} : Settings).checkBoost Float with
  | ok => rfl
  | error e =>
      rw [hboost] at hcheck
      exact nomatch hcheck

/-- A text with fewer characters than can be counted, also when the folding of case makes
    three of each. -/
def Short (s : String) : Prop := 3 * s.toList.length ≤ Edit.unreachable

instance (s : String) : Decidable (Short s) :=
  inferInstanceAs (Decidable (3 * s.toList.length ≤ Edit.unreachable))

theorem Short.length_le {s : String} (h : Short s) : s.toList.length ≤ Edit.unreachable :=
  (Nat.le_mul_of_pos_left _ (by decide)).trans h

theorem Short.folded {s : String} (h : Short s) (casefold : Bool) :
    (foldedIf casefold s).toList.length ≤ Edit.unreachable := by
  cases casefold with
  | false => exact h.length_le
  | true =>
      show (String.ofList (Text.fold s.toList)).toList.length ≤ _
      rw [String.toList_ofList]
      exact (Text.length_fold_le s.toList).trans h

namespace Scoring

variable {s : Settings} {asked : Option String} {bound : Option Int} {m : Metric Float} {e : Fault}

/-- A threshold is refused when it is negative. -/
theorem bounded_make (t : Int) :
    (MetricKind.bounded (K := Float)).make [("threshold", .int t)]
      = if t < 0 then .error (.negativeThreshold (Value.int t).plain)
        else .ok (.boundedLevenshtein ⟨.whole t, (Value.int t).plain⟩) := by
  have hnegative : (Score.whole t : Score Float).isNegative = decide (t < 0) := rfl
  show (if (Score.whole t : Score Float).isNegative then _ else _) = _
  rw [hnegative]
  by_cases ht : t < 0
  · rw [if_pos ht, if_pos (decide_eq_true ht)]
  · rw [if_neg ht, if_neg fun h => ht (of_decide_eq_true h)]
    rfl

/-- A metric that cannot be made was asked for by a bad value. -/
theorem metric_fault (h : metric (K := Float) Registry.builtin s asked bound = .error e) :
    e.isBadValue = true := by
  unfold metric Registry.make at h
  dsimp only at h
  generalize chosen s asked bound = name at h
  cases hkind : (Registry.builtin (K := Float)).find? name with
  | none =>
      rw [hkind] at h
      cases h
      rfl
  | some kind =>
      rw [hkind] at h
      obtain ⟨rfl, rfl⟩ | ⟨rfl, rfl⟩ | ⟨rfl, rfl⟩ | ⟨rfl, rfl⟩ | ⟨rfl, rfl⟩ :=
        Registry.find?_builtin hkind
      · exact nomatch h
      · cases bound with
        | none =>
            cases h
            rfl
        | some t =>
            have hmake := (bounded_make t).symm.trans h
            split_ifs at hmake
            cases hmake
            rfl
      · exact nomatch h
      · exact nomatch h
      · exact nomatch h

/-- **ALL TEXTS HAVE A SCORE** under accepted settings, and it is bounded.  That of a distance
    is an integer of 64 bits. -/
theorem exists_score (hs : s.Accepted)
    (hm : metric (K := Float) Registry.builtin s asked bound = .ok m) {x y : String}
    (hx : x.toList.length ≤ Edit.unreachable) (hy : y.toList.length ≤ Edit.unreachable) :
    ∃ score, m.score (.text x) (.text y) = .ok score ∧ score.Moderate ∧
      (m.higherIsBetter = false → ∃ n : Int, score = .whole n ∧ n.natAbs ≤ Edit.unreachable) := by
  have hdistance : textDistance x y ≤ Edit.unreachable := textDistance_le hx hy
  have hceiling : Edit.unreachable ≤ Score.ceiling := by decide
  have hjaro : Scalar.Within (textJaro x y : Float) 1 := textJaro_within hx hy
  unfold metric at hm
  dsimp only at hm
  generalize chosen s asked bound = name at hm
  obtain ⟨kind, hkind, hmake⟩ := Registry.make_eq_ok hm
  obtain ⟨rfl, rfl⟩ | ⟨rfl, rfl⟩ | ⟨rfl, rfl⟩ | ⟨rfl, rfl⟩ | ⟨rfl, rfl⟩ :=
    Registry.find?_builtin hkind
  · cases hmake
    exact ⟨_, levenshtein_texts x y, Score.moderate_whole (hdistance.trans hceiling),
      fun _ => ⟨_, rfl, hdistance⟩⟩
  · cases bound with
    | none => exact nomatch hmake
    | some t =>
        have hbounded := (bounded_make t).symm.trans hmake
        split_ifs at hbounded with ht
        obtain rfl := Except.ok.inj hbounded
        obtain ⟨n, rfl⟩ := Int.eq_ofNat_of_zero_le (not_lt.mp ht)
        have hsize := natAbs_within_le hdistance (textDistance x y ≤ n)
        exact ⟨_, boundedLevenshtein_texts hx hy rfl, Score.moderate_whole (hsize.trans hceiling),
          fun _ => ⟨_, rfl, hsize⟩⟩
  · cases hmake
    exact ⟨_, jaro_texts x y, Score.moderate_within hjaro, fun h => nomatch h⟩
  · obtain ⟨v, hv⟩ := hs
    obtain ⟨p, hp, hboost⟩ := Settings.exists_winkler (K := Float) hv
    obtain rfl := Except.ok.inj (hm.symm.trans hboost)
    obtain ⟨z, hz, hrange⟩ := hp.exists_raise hjaro (sharedLength_lt hx y)
    refine ⟨.real z, ?_, hrange.elim Score.moderate_within Score.moderate_nan, fun h => nomatch h⟩
    rw [jaroWinkler_texts hp.check_eq_ok, hz]
    rfl
  · cases hmake
    refine ⟨_, fuzzy_texts x y, Score.moderate_whole ?_, fun h => nomatch h⟩
    exact (Match.subsequenceScore_le x.toList y.toList).trans
      ((Nat.mul_le_mul_left 9 hy).trans (by decide))

/-! ## The commands -/

/-- Two texts are refused for a bad value only. -/
theorem ofTexts_fault {left right : String} (hs : s.Accepted) (hleft : Short left)
    (hright : Short right)
    (h : ofTexts (K := Float) Registry.builtin s asked bound left right = .error e) :
    e.isBadValue = true := by
  unfold ofTexts at h
  cases hm : metric (K := Float) Registry.builtin s asked (threshold? s bound) with
  | error e' =>
      rw [hm] at h
      cases h
      exact metric_fault hm
  | ok m =>
      rw [hm] at h
      obtain ⟨score, hscore, -⟩ :=
        exists_score hs hm (hleft.folded s.casefold) (hright.folded s.casefold)
      exact nomatch h.symm.trans hscore

/-- Items are refused for a bad value only: a matrix can hold all their scores. -/
theorem ofItems_fault {items : List String} (hs : s.Accepted) (hitems : ∀ i ∈ items, Short i)
    (h : ofItems (K := Float) Registry.builtin s asked items = .error e) :
    e.isBadValue = true := by
  unfold ofItems at h
  cases hm : metric (K := Float) Registry.builtin s asked s.threshold? with
  | error e' =>
      rw [hm] at h
      cases h
      exact metric_fault hm
  | ok m =>
      rw [hm] at h
      obtain ⟨rows, hrows⟩ : ∃ rows, Matrix.pairwise m (items.map .text) = .ok rows := by
        refine Matrix.exists_pairwise ?_
        intro a ha b hb
        obtain ⟨x, hx, rfl⟩ := List.mem_map.mp ha
        obtain ⟨y, hy, rfl⟩ := List.mem_map.mp hb
        obtain ⟨score, hscore, hmoderate, hwhole⟩ :=
          exists_score hs hm (hitems x hx).length_le (hitems y hy).length_le
        obtain ⟨c, hc⟩ := hmoderate.held hwhole
        exact ⟨c, by rw [Matrix.cell, hscore]; exact hc⟩
      cases h.symm.trans hrows

theorem runner_fault (h : runner (K := Float) Registry.builtin s asked bound = .error e) :
    e.isBadValue = true := by
  obtain ⟨name, bounded, hrunner⟩ := runner_eq (K := Float) Registry.builtin s asked bound
  rw [hrunner] at h
  exact metric_fault (map_eq_error h)

/-- A runner has the name of one of the metrics that are known. -/
theorem runner_name {r : Runner Float} (h : runner Registry.builtin s asked bound = .ok r) :
    r.name ∈ (Registry.builtin (K := Float)).sortedNames := by
  obtain ⟨m, hm, hr⟩ := bind_eq_ok h
  obtain rfl := Except.ok.inj hr
  obtain ⟨kind, hkind, -⟩ := Registry.make_eq_ok hm
  exact Registry.mem_sortedNames hkind

/-- A runner finds the records of all pairs, with bounded scores. -/
theorem runner_records {r : Runner Float} (hs : s.Accepted)
    (hr : runner Registry.builtin s asked bound = .ok r) {pairs : List Pair}
    (hpairs : ∀ q ∈ pairs, Short q.left ∧ Short q.right) (place : Nat) :
    ∃ records, r.records place pairs = .ok records ∧
      ∀ record ∈ records, record.score.Moderate := by
  obtain ⟨name, bounded, hrunner⟩ := runner_eq (K := Float) Registry.builtin s asked bound
  rw [hrunner] at hr
  obtain ⟨m, hm, rfl⟩ := map_eq_ok hr
  have hrecord : ∀ q ∈ pairs.zipIdx place,
      ∃ record, Runner.record ⟨name, m, s.casefold, bounded⟩ q.2 q.1 = .ok record ∧
        record.score.Moderate := by
    intro q hq
    obtain ⟨hleft, hright⟩ := hpairs q.1 (List.fst_mem_of_mem_zipIdx hq)
    obtain ⟨score, hscore, hmoderate, -⟩ :=
      exists_score hs hm (hleft.folded s.casefold) (hright.folded s.casefold)
    refine ⟨⟨Runner.pairId q.2 q.1, q.1.left, q.1.right, name, score,
      if bounded then some (isSentinel score) else none⟩, ?_, hmoderate⟩
    rw [Runner.record, Runner.score, hscore]
    rfl
  exact exists_mapM_forall hrecord

end Scoring

end Likeness
