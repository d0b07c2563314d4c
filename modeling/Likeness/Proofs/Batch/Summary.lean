import Likeness.Batch.Summary
import Likeness.Batch.Record
import Likeness.Proofs.Results
import Likeness.Proofs.Statistics.Mean
import Likeness.Proofs.Statistics.Sorted
import Mathlib.Algebra.Order.BigOperators.Group.List
import Mathlib.Algebra.Order.Field.Rat

/-! # What a summary is made of

    The statistics of a summary are scores of its records, as they were found, or
    scores that are computed from them; nothing else enters it.

    Over exact fractions a summary is known by its figures.  These are made from two lists:
    the marks of the records, which say whether a bound was exceeded, and the scores of the
    records that do not say so (`Summary.ofRecords_figures`).  Figures do not depend on the
    order of the lists (`Figures.of_perm`), and the least and the greatest score enclose the
    mean and the median (`Figures.exists_enclosed`). -/

namespace Likeness.Summary

variable {K : Type} [Scalar K]

/-- A value that is the score of one of the records. -/
def IsScore (records : List Value) (v : Value) : Prop :=
  ∃ record ∈ records, recordField "score" record = .ok v

theorem scoreOf?_eq_some {record exceeded v : Value} (h : scoreOf? record exceeded = some v) :
    recordField "score" record = .ok v := by
  unfold scoreOf? at h
  split at h
  · exact nomatch h
  · exact nomatch h
  · rename_i score hscore hfield
    split_ifs at h
    exact Option.some.inj h ▸ hfield

theorem scoreOf?_ne_null {record exceeded v : Value} (h : scoreOf? record exceeded = some v) :
    v ≠ .null := by
  unfold scoreOf? at h
  split at h
  · exact nomatch h
  · exact nomatch h
  · rename_i score hscore hfield
    split_ifs at h
    rintro rfl
    exact hscore (Option.some.inj h)

/-- What is found in a list of scores is the score of a record. -/
theorem isScore_of_mem {records flags : List Value} {scores : List (Value × Score K)}
    (h : ((records.zip flags).filterMap fun r => scoreOf? r.1 r.2).mapM
      (fun v => (number (K := K) v).map fun s => (v, s)) = .ok scores)
    {found : Value × Score K} (hfound : found ∈ scores) : IsScore records found.1 := by
  obtain ⟨v, hv, hnumber⟩ := mem_of_mapM h hfound
  obtain ⟨s, -, rfl⟩ := map_eq_ok hnumber
  obtain ⟨r, hr, hscore⟩ := List.mem_filterMap.mp hv
  exact ⟨r.1, (List.of_mem_zip hr).1, scoreOf?_eq_some hscore⟩

theorem medianOf_eq_inl {scores : List (Value × Score K)} {v : Value}
    (h : medianOf scores = .ok (some (.inl v))) : ∃ s, (v, s) ∈ scores := by
  unfold medianOf at h
  split at h
  · exact nomatch h
  · rename_i x hmiddle
    obtain rfl : x.1 = v := by
      cases h
      rfl
    exact ⟨x.2, Statistics.middle?_one_mem hmiddle⟩
  · obtain ⟨m, -, hm⟩ := map_eq_ok h
    exact nomatch hm

/-- What a summary reports as it was found: its least and its greatest score, and its median
    if that is a single one. -/
theorem ofRecords_scores {records : List Value} {summary : Summary K}
    (h : ofRecords records = .ok summary) :
    ∃ flags, ∃ scores : List (Value × Score K),
      (((records.zip flags).filterMap fun r => scoreOf? r.1 r.2).mapM
        (fun v => (number (K := K) v).map fun s => (v, s)) = .ok scores) ∧
      (∀ v, summary.least = some v → ∃ s, (v, s) ∈ scores) ∧
      (∀ v, summary.greatest = some v → ∃ s, (v, s) ∈ scores) ∧
      ∀ v, summary.median = some (.inl v) → ∃ s, (v, s) ∈ scores := by
  obtain ⟨flags, -, h⟩ := bind_eq_ok h
  obtain ⟨scores, hscores, h⟩ := bind_eq_ok h
  obtain ⟨mean, h⟩ := ite_bind_eq_ok h
  obtain ⟨median, hmedian, h⟩ := bind_eq_ok h
  obtain ⟨rate, h⟩ := ite_bind_eq_ok h
  cases h
  refine ⟨flags, scores, hscores, ?_, ?_, ?_⟩
  · intro v hv
    obtain ⟨found, hleast, rfl⟩ := Option.map_eq_some_iff.mp hv
    exact ⟨found.2, Statistics.least?_mem hleast⟩
  · intro v hv
    obtain ⟨found, hgreatest, rfl⟩ := Option.map_eq_some_iff.mp hv
    exact ⟨found.2, Statistics.greatest?_mem hgreatest⟩
  · rintro v rfl
    exact medianOf_eq_inl hmedian

/-- **A SUMMARY REPORTS SCORES OF ITS RECORDS**: its least and its greatest score, and its
    median if that is a single one. -/
theorem ofRecords_found {records : List Value} {summary : Summary K}
    (h : ofRecords records = .ok summary) :
    (∀ v, summary.least = some v → IsScore records v) ∧
      (∀ v, summary.greatest = some v → IsScore records v) ∧
      ∀ v, summary.median = some (.inl v) → IsScore records v := by
  obtain ⟨flags, scores, hscores, hleast, hgreatest, hmedian⟩ := ofRecords_scores h
  have hfound : ∀ {v : Value}, (∃ s, (v, s) ∈ scores) → IsScore records v :=
    fun ⟨_, hs⟩ => isScore_of_mem hscores hs
  exact ⟨fun v hv => hfound (hleast v hv), fun v hv => hfound (hgreatest v hv),
    fun v hv => hfound (hmedian v hv)⟩

/-- What a summary reports as it was found is a number. -/
theorem ofRecords_numbers {records : List Value} {summary : Summary K}
    (h : ofRecords records = .ok summary) :
    (∀ v, summary.least = some v → v.number?.isSome = true) ∧
      (∀ v, summary.greatest = some v → v.number?.isSome = true) ∧
      ∀ v, summary.median = some (.inl v) → v.number?.isSome = true := by
  obtain ⟨flags, scores, hscores, hleast, hgreatest, hmedian⟩ := ofRecords_scores h
  have hfound : ∀ {v : Value}, (∃ s, (v, s) ∈ scores) → v.number?.isSome = true := by
    rintro v ⟨s, hs⟩
    obtain ⟨w, -, hw⟩ := mem_of_mapM hscores hs
    obtain ⟨t, hnumber, heq⟩ := map_eq_ok hw
    obtain ⟨rfl, rfl⟩ := Prod.mk.inj heq
    cases hv : w.number? with
    | none =>
        rw [number, hv] at hnumber
        exact nomatch hnumber
    | some x => rfl
  exact ⟨fun v hv => hfound (hleast v hv), fun v hv => hfound (hgreatest v hv),
    fun v hv => hfound (hmedian v hv)⟩

/-- The scores of records are whole or real. -/
theorem isScore_toValue {records : List (Record Float)} {v : Value}
    (h : IsScore (records.map Record.toValue) v) : ∃ r ∈ records, v = .ofScore r.score := by
  obtain ⟨_, hrecord, hfield⟩ := h
  obtain ⟨r, hr, rfl⟩ := List.mem_map.mp hrecord
  exact ⟨r, hr, (Except.ok.inj hfield).symm⟩

/-! ## Summaries that are found -/

theorem exists_medianOf {scores : List (Value × Score Float)}
    (h : ∀ x ∈ scores, x.2.Moderate) : ∃ m, medianOf scores = .ok m := by
  unfold medianOf
  split
  · exact ⟨_, rfl⟩
  · exact ⟨_, rfl⟩
  · rename_i x y hmiddle
    obtain ⟨hx, hy⟩ := Statistics.middle?_two_mem hmiddle
    obtain ⟨m, hm⟩ := Statistics.exists_midpoint (h x hx) (h y hy)
    exact ⟨_, congrArg (Except.map _) hm⟩

theorem exists_part {count whole : Nat} (hwhole : 0 < whole) (h : count ≤ whole) :
    ∃ x : Float, part count whole = .ok x := by
  have hbound : (count : Int).natAbs < whole * twoTo 200 := by
    rw [Int.natAbs_natCast]
    exact Nat.lt_of_le_of_lt h ((Nat.lt_mul_iff_one_lt_right hwhole).mpr (by decide))
  obtain ⟨x, hx⟩ := Scalar.nearest?_double hwhole hbound
  exact ⟨x, by rw [part, hx]; rfl⟩

/-- Values that are bounded numbers are all taken as scores. -/
theorem exists_numbers {found : List Value}
    (h : ∀ v ∈ found, ∃ s : Score Float, number v = .ok s ∧ s.Moderate) :
    ∃ scores, found.mapM (fun v => (number (K := Float) v).map fun s => (v, s)) = .ok scores ∧
      ∀ x ∈ scores, x.2.Moderate := by
  refine exists_mapM_forall ?_
  intro v hv
  obtain ⟨s, hs, hmoderate⟩ := h v hv
  exact ⟨(v, s), by rw [hs]; rfl, hmoderate⟩

theorem exists_meanOf {scores : List (Value × Score Float)} (h : ∀ x ∈ scores, x.2.Moderate)
    (hne : ¬ scores.isEmpty = true) : ∃ m, Statistics.mean (scores.map (·.2)) = .ok m := by
  refine Statistics.exists_mean (fun hnil => hne ?_) ?_
  · rw [List.isEmpty_iff]
    exact List.map_eq_nil_iff.mp hnil
  · intro s hs
    obtain ⟨x, hx, rfl⟩ := List.mem_map.mp hs
    exact h x hx

theorem exists_rate {flags : List Value} (h : ¬ flags.all Value.isNull = true) :
    ∃ x : Float, part (flags.countP Value.holds) flags.length = .ok x := by
  refine exists_part ?_ List.countP_le_length
  rw [List.length_pos_iff]
  rintro rfl
  exact h rfl

/-- **RECORDS WITH BOUNDED SCORES HAVE A SUMMARY**. -/
theorem exists_ofRecords {records : List Value}
    (hflags : ∀ r ∈ records, ∃ v, recordField "exceeded" r = .ok v)
    (hscores : ∀ v, IsScore records v → v ≠ .null →
      ∃ s : Score Float, number v = .ok s ∧ s.Moderate) :
    ∃ summary : Summary Float, ofRecords records = .ok summary := by
  obtain ⟨flags, hflags, hlength⟩ := mapM_total (P := fun _ _ => True)
    fun r hr => (hflags r hr).imp fun v hv => ⟨hv, trivial⟩
  have hfound : ∀ v ∈ (records.zip flags).filterMap fun r => scoreOf? r.1 r.2,
      ∃ s : Score Float, number v = .ok s ∧ s.Moderate := by
    intro v hv
    obtain ⟨r, hr, hscore⟩ := List.mem_filterMap.mp hv
    exact hscores v ⟨r.1, (List.of_mem_zip hr).1, scoreOf?_eq_some hscore⟩
      (scoreOf?_ne_null hscore)
  obtain ⟨scores, hnumbers, hmoderate⟩ := exists_numbers hfound
  obtain ⟨median, hmedian⟩ := exists_medianOf hmoderate
  unfold ofRecords
  rw [hflags]
  simp only [bind, Except.bind]
  rw [hnumbers, hlength.length_eq]
  dsimp only
  rw [hmedian]
  split_ifs with hempty hnull hnull
  · exact ⟨_, rfl⟩
  · obtain ⟨x, hx⟩ := exists_rate hnull
    rw [hx]
    exact ⟨_, rfl⟩
  · obtain ⟨m, hm⟩ := exists_meanOf hmoderate hempty
    rw [hm]
    exact ⟨_, rfl⟩
  · obtain ⟨m, hm⟩ := exists_meanOf hmoderate hempty
    obtain ⟨x, hx⟩ := exists_rate hnull
    rw [hm, hx]
    exact ⟨_, rfl⟩

end Likeness.Summary

namespace Likeness

/-! ## Figures -/

/-- The figures of a summary, as numbers. -/
@[ext]
structure Figures where
  pairs : Nat
  scored : Nat
  mean : Option ℚ
  median : Option ℚ
  least : Option ℚ
  greatest : Option ℚ
  exceededRate : Option ℚ

namespace Figures

/-- The number in the middle of others, or half way between the two there. -/
def middle? (values : List ℚ) : Option ℚ :=
  let sorted := values.mergeSort
  let half := sorted.length / 2
  if sorted.length % 2 = 1 then sorted[half]?
  else Option.map₂ (fun x y => (x + y) / 2) sorted[half - 1]? sorted[half]?

/-- The figures of the numbers that were scored, and of the marks of all pairs. -/
def of (marks : List (Option Bool)) (values : List ℚ) : Figures where
  pairs := marks.length
  scored := values.length
  mean := if values.isEmpty then none else some (values.sum / values.length)
  median := middle? values
  least := values.min?
  greatest := values.max?
  exceededRate := if marks.all Option.isNone then none
    else some ((marks.count (some true) : ℚ) / marks.length)

/-- The order of what was found does not matter. -/
theorem of_perm {marks marks' : List (Option Bool)} {values values' : List ℚ}
    (hmarks : marks.Perm marks') (hvalues : values.Perm values') :
    of marks values = of marks' values' := by
  have hsorted : values.mergeSort = values'.mergeSort :=
    ((List.mergeSort_perm _ _).trans (hvalues.trans (List.mergeSort_perm _ _).symm)).eq_of_pairwise
      (fun _ _ _ _ => le_antisymm) (List.pairwise_mergeSort' (· ≤ ·) _)
      (List.pairwise_mergeSort' (· ≤ ·) _)
  have hleast : values.min? = values'.min? := Option.ext fun a => by
    simp only [List.min?_eq_some_iff, hvalues.mem_iff]
  have hgreatest : values.max? = values'.max? := Option.ext fun a => by
    simp only [List.max?_eq_some_iff, hvalues.mem_iff]
  unfold of middle?
  rw [hsorted, hleast, hgreatest, hmarks.length_eq, hvalues.length_eq, hvalues.sum_eq,
    hvalues.isEmpty_eq, hmarks.all_eq, hmarks.count_eq]

/-- When every pair has a mark, the part of those that exceed the bound is known. -/
theorem rate_of_marks (exceeded : List Bool) (hne : exceeded ≠ []) (values : List ℚ) :
    ∃ rate, (of (exceeded.map some) values).exceededRate = some rate ∧
      rate * exceeded.length = exceeded.count true := by
  have hpos : (exceeded.length : ℚ) ≠ 0 := by
    exact_mod_cast (List.length_pos_iff.mpr hne).ne'
  have hmarked : ¬ (exceeded.map some).all Option.isNone = true := by
    obtain ⟨b, hb⟩ := List.exists_mem_of_ne_nil exceeded hne
    exact fun hall => nomatch List.all_eq_true.mp hall (some b) (List.mem_map_of_mem hb)
  refine ⟨_, if_neg hmarked, ?_⟩
  rw [List.length_map, div_mul_cancel₀ _ hpos,
    List.count_map_of_injective exceeded some (Option.some_injective Bool)]

/-- The least and the greatest figure enclose the others. -/
structure Enclosed (f : Figures) (low average middle high : ℚ) : Prop where
  least : f.least = some low
  mean : f.mean = some average
  median : f.median = some middle
  greatest : f.greatest = some high
  mean_within : low ≤ average ∧ average ≤ high
  median_within : low ≤ middle ∧ middle ≤ high

/-- What is in the middle is within all bounds on the numbers. -/
theorem exists_middle {values : List ℚ} (hne : values ≠ []) {low high : ℚ}
    (h : ∀ v ∈ values, low ≤ v ∧ v ≤ high) : ∃ m, middle? values = some m ∧ low ≤ m ∧ m ≤ high := by
  have hperm : values.mergeSort.Perm values := List.mergeSort_perm _ _
  unfold middle?
  generalize values.mergeSort = sorted at hperm ⊢
  have hpos : 0 < sorted.length := hperm.length_eq ▸ List.length_pos_iff.mpr hne
  have hwithin : ∀ {i : Nat} (hi : i < sorted.length), low ≤ sorted[i] ∧ sorted[i] ≤ high :=
    fun hi => h _ (hperm.mem_iff.mp (List.getElem_mem hi))
  have hhalf : sorted.length / 2 < sorted.length := by omega
  dsimp only
  split_ifs
  · exact ⟨_, List.getElem?_eq_getElem hhalf, hwithin hhalf⟩
  · have hbefore : sorted.length / 2 - 1 < sorted.length := by omega
    obtain ⟨hlow, hhigh⟩ := hwithin hbefore
    obtain ⟨hlow', hhigh'⟩ := hwithin hhalf
    refine ⟨(sorted[sorted.length / 2 - 1] + sorted[sorted.length / 2]) / 2, ?_, ?_, ?_⟩
    · rw [List.getElem?_eq_getElem hbefore, List.getElem?_eq_getElem hhalf, Option.map₂_some_some]
    · linarith
    · linarith

theorem exists_enclosed (marks : List (Option Bool)) {values : List ℚ} (hne : values ≠ []) :
    ∃ low average middle high, (of marks values).Enclosed low average middle high := by
  obtain ⟨low, hlow⟩ := Option.isSome_iff_exists.mp (List.isSome_min?_of_ne_nil hne)
  obtain ⟨high, hhigh⟩ := Option.isSome_iff_exists.mp (List.isSome_max?_of_ne_nil hne)
  have hbelow := (List.min?_eq_some_iff.mp hlow).2
  have habove := (List.max?_eq_some_iff.mp hhigh).2
  obtain ⟨middle, hmiddle, hwithin⟩ := exists_middle hne fun v hv => ⟨hbelow v hv, habove v hv⟩
  have hpos : (0 : ℚ) < values.length := by exact_mod_cast List.length_pos_iff.mpr hne
  refine ⟨low, values.sum / values.length, middle, high, hlow, ?_, hmiddle, hhigh, ⟨?_, ?_⟩, hwithin⟩
  · exact if_neg (mt List.isEmpty_iff.mp hne)
  · rw [le_div_iff₀ hpos, mul_comm, ← nsmul_eq_mul]
    exact List.card_nsmul_le_sum values low hbelow
  · rw [div_le_iff₀ hpos, mul_comm, ← nsmul_eq_mul]
    exact List.sum_le_card_nsmul values high habove

end Figures

/-! ## The figures of records -/

/-- The number that a value is. -/
def Value.quantity? (v : Value) : Option ℚ := v.number?.map Score.value

theorem Value.quantity?_ofScore (s : Score Float) : (ofScore s).quantity? = some s.value := by
  cases s with
  | whole n => rfl
  | real x => rfl

/-- A score that was read denotes the same number as a fraction. -/
theorem Score.value_ofFloat (s : Score Float) : (ofFloat s : Score Rat).value = s.value := by
  cases s with
  | whole n => rfl
  | real x => exact value_real _

namespace Record

/-- The record says that the bound was exceeded. -/
def isExceeded (r : Record Float) : Bool := r.exceeded == some true

/-- The records that do not say so. -/
def kept (records : List (Record Float)) : List (Record Float) :=
  records.filter fun r => !r.isExceeded

/-- What was scored and did not exceed the bound, as numbers. -/
def values (records : List (Record Float)) : List ℚ := (kept records).map fun r => r.score.value

theorem length_kept (records : List (Record Float)) :
    (kept records).length + records.countP isExceeded = records.length := by
  rw [kept, ← List.countP_eq_length_filter, Nat.add_comm,
    List.length_eq_countP_add_countP isExceeded]
  simp

end Record

namespace Summary

open Record (kept values)

/-- The figures of a summary over fractions. -/
def figures (s : Summary Rat) : Figures where
  pairs := s.pairs
  scored := s.scored
  mean := s.mean.map Score.value
  median := s.median.bind (Sum.elim Value.quantity? fun m => some m.value)
  least := s.least.bind Value.quantity?
  greatest := s.greatest.bind Value.quantity?
  exceededRate := s.exceededRate

/-- A record's score as it is found in its entries. -/
def found (r : Record Float) : Value × Score Rat := (.ofScore r.score, .ofFloat r.score)

theorem below_fraction (v w : Value × Score Rat) :
    below v w = decide (v.2.value < w.2.value) :=
  v.2.denotes_value.below w.2.denotes_value

theorem values_found (records : List (Record Float)) :
    ((kept records).map found).map (fun x => x.2.value) = values records := by
  rw [List.map_map]
  exact List.map_congr_left fun r _ => Score.value_ofFloat r.score

theorem quantity?_found {records : List (Record Float)} {x : Value × Score Rat}
    (hx : x ∈ records.map found) : x.1.quantity? = some x.2.value := by
  obtain ⟨r, -, rfl⟩ := List.mem_map.mp hx
  rw [found, Value.quantity?_ofScore, Score.value_ofFloat]

/-- The number of one of the scores that were found, if one stands out. -/
theorem bind_quantity? {records : List (Record Float)} {x : Option (Value × Score Rat)}
    (h : ∀ y, x = some y → y ∈ records.map found) :
    (x.map (·.1)).bind Value.quantity? = x.map fun y => y.2.value := by
  cases x with
  | none => rfl
  | some y => exact quantity?_found (h y rfl)

/-- The median of scores that were found is the middle of their numbers. -/
theorem exists_medianOf_fraction (scores : List (Value × Score Rat))
    (h : ∀ x ∈ scores, x.1.quantity? = some x.2.value) :
    ∃ m, medianOf scores = .ok m ∧
      m.bind (Sum.elim Value.quantity? fun m => some m.value)
        = Figures.middle? (scores.map fun x => x.2.value) := by
  have hplace : ∀ i : Nat, ((Statistics.sort below scores)[i]?).map (fun x => x.2.value)
      = (scores.map fun x => x.2.value).mergeSort[i]? :=
    Statistics.getElem?_sort below_fraction scores
  have hlength : (Statistics.sort below scores).length
      = (scores.map fun x => x.2.value).mergeSort.length := by
    rw [← Statistics.sort_keys below_fraction, List.length_map]
  have hmem : ∀ x ∈ Statistics.sort below scores, x.1.quantity? = some x.2.value :=
    fun x hx => h x ((Statistics.sort_perm below scores).mem_iff.mp hx)
  unfold medianOf Statistics.middle? Figures.middle?
  dsimp only
  rw [← hlength]
  generalize Statistics.sort below scores = sorted at hplace hmem ⊢
  split_ifs
  · rw [← hplace]
    cases hx : sorted[sorted.length / 2]? with
    | none => exact ⟨none, rfl, rfl⟩
    | some x => exact ⟨_, rfl, hmem x (List.mem_of_getElem? hx)⟩
  · rw [← hplace, ← hplace]
    cases sorted[sorted.length / 2 - 1]? with
    | none => exact ⟨none, rfl, rfl⟩
    | some x =>
        cases sorted[sorted.length / 2]? with
        | none => exact ⟨none, rfl, rfl⟩
        | some y =>
            obtain ⟨m, hm, hvalue⟩ := Statistics.midpoint_fraction x.2 y.2
            exact ⟨_, congrArg (Except.map _) hm, congrArg some hvalue⟩

/-- The mark of a record, as it is found in its entries. -/
def mark (r : Record Float) : Value := Value.ofOption .bool r.exceeded

theorem mark_holds (r : Record Float) : (mark r).holds = r.isExceeded := by
  unfold mark Record.isExceeded
  cases r.exceeded with
  | none => rfl
  | some b => cases b <;> rfl

theorem mark_isNull (r : Record Float) : (mark r).isNull = r.exceeded.isNone := by
  unfold mark
  cases r.exceeded with
  | none => rfl
  | some b => rfl

theorem scoreOf?_toValue (r : Record Float) :
    scoreOf? r.toValue (mark r) = if r.isExceeded then none else some (.ofScore r.score) := by
  have hfield : recordField "score" r.toValue = .ok (.ofScore r.score) := rfl
  rw [scoreOf?, hfield, mark_holds]
  cases r.score with
  | whole n => rfl
  | real x => rfl

theorem filterMap_scoreOf? (records : List (Record Float)) :
    ((records.map Record.toValue).zip (records.map mark)).filterMap (fun r => scoreOf? r.1 r.2)
      = (kept records).map fun r => .ofScore r.score := by
  induction records with
  | nil => rfl
  | cons r rs ih =>
      rw [List.map_cons, List.map_cons, List.zip_cons_cons, List.filterMap_cons, ih,
        scoreOf?_toValue]
      cases h : r.isExceeded with
      | true => simp [kept, h]
      | false => simp [kept, h]

theorem exists_meanOf_fraction (scores : List (Value × Score Rat)) :
    ∃ mean, (if scores.isEmpty then .ok none
        else (Statistics.mean (scores.map (·.2))).map some : Except Fault (Option (Score Rat)))
        = .ok mean ∧
      mean.map Score.value = if (scores.map fun x => x.2.value).isEmpty then none
        else some ((scores.map fun x => x.2.value).sum / (scores.map fun x => x.2.value).length) := by
  rw [List.isEmpty_map]
  split_ifs with hempty
  · exact ⟨none, rfl, rfl⟩
  · have hne : scores.map (·.2) ≠ [] := fun h => hempty (by simpa using h)
    obtain ⟨m, hm, hvalue⟩ := Statistics.mean_fraction hne
    refine ⟨some m, congrArg (Except.map some) hm, ?_⟩
    rw [Option.map_some, hvalue, List.map_map, List.length_map, List.length_map]
    rfl

/-- The part of the marks that say that the bound was exceeded. -/
theorem exists_rate_fraction (records : List (Record Float)) :
    ∃ rate : Option ℚ, (if (records.map mark).all Value.isNull then .ok none
        else (part ((records.map mark).countP Value.holds) records.length).map some :
          Except Fault (Option ℚ)) = .ok rate ∧
      rate = (Figures.of (records.map Record.exceeded) (values records)).exceededRate := by
  have hnull : (records.map mark).all Value.isNull
      = (records.map Record.exceeded).all Option.isNone := by
    simp only [List.all_map, Function.comp_def, mark_isNull]
  have hcount : (records.map mark).countP Value.holds
      = (records.map Record.exceeded).count (some true) := by
    simp only [List.count, List.countP_map, Function.comp_def, mark_holds, Record.isExceeded]
  rw [hnull, hcount, Figures.of, List.length_map]
  dsimp only
  split_ifs
  · exact ⟨none, rfl, rfl⟩
  · exact ⟨_, rfl, rfl⟩

/-- **THE FIGURES OF RECORDS** are those of the scores that do not exceed the bound, and of the
    marks of all records. -/
theorem ofRecords_figures (records : List (Record Float)) :
    ∃ summary : Summary Rat, ofRecords (records.map Record.toValue) = .ok summary ∧
      summary.figures = .of (records.map Record.exceeded) (values records) := by
  have hmarks : (records.map Record.toValue).mapM (recordField "exceeded")
      = .ok (records.map mark) := by
    rw [List.mapM_map]
    exact mapM_ok fun r _ => rfl
  have hscores : ((kept records).map fun r => Value.ofScore r.score).mapM
      (fun v => (number (K := Rat) v).map fun s => (v, s)) = .ok ((kept records).map found) := by
    rw [List.mapM_map]
    refine mapM_ok fun r _ => ?_
    rw [Function.comp_apply, number, found]
    cases r.score with
    | whole n => rfl
    | real x => rfl
  obtain ⟨mean, hmean, hmeanValue⟩ := exists_meanOf_fraction ((kept records).map found)
  obtain ⟨median, hmedian, hmiddle⟩ := exists_medianOf_fraction ((kept records).map found)
    fun _ hx => quantity?_found hx
  obtain ⟨rate, hrate, hrateValue⟩ := exists_rate_fraction records
  rw [values_found] at hmeanValue hmiddle
  refine ⟨⟨records.length, (kept records).length, mean, median,
    (Statistics.least? below ((kept records).map found)).map (·.1),
    (Statistics.greatest? below ((kept records).map found)).map (·.1), rate⟩, ?_, ?_⟩
  · refine (bind_of_eq_ok hmarks).trans ?_
    dsimp only
    rw [filterMap_scoreOf?, List.length_map]
    refine (bind_of_eq_ok hscores).trans ?_
    refine (ite_bind_of_eq_ok hmean).trans ?_
    refine (bind_of_eq_ok hmedian).trans ?_
    refine (ite_bind_of_eq_ok hrate).trans ?_
    rw [List.length_map]
  · refine Figures.ext (List.length_map _).symm (List.length_map _).symm hmeanValue hmiddle ?_ ?_
      hrateValue
    · show (Option.map _ _).bind _ = (values records).min?
      rw [bind_quantity? fun _ h => Statistics.least?_mem h, Statistics.least?_keys below_fraction,
        values_found]
    · show (Option.map _ _).bind _ = (values records).max?
      rw [bind_quantity? fun _ h => Statistics.greatest?_mem h,
        Statistics.greatest?_keys below_fraction, values_found]

end Summary

end Likeness
