import Likeness.Proofs.Metric.Builtin
import Likeness.Proofs.Results
import Likeness.Ranking
import Mathlib.Order.Lattice

/-! # Rankings by distances

    A stable sort can be described one item at a time: the first item of a list
    goes in front of the items that it is at most (`mergeSort_cons_eq`).  Hence a
    stable sort and a filter commute (`filter_mergeSort`), and equal items stay in the
    order in which they came (`pairwise_mergeSort_stable`).

    The scores of a ranking are of one kind (`rank_one_kind`).  When every score is an
    integer, a ranking is such a sort of integers (`rank_whole`). -/

namespace Likeness.Ranking

/-! ## Stable sorting -/

section Sorting

variable {α : Type} {le : α → α → Bool}

/-- The first item of a list is sorted in behind those that it is not at most, and in
    front of all others. -/
theorem mergeSort_cons_eq (trans : ∀ a b c, le a b → le b c → le a c)
    (total : ∀ a b, le a b || le b a) (a : α) (l : List α) :
    (a :: l).mergeSort le
      = ((l.mergeSort le).filter fun b => !le a b) ++ a :: (l.mergeSort le).filter (le a) := by
  obtain ⟨l₁, l₂, hcons, hrest, hfront⟩ := List.mergeSort_cons trans total a l
  have hsorted := List.pairwise_mergeSort trans total (a :: l)
  rw [hcons] at hsorted
  have hback : ∀ b ∈ l₂, le a b = true :=
    (List.pairwise_cons.mp (List.pairwise_append.mp hsorted).2.1).1
  have hfront' : ∀ b ∈ l₁, le a b = false := by simpa using hfront
  rw [hcons, hrest, List.filter_append, List.filter_append]
  rw [List.filter_eq_self.mpr hfront, List.filter_eq_self.mpr hback]
  rw [List.filter_eq_nil_iff.mpr (by simpa using hback),
    List.filter_eq_nil_iff.mpr (by simpa using hfront')]
  rw [List.append_nil, List.nil_append]

/-- **SORTING AND FILTERING COMMUTE**, for a sort that keeps the order of equal items. -/
theorem filter_mergeSort (trans : ∀ a b c, le a b → le b c → le a c)
    (total : ∀ a b, le a b || le b a) (p : α → Bool) (l : List α) :
    (l.mergeSort le).filter p = (l.filter p).mergeSort le := by
  induction l with
  | nil => simp
  | cons a l ih =>
      cases hp : p a with
      | true =>
          rw [mergeSort_cons_eq trans total, List.filter_cons_of_pos hp,
            mergeSort_cons_eq trans total, ← ih]
          simp only [List.filter_append, List.filter_cons_of_pos hp, List.filter_filter,
            Bool.and_comm]
      | false =>
          -- The item is dropped again wherever it was put, so only what is around it counts.
          obtain ⟨l₁, l₂, hcons, hrest, -⟩ := List.mergeSort_cons trans total a l
          have hdrop : ¬ p a = true := by simp [hp]
          rw [List.filter_cons_of_neg hdrop, ← ih, hcons, hrest]
          simp only [List.filter_append, List.filter_cons_of_neg hdrop]

/-- **A STABLE SORT** puts an item in front of another one when it is at most the other, and
    of two that are equal the one that came before. -/
theorem pairwise_mergeSort_stable (trans : ∀ a b c, le a b → le b c → le a c)
    (total : ∀ a b, le a b || le b a) {before : α → α → Prop} {l : List α}
    (h : l.Pairwise before) :
    (l.mergeSort le).Pairwise fun a b => le a b = true ∧ (le b a = true → before a b) := by
  induction l with
  | nil => simp
  | cons a l ih =>
      obtain ⟨ha, hl⟩ := List.pairwise_cons.mp h
      have hsorted := ih hl
      rw [mergeSort_cons_eq trans total]
      refine List.pairwise_append.mpr ⟨hsorted.filter _, ?_, ?_⟩
      · refine List.pairwise_cons.mpr ⟨?_, hsorted.filter _⟩
        intro b hb
        obtain ⟨hmem, hle⟩ := List.mem_filter.mp hb
        exact ⟨hle, fun _ => ha b (List.mem_mergeSort.mp hmem)⟩
      · -- Whatever is in front of `a` is strictly below it, hence below all behind it.
        intro x hx y hy
        have hfront : le a x = false := by simpa using (List.mem_filter.mp hx).2
        have hxa : le x a = true := by simpa [hfront] using total a x
        rcases List.mem_cons.mp hy with rfl | hy
        · exact ⟨hxa, fun hax => absurd hax (by simp [hfront])⟩
        · have hay : le a y = true := (List.mem_filter.mp hy).2
          refine ⟨trans x a y hxa hay, fun hyx => ?_⟩
          exact absurd (trans a y x hay hyx) (by simp [hfront])

end Sorting

/-! ## The scores of candidates -/

variable {K : Type}

theorem scored_eq {α : Type} {m : Metric K} {query : Value} {candidates : List α}
    {value : α → Value} {score : α → Score K}
    (hscore : ∀ c ∈ candidates, m.score (value c) query = .ok (score c)) :
    scored m query (candidates.map value) = .ok (candidates.map fun c => (value c, score c)) := by
  rw [scored, List.mapM_map]
  refine mapM_ok fun c hc => ?_
  show (m.score (value c) query).map _ = _
  rw [hscore c hc]
  rfl

variable [Scalar K]

/-- Scores of one kind stay as they are. -/
theorem alike_of_kind {whole : Bool} {cs : List (Value × Score K)}
    (h : ∀ c ∈ cs, c.2.isWhole = whole) : alike cs = .ok cs := by
  cases whole with
  | true => exact if_pos (List.all_eq_true.mpr h)
  | false =>
      rw [alike]
      split_ifs
      · rfl
      · have hsame : ∀ c ∈ cs,
            (Match.toScalar? c.2).map (fun x => (c.1, Score.real x)) = .ok (id c) := by
          rintro ⟨v, s⟩ hc
          cases s with
          | whole n => exact nomatch h _ hc
          | real x => rfl
        exact (mapM_ok hsame).trans (congrArg Except.ok (List.map_id cs))

theorem held_of_isWhole {α : Type} {m : Metric K} {query : Value} {candidates : List α}
    {value : α → Value} {score : α → Score K} {whole : Bool}
    (hscore : ∀ c ∈ candidates, m.score (value c) query = .ok (score c) ∧
      (score c).isWhole = whole) :
    (scored m query (candidates.map value)).bind alike
      = .ok (candidates.map fun c => (value c, score c)) := by
  have hwhole : ∀ c ∈ candidates.map fun c => (value c, score c), c.2.isWhole = whole := by
    intro c hc
    obtain ⟨d, hd, rfl⟩ := List.mem_map.mp hc
    exact (hscore d hd).2
  rw [scored_eq fun c hc => (hscore c hc).1]
  exact alike_of_kind hwhole

theorem isWhole_of_alike {cs ds : List (Value × Score K)} (h : alike cs = .ok ds) :
    ∃ whole, ∀ d ∈ ds, d.2.isWhole = whole := by
  rw [alike] at h
  split_ifs at h with hall
  · cases h
    exact ⟨true, List.all_eq_true.mp hall⟩
  · refine ⟨false, fun d hd => ?_⟩
    obtain ⟨c, -, hc⟩ := mem_of_mapM h hd
    obtain ⟨x, -, rfl⟩ := map_eq_ok hc
    rfl

theorem mem_of_mem_upTo {α : Type} {limit : Option Int} {xs : List α} {x : α}
    (h : x ∈ upTo limit xs) : x ∈ xs := by
  cases limit with
  | none => exact h
  | some n => exact List.mem_of_mem_take h

/-- **A RANKING SHOWS ONE KIND OF NUMBERS**, whichever kinds the metric gave. -/
theorem rank_one_kind {m : Metric K} {query : Value} {candidates : List Value}
    {limit : Option Int} {ranked : List (Value × Score K)}
    (h : rank m query candidates limit = .ok ranked) :
    ∃ whole, ∀ c ∈ ranked, c.2.isWhole = whole := by
  obtain ⟨ds, hds, rfl⟩ := map_eq_ok h
  obtain ⟨cs, -, hcs⟩ := bind_eq_ok hds
  obtain ⟨whole, hwhole⟩ := isWhole_of_alike hcs
  refine ⟨whole, fun c hc => hwhole c ?_⟩
  exact (List.mem_filter.mp (List.mem_mergeSort.mp (mem_of_mem_upTo hc))).1

/-! ## Integer scores -/

/-- A candidate with an integer score. -/
def ofWhole (c : Value × Int) : Value × Score K := (c.1, .whole c.2)

/-- One integer is at most the other, as the scores of candidates. -/
def lower (c d : Value × Int) : Bool := c.2 ≤ d.2

theorem lower_trans (a b c : Value × Int) : lower a b → lower b c → lower a c := by
  simp only [lower, decide_eq_true_eq]
  omega

theorem lower_total (a b : Value × Int) : lower a b || lower b a := by
  simp only [lower, Bool.or_eq_true, decide_eq_true_eq]
  omega

theorem filter_ofWhole (t : Int) (cs : List (Value × Int)) :
    (cs.map ofWhole).filter (fun c : Value × Score K => c.2.atMost (.whole t))
      = (cs.filter fun c => decide (c.2 ≤ t)).map ofWhole :=
  List.filter_map

/-- The ranking of a distance whose scores are integers sorts those that are not
    negative, the smallest first. -/
theorem rank_whole {α : Type} {m : Metric K} (hm : m.higherIsBetter = false) {query : Value}
    {candidates : List α} {value : α → Value} {score : α → Int}
    (hscore : ∀ c ∈ candidates, m.score (value c) query = .ok (.whole (score c)))
    (limit : Option Int) :
    rank m query (candidates.map value) limit
      = .ok (upTo limit ((((candidates.map fun c => (value c, score c)).filter
          fun c => decide (0 ≤ c.2)).mergeSort lower).map ofWhole)) := by
  have hheld : (scored m query (candidates.map value)).bind alike
      = .ok ((candidates.map fun c => (value c, score c)).map (ofWhole (K := K))) := by
    rw [held_of_isWhole fun c hc => ⟨hscore c hc, rfl⟩, List.map_map]
    rfl
  rw [rank, hheld]
  show Except.ok (upTo limit _) = _
  rw [List.filter_map, List.map_mergeSort (s := fun c d => atLeastAsGood m.higherIsBetter c.2 d.2)]
  · rfl
  · intro c _ d _
    rw [hm]
    rfl

end Likeness.Ranking
