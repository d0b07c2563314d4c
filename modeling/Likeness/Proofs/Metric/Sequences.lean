import Likeness.Proofs.Edit.Affix
import Likeness.Proofs.Edit.Triangle
import Likeness.Proofs.Match.Fraction
import Likeness.Proofs.Metric.Distance
import Likeness.Proofs.Scalar.DoubleRounds

/-! # Comparing two sequences

    What the comparisons of sequences say about values.  A comparison of two values is
    the comparison of their items, in either order (`Value.SeenAs.swap`), and one that
    sees of the items only what the test says of them takes a text like the list of its
    characters (`Blind.onItems`), so that three values can be compared with each other
    though two of them are texts and the third is not.

    The main results are `jaroSimilarity_swap`, for the similarity and the matching that
    it counts, `editDistanceUpTo_isLeast`, `editDistanceUpTo_metric` and
    `editDistanceUpTo_affixes`, for the distance, and `jaroSimilarity_fraction` and
    `winklerSimilarity_fraction`, for the similarities when nothing is rounded. -/

namespace Likeness

/-! ## Both orders -/

theorem onItems_swap {β : Type} (f : {α : Type} → (α → α → Bool) → List α → List α → β)
    (a b : Value) : onItems f b a = onItems (fun same xs ys => f same ys xs) a b := by
  by_cases htexts : ∃ s t, a = .text s ∧ b = .text t
  · obtain ⟨s, t, rfl, rfl⟩ := htexts
    rfl
  · have hab : ∀ s t, a = .text s → b = .text t → False :=
      fun s t ha hb => htexts ⟨s, t, ha, hb⟩
    rw [onItems.eq_2 _ _ _ hab, onItems.eq_2 _ _ _ fun t s hb ha => hab s t ha hb]
    cases a.elements? with
    | none => cases b.elements? <;> rfl
    | some xs => cases b.elements? <;> rfl

section SeenAs

variable {α : Type} {a b : Value} {same : α → α → Bool} {us vs : List α}

/-- Two values are seen as the same lists in the other order. -/
theorem Value.SeenAs.swap (h : a.SeenAs b same us vs) : b.SeenAs a same vs us := by
  refine ⟨?_, h.count_right, h.count_left, ?_, ?_⟩
  · intro β f
    rw [onItems_swap]
    exact h.compared fun same xs ys => f same ys xs
  · rw [Bool.and_comm]
    exact h.items
  · exact fun v hv u hu => (h.symm u hu v hv).symm

end SeenAs

/-! ## Items that are told apart alike -/

/-- A comparison of sequences that sees of their items only what the test says of them. -/
def Blind {β : Type} (f : {α : Type} → (α → α → Bool) → List α → List α → β) : Prop :=
  ∀ {α γ : Type} (g : α → γ) (same : γ → γ → Bool) (xs ys : List α),
    f same (xs.map g) (ys.map g) = f (fun x y => same (g x) (g y)) xs ys

theorem Value.equal_ofChars (c d : Char) :
    Value.equal (Value.ofChars [c]) (Value.ofChars [d]) = (c == d) := by
  rw [Bool.eq_iff_iff]
  show (String.ofList [c] == String.ofList [d]) = true ↔ _
  simp

/-- Such a comparison takes texts like the lists of their characters. -/
theorem Blind.onItems {β : Type} {f : {α : Type} → (α → α → Bool) → List α → List α → β}
    (hf : Blind f) {a b : Value} {xs ys : List Value} (ha : a.items? = some xs)
    (hb : b.items? = some ys) : Likeness.onItems f a b = .ok (f Value.equal xs ys) := by
  -- Two texts are compared by their characters, though their items are texts.
  by_cases htexts : ∃ s t, a = .text s ∧ b = .text t
  · obtain ⟨s, t, rfl, rfl⟩ := htexts
    cases ha
    cases hb
    have hchars := hf (fun c => Value.ofChars [c]) Value.equal s.toList t.toList
    rw [funext fun c => funext fun d => Value.equal_ofChars c d] at hchars
    exact congrArg Except.ok hchars.symm
  · exact onItems_of_items ha hb (fun s t has hbt => htexts ⟨s, t, has, hbt⟩) f

theorem Edit.differ_map {α β : Type} (f : α → β) (same : β → β → Bool) (xs ys : List α)
    (i j : Nat) :
    Edit.differ same (xs.map f) (ys.map f) i j
      = Edit.differ (fun x y => same (f x) (f y)) xs ys i j := by
  rw [Edit.differ, Edit.differ, List.getElem?_map, List.getElem?_map]
  cases xs[i]? with
  | none => rfl
  | some x => cases ys[j]? <;> rfl

theorem Edit.distance_blind : Blind Edit.distance := by
  intro α γ g same xs ys
  have htable : ∀ us vs : List α, Edit.tableDistance same (us.map g) (vs.map g)
      = Edit.tableDistance (fun x y => same (g x) (g y)) us vs := by
    intro us vs
    rw [Edit.tableDistance_eq_gap, Edit.tableDistance_eq_gap, List.length_map, List.length_map]
    exact Edit.gap_congr (fun i j _ _ => Edit.differ_map g same us vs i j) _ _
      (Nat.le_refl _) (Nat.le_refl _)
  show Edit.distance same (xs.map g) (ys.map g) = Edit.distance (fun x y => same (g x) (g y)) xs ys
  rw [Edit.distance, Edit.distance, List.length_map, List.length_map, htable, htable]

theorem sharedLength_blind : Blind sharedLength := by
  intro α γ g same xs
  induction xs with
  | nil => exact fun ys => by cases ys <;> rfl
  | cons x xs ih =>
      intro ys
      cases ys with
      | nil => rfl
      | cons y ys =>
          exact congrArg (fun n => if same (g x) (g y) then n + 1 else 0) (ih ys)

namespace Match

section Map

variable {α γ : Type} (g : α → γ) (same : γ → γ → Bool)

theorem firstFree?_map (p : γ → Bool) (low high : Nat) :
    ∀ (ys : List α) (at' : Nat) (taken : List Bool),
      firstFree? p low high at' (ys.map g) taken
        = firstFree? (fun y => p (g y)) low high at' ys taken := by
  intro ys
  induction ys with
  | nil => exact fun at' taken => rfl
  | cons y ys ih =>
      intro at' taken
      cases taken with
      | nil => rfl
      | cons flag flags =>
          rw [List.map_cons, firstFree?, firstFree?, ih]

theorem matchFrom_map (b : List α) (reach : Nat) :
    ∀ (xs : List α) (i : Nat) (taken : List Bool),
      matchFrom same (b.map g) reach i (xs.map g) taken
        = matchFrom (fun x y => same (g x) (g y)) b reach i xs taken := by
  intro xs
  induction xs with
  | nil => exact fun i taken => rfl
  | cons x xs ih =>
      intro i taken
      rw [List.map_cons, matchFrom, matchFrom, firstFree?_map, List.length_map]
      cases firstFree? (fun y => same (g y) (g x)) (i - reach) (min b.length (i + reach + 1)) 0 b
          taken with
      | none => exact ih (i + 1) taken
      | some j =>
          exact congrArg (fun rest : Matching => (⟨(i, j) :: rest.pairs, rest.taken⟩ : Matching))
            (ih (i + 1) (taken.set j true))

theorem greedy_map (a b : List α) :
    greedy same (a.map g) (b.map g) = greedy (fun x y => same (g x) (g y)) a b := by
  rw [greedy, greedy, List.length_map, List.length_map, matchFrom_map]

theorem Matching.disorder_map (m : Matching) (a b : List α) :
    m.disorder same (a.map g) (b.map g) = m.disorder (fun x y => same (g x) (g y)) a b := by
  have hfirst : m.firstItems (a.map g) = (m.firstItems a).map g := by
    rw [firstItems, firstItems, List.map_filterMap]
    exact congrArg (List.filterMap · m.pairs) (funext fun p => List.getElem?_map)
  have hsecond : m.secondItems (b.map g) = (m.secondItems b).map g := by
    rw [secondItems, secondItems, List.map_filterMap, List.zip_map_left, List.filterMap_map]
    refine congrArg (List.filterMap · (b.zip m.taken)) (funext fun p => ?_)
    obtain ⟨y, flag⟩ := p
    cases flag <;> rfl
  rw [disorder, disorder, hfirst, hsecond, List.zip_map, List.countP_map]
  rfl

end Map

theorem jaro_blind {K : Type} [Scalar K] : Blind fun same xs ys => (jaro same xs ys : K) := by
  intro α γ g same xs ys
  show jaro same (xs.map g) (ys.map g) = jaro (fun x y => same (g x) (g y)) xs ys
  rw [jaro, jaro, greedy_map, jaroOfMatching, jaroOfMatching, Matching.disorder_map,
    List.isEmpty_map, List.isEmpty_map, List.length_map, List.length_map]

end Match

section Items

variable {a b : Value} {xs ys : List Value} (ha : a.items? = some xs) (hb : b.items? = some ys)
  (hxs : xs.length ≤ Value.countLimit) (hys : ys.length ≤ Value.countLimit)
include ha hb hxs hys

/-- The distance of two sequences is that of the lists of their items. -/
theorem editDistanceUpTo_items :
    editDistanceUpTo .null a b = .ok (Edit.distance Value.equal xs ys : Int) := by
  have hm := Value.count_of_items ha hxs
  have hn := Value.count_of_items hb hys
  have hcounted : onCounted Edit.distance a b = .ok (Edit.distance Value.equal xs ys) := by
    rw [onCounted, hm, hn]
    exact Edit.distance_blind.onItems ha hb
  show editDistance a b none = _
  rw [editDistance, given_of_count hm, given_of_count hn]
  show (onCounted Edit.distance a b).map _ = _
  rw [hcounted]
  rfl

/-- Within a bound it is that of the lists, too, if the equality of their items is
    symmetric. -/
theorem editDistanceUpTo_items_within
    (hsym : ∀ x ∈ xs, ∀ y ∈ ys, Value.equal x y = Value.equal y x) (n : Nat) :
    editDistanceUpTo (.int n) a b
      = .ok (if Edit.distance Value.equal xs ys ≤ n then (Edit.distance Value.equal xs ys : Int)
          else -1) := by
  obtain ⟨α, same, us, vs, h, hus, hvs⟩ := Value.exists_seenAs ha hb hxs hys hsym
  -- what the values are seen as has the distance of their items
  have hdistance : (Edit.distance same us vs : Int) = Edit.distance Value.equal xs ys :=
    Except.ok.inj (h.editDistance_none.symm.trans (editDistanceUpTo_items ha hb hxs hys))
  rw [← Int.ofNat_inj.mp hdistance, h.editDistanceUpTo_int]
  exact h.editDistance_some (hus ▸ hxs) (hvs ▸ hys) rfl

variable {K : Type} [Scalar K]

/-- The similarity of two sequences is that of the lists of their items. -/
theorem jaroSimilarity_items :
    (jaroSimilarity a b : Except Fault K) = .ok (Match.jaro Value.equal xs ys) := by
  have hm := Value.count_of_items ha hxs
  have hn := Value.count_of_items hb hys
  have hchoice : (xs.length = 0 || ys.length = 0 || b.items?.isSome) = true := by
    rw [hb, Option.isSome_some, Bool.or_true]
  rw [jaroSimilarity, given_of_count hm, given_of_count hn, hm, hn]
  exact (if_pos hchoice).trans (Match.jaro_blind.onItems ha hb)

/-- So is the similarity that a shared prefix raises. -/
theorem winklerSimilarity_items (p : Match.Boost K) :
    winklerSimilarity p a b = Match.jaroWinkler Value.equal p xs ys := by
  have hm := Value.count_of_items ha hxs
  have hn := Value.count_of_items hb hys
  rw [winklerSimilarity, given_of_count hm, given_of_count hn, jaroSimilarity_items ha hb hxs hys,
    sharedLength_blind.onItems ha hb, Match.jaroWinkler]
  cases p.check <;> rfl

end Items

/-! ## The similarity -/

/-- **THE SIMILARITY IS THE SAME FROM BOTH SIDES**, and so is the matching that it counts:
    two places are matched in one order of the sequences exactly when they are in the
    other, so that there are as many matches and as many of them out of order.  This
    needs a symmetric test of items only. -/
theorem jaroSimilarity_swap :
    (∀ {α : Type} (same : α → α → Bool) (xs ys : List α),
      (∀ x ∈ xs, ∀ y ∈ ys, same x y = same y x) →
      (∀ i j, (i, j) ∈ (Match.greedy same xs ys).pairs
        ↔ (j, i) ∈ (Match.greedy same ys xs).pairs) ∧
      (Match.greedy same ys xs).pairs.length = (Match.greedy same xs ys).pairs.length ∧
      Match.mismatched same ys xs = Match.mismatched same xs ys ∧
      (Match.jaro same ys xs : Float) = Match.jaro same xs ys) ∧
    (∀ (a b : Value) (xs ys : List Value), a.items? = some xs → b.items? = some ys →
      (∀ x ∈ xs, ∀ y ∈ ys, Value.equal x y = Value.equal y x) →
      xs.length ≤ Value.countLimit → ys.length ≤ Value.countLimit →
      ∃ similarity : Float, jaroSimilarity a b = .ok similarity ∧
        jaroSimilarity b a = .ok similarity) := by
  constructor
  · intro α same xs ys hsym
    exact ⟨Match.greedy_swap hsym, Match.greedy_length hsym, Match.disorder_swap hsym,
      Match.jaro_comm Double.add_comm hsym⟩
  · intro a b xs ys ha hb hsym hxs hys
    obtain ⟨α, same, us, vs, h, -, -⟩ := Value.exists_seenAs ha hb hxs hys hsym
    refine ⟨Match.jaro same us vs, h.jaroSimilarity, ?_⟩
    rw [h.swap.jaroSimilarity, Match.jaro_comm Double.add_comm h.symm]

/-- Repeated items, some of which have two partners within the window. -/
theorem jaroSimilarity_swap_repeated :
    (∀ x ∈ [1, 2, 1, 1, 3], ∀ y ∈ [1, 1, 3, 2], (x == y) = (y == (x : Nat))) ∧
    (∀ i j, (i, j) ∈ (Match.greedy (· == ·) [1, 2, 1, 1, 3] [1, 1, 3, 2]).pairs
      ↔ (j, i) ∈ (Match.greedy (· == ·) [1, 1, 3, 2] [1, 2, 1, 1, (3 : Nat)]).pairs) ∧
    ∃ similarity : Float, jaroSimilarity (.text "dixon") (.text "dicksonx") = .ok similarity ∧
      jaroSimilarity (.text "dicksonx") (.text "dixon") = .ok similarity := by
  refine ⟨by decide, ?_, ?_⟩
  · exact (jaroSimilarity_swap.1 (· == ·) _ _ (by decide)).1
  · exact jaroSimilarity_swap.2 (.text "dixon") (.text "dicksonx") _ _ rfl rfl
      (by decide) (by decide) (by decide)

/-! ## The distance -/

/-- **THE DISTANCE IS THE LEAST NUMBER OF EDITS**: of all edit scripts that turn one
    sequence into another, keeping an item for free only if the test of items finds it
    equal to its partner, the cheapest cost as much as the distance.  The item of the
    longer sequence is asked, which makes no difference to a symmetric test.  For values
    that are sequences the distance is always found, and the test is their equality. -/
theorem editDistanceUpTo_isLeast :
    (∀ {α : Type} (same : α → α → Bool) (xs ys : List α),
      IsLeast (Set.range (Edit.Script.cost : Edit.Script (Edit.asked same xs ys) xs ys → Nat))
        (Edit.distance same xs ys) ∧
      ((∀ x ∈ xs, ∀ y ∈ ys, same x y = same y x) →
        IsLeast (Set.range (Edit.Script.cost : Edit.Script same xs ys → Nat))
          (Edit.distance same xs ys))) ∧
    (∀ (a b : Value) (xs ys : List Value), a.items? = some xs → b.items? = some ys →
      xs.length ≤ Value.countLimit → ys.length ≤ Value.countLimit →
      ∃ d : Nat, editDistanceUpTo .null a b = .ok d ∧
        IsLeast (Set.range
          (Edit.Script.cost : Edit.Script (Edit.asked Value.equal xs ys) xs ys → Nat)) d) := by
  constructor
  · intro α same xs ys
    refine ⟨Edit.distance_isLeast same xs ys, ?_⟩
    intro hsym
    rw [Edit.distance_eq_gap hsym]
    exact Edit.gap_isLeast same xs ys
  · intro a b xs ys ha hb hxs hys
    exact ⟨_, editDistanceUpTo_items ha hb hxs hys, Edit.distance_isLeast Value.equal xs ys⟩

/-- A test under which zero is not equal to itself, and two texts. -/
theorem editDistanceUpTo_isLeast_without_reflexivity :
    let same : Nat → Nat → Bool := fun x y => x == y && x != 0
    (∀ x ∈ [1, 0, 2], ∀ y ∈ [0, 2], same x y = same y x) ∧
    IsLeast (Set.range (Edit.Script.cost : Edit.Script same [1, 0, 2] [0, 2] → Nat)) 2 ∧
    ∃ d : Nat, editDistanceUpTo .null (.text "kitten") (.text "sitting") = .ok d := by
  intro same
  have hsym : ∀ x ∈ [1, 0, 2], ∀ y ∈ [0, 2], same x y = same y x := by decide
  have hdistance : Edit.distance same [1, 0, 2] [0, 2] = 2 := by decide
  refine ⟨hsym, ?_, ?_⟩
  · rw [← hdistance]
    exact (editDistanceUpTo_isLeast.1 same [1, 0, 2] [0, 2]).2 hsym
  · obtain ⟨d, hd, -⟩ := editDistanceUpTo_isLeast.2 (.text "kitten") (.text "sitting") _ _ rfl rfl
      (by decide) (by decide)
    exact ⟨d, hd⟩

/-- What a metric says of the distances between three sequences: from the first to the second
    and back, from the second on to the third, and from the first to the third. -/
structure Edit.MetricLaws {α : Type} (same : α → α → Bool) (xs ys zs : List α)
    (there back onward direct : Nat) : Prop where
  zero_iff : there = 0 ↔ xs.Forall₂ (fun x y => same x y = true) ys
  comm : there = back
  triangle : direct ≤ there + onward
  length_sub_le : |(xs.length : Int) - ys.length| ≤ there
  le_length : there ≤ max xs.length ys.length

theorem Edit.distance_metricLaws {α : Type} {same : α → α → Bool} {xs ys zs : List α}
    (h : Match.Consistent same (xs ++ ys ++ zs)) :
    MetricLaws same xs ys zs (distance same xs ys) (distance same ys xs) (distance same ys zs)
      (distance same xs zs) := by
  have hab : ∀ x ∈ xs, ∀ y ∈ ys, same x y = same y x :=
    (h.mono (List.subset_append_left _ _)).comm
  have hbc : ∀ y ∈ ys, ∀ z ∈ zs, same y z = same z y :=
    fun y hy => h.comm y (List.mem_append_right xs hy)
  have hac : ∀ x ∈ xs, ∀ z ∈ zs, same x z = same z x :=
    fun x hx => h.comm x (List.mem_append_left ys hx)
  refine ⟨distance_eq_zero_iff hab, ?_, ?_, abs_length_sub_le_distance hab, distance_le_max hab⟩
  · exact (distance_comm hab).symm
  · refine distance_triangle hab hbc hac ?_
    intro x hx y hy z hz
    exact h.trans x (List.mem_append_left zs (List.mem_append_left ys hx))
      y (List.mem_append_left zs (List.mem_append_right xs hy)) z (List.mem_append_right _ hz)

/-- **THE DISTANCE IS A METRIC**, up to the test of items, on any sequences on whose items that
    test is symmetric and transitive.  For values that are sequences the distance is always
    found, and the test is their equality. -/
theorem editDistanceUpTo_metric :
    (∀ {α : Type} (same : α → α → Bool) (xs ys zs : List α),
      Match.Consistent same (xs ++ ys ++ zs) →
      Edit.MetricLaws same xs ys zs (Edit.distance same xs ys) (Edit.distance same ys xs)
        (Edit.distance same ys zs) (Edit.distance same xs zs)) ∧
    (∀ (a b c : Value) (xs ys zs : List Value),
      a.items? = some xs → b.items? = some ys → c.items? = some zs →
      xs.length ≤ Value.countLimit → ys.length ≤ Value.countLimit → zs.length ≤ Value.countLimit →
      Match.Consistent Value.equal (xs ++ ys ++ zs) →
      ∃ ab ba bc ac : Nat, editDistanceUpTo .null a b = .ok ab ∧
        editDistanceUpTo .null b a = .ok ba ∧ editDistanceUpTo .null b c = .ok bc ∧
        editDistanceUpTo .null a c = .ok ac ∧
        Edit.MetricLaws Value.equal xs ys zs ab ba bc ac) := by
  constructor
  · exact fun same xs ys zs h => Edit.distance_metricLaws h
  · intro a b c xs ys zs ha hb hc hxs hys hzs h
    exact ⟨_, _, _, _, editDistanceUpTo_items ha hb hxs hys, editDistanceUpTo_items hb ha hys hxs,
      editDistanceUpTo_items hb hc hys hzs, editDistanceUpTo_items ha hc hxs hzs,
      Edit.distance_metricLaws h⟩

/-- Numbers that count as equal when they leave the same rest, and values some of which are
    equal without being the same. -/
theorem editDistanceUpTo_metric_rests :
    let same : Nat → Nat → Bool := fun x y => x % 3 == y % 3
    let xs : List Value := [.int 1, .text "a"]
    let ys : List Value := [.bool true, .text "b", .int 2]
    let zs : List Value := [.tuple [.int 1]]
    Match.Consistent same ([1, 5, 3] ++ [4, 3] ++ [2, 2, 0, 7]) ∧
    Edit.MetricLaws same [1, 5, 3] [4, 3] [2, 2, 0, 7] 1 1 3 2 ∧
    Match.Consistent Value.equal (xs ++ ys ++ zs) ∧
    ∃ ab bc ac : Nat, editDistanceUpTo .null (.list xs) (.tuple ys) = .ok ab ∧
      editDistanceUpTo .null (.tuple ys) (.list zs) = .ok bc ∧
      editDistanceUpTo .null (.list xs) (.list zs) = .ok ac ∧ ac ≤ ab + bc := by
  intro same xs ys zs
  have hsame : Match.Consistent same ([1, 5, 3] ++ [4, 3] ++ [2, 2, 0, 7]) :=
    ⟨by decide, by decide⟩
  have hequal : Match.Consistent Value.equal (xs ++ ys ++ zs) := ⟨by decide, by decide⟩
  refine ⟨hsame, ?_, hequal, ?_⟩
  · have hthere : Edit.distance same [1, 5, 3] [4, 3] = 1 := by decide
    have hback : Edit.distance same [4, 3] [1, 5, 3] = 1 := by decide
    have honward : Edit.distance same [4, 3] [2, 2, 0, 7] = 3 := by decide
    have hdirect : Edit.distance same [1, 5, 3] [2, 2, 0, 7] = 2 := by decide
    have hlaws := editDistanceUpTo_metric.1 same [1, 5, 3] [4, 3] [2, 2, 0, 7] hsame
    rwa [hthere, hback, honward, hdirect] at hlaws
  · obtain ⟨ab, ba, bc, ac, hab, -, hbc, hac, hlaws⟩ :=
      editDistanceUpTo_metric.2 (.list xs) (.tuple ys) (.list zs) xs ys zs rfl rfl rfl
        (by decide) (by decide) (by decide) hequal
    exact ⟨ab, bc, ac, hab, hbc, hac, hlaws.triangle⟩

/-- **SHARED ENDS DO NOT MATTER**, with and without a threshold: two sequences are as far
    from each other as without what they begin and end with alike.  Of an equivalence this
    needs only that the items of the ends are equal to themselves, and of the equality of
    values that it is symmetric on the items that are compared. -/
theorem editDistanceUpTo_affixes :
    (∀ {α : Type} (same : α → α → Bool) (ps xs ys ss : List α),
      (∀ z ∈ ps ++ ss, same z z = true) →
      Edit.distance same (ps ++ xs ++ ss) (ps ++ ys ++ ss) = Edit.distance same xs ys ∧
      ((ps ++ xs ++ ss).length ≤ Edit.unreachable → (ps ++ ys ++ ss).length ≤ Edit.unreachable →
        ∀ n, Edit.distanceWithin? same (ps ++ xs ++ ss) (ps ++ ys ++ ss) n
          = Edit.distanceWithin? same xs ys n)) ∧
    (∀ (a b a' b' : Value) (ps xs ys ss : List Value),
      a.items? = some xs → b.items? = some ys →
      a'.items? = some (ps ++ xs ++ ss) → b'.items? = some (ps ++ ys ++ ss) →
      (ps ++ xs ++ ss).length ≤ Value.countLimit → (ps ++ ys ++ ss).length ≤ Value.countLimit →
      (∀ z ∈ ps ++ ss, Value.equal z z = true) →
      (∀ x ∈ ps ++ xs ++ ss, ∀ y ∈ ps ++ ys ++ ss, Value.equal x y = Value.equal y x) →
      ∀ threshold : Option Nat, ∃ d : Int,
        editDistanceUpTo (Value.ofOption (fun n => .int n) threshold) a b = .ok d ∧
        editDistanceUpTo (Value.ofOption (fun n => .int n) threshold) a' b' = .ok d) := by
  constructor
  · intro α same ps xs ys ss h
    exact ⟨Edit.distance_affixes h, fun hxs hys n => Edit.distanceWithin?_affixes h hxs hys n⟩
  · intro a b a' b' ps xs ys ss ha hb ha' hb' hxs hys h hsym threshold
    have hinner : ∀ us : List Value,
        (ps ++ us ++ ss).length ≤ Value.countLimit → us.length ≤ Value.countLimit :=
      fun us => Nat.le_trans (List.sublist_append_of_sublist_left
        (List.sublist_append_right ps us)).length_le
    have hmem : ∀ us : List Value, us ⊆ ps ++ us ++ ss := by
      intro us x hx
      exact List.mem_append_left ss (List.mem_append_right ps hx)
    cases threshold with
    | none =>
        refine ⟨_, editDistanceUpTo_items ha hb (hinner xs hxs) (hinner ys hys), ?_⟩
        rw [← Edit.distance_affixes h]
        exact editDistanceUpTo_items ha' hb' hxs hys
    | some n =>
        refine ⟨_, editDistanceUpTo_items_within ha hb (hinner xs hxs) (hinner ys hys)
          (fun x hx y hy => hsym x (hmem xs hx) y (hmem ys hy)) n, ?_⟩
        rw [← Edit.distance_affixes h]
        exact editDistanceUpTo_items_within ha' hb' hxs hys hsym n

/-- Numbers that count as equal when they leave the same rest, and texts beyond and within a
    threshold. -/
theorem editDistanceUpTo_affixes_rests :
    let same : Nat → Nat → Bool := fun x y => x % 3 == y % 3
    (∀ z ∈ [4, 2] ++ [7], same z z = true) ∧
    Edit.distance same ([4, 2] ++ [1, 5] ++ [7]) ([4, 2] ++ [0] ++ [7]) = 2 ∧
    Edit.distanceWithin? same ([4, 2] ++ [1, 5] ++ [7]) ([4, 2] ++ [0] ++ [7]) 1 = none ∧
    editDistanceUpTo (.int 1) (.text "kitten") (.text "kissen") = .ok (-1) ∧
    editDistanceUpTo (.int 2) (.text "kitten") (.text "kissen") = .ok 2 := by
  intro same
  have hends : ∀ z ∈ [4, 2] ++ [7], same z z = true := by decide
  obtain ⟨hdistance, hwithin⟩ := editDistanceUpTo_affixes.1 same [4, 2] [1, 5] [0] [7] hends
  have htexts := editDistanceUpTo_affixes.2 (.text "tt") (.text "ss") (.text "kitten")
    (.text "kissen") [.text "k", .text "i"] [.text "t", .text "t"] [.text "s", .text "s"]
    [.text "e", .text "n"] rfl rfl rfl rfl (by decide) (by decide) (by decide) (by decide)
  refine ⟨hends, ?_, ?_, ?_, ?_⟩
  · rw [hdistance]
    decide
  · rw [hwithin (by decide) (by decide)]
    decide
  · obtain ⟨d, hinner, houter⟩ := htexts (some 1)
    cases hinner
    exact houter
  · obtain ⟨d, hinner, houter⟩ := htexts (some 2)
    cases hinner
    exact houter

/-! ## The similarities in exact fractions -/

/-- **WHAT THE SIMILARITY SAYS**, when nothing is rounded: it lies between zero and one, only
    sequences that are equal item by item reach one, and only sequences without equal items near
    each other are left at zero.  Of the matched items never exactly one is out of order, and a
    shared prefix is matched place by place. -/
theorem jaroSimilarity_fraction :
    (∀ {α : Type} (same : α → α → Bool) (xs ys : List α), Match.Consistent same (xs ++ ys) →
      Match.SimilarityLaws same xs ys (Match.jaro same xs ys) ∧
      Match.mismatched same xs ys ≤ (Match.greedy same xs ys).pairs.length ∧
      Match.mismatched same xs ys ≠ 1 ∧
      ∀ k, SharesPrefix same xs ys k → ∀ i, i < k → (i, i) ∈ (Match.greedy same xs ys).pairs) ∧
    (∀ (a b : Value) (xs ys : List Value), a.items? = some xs → b.items? = some ys →
      xs.length ≤ Value.countLimit → ys.length ≤ Value.countLimit →
      Match.Consistent Value.equal (xs ++ ys) →
      ∃ similarity : ℚ, jaroSimilarity a b = .ok similarity ∧
        Match.SimilarityLaws Value.equal xs ys similarity) := by
  constructor
  · intro α same xs ys h
    exact ⟨Match.jaro_similarityLaws h.comm, Match.disorder_le _ same xs ys,
      Match.mismatched_ne_one h, fun k hk => Match.mem_greedy_of_sharesPrefix h.comm hk⟩
  · intro a b xs ys ha hb hxs hys h
    exact ⟨_, jaroSimilarity_items ha hb hxs hys, Match.jaro_similarityLaws h.comm⟩

/-- Numbers that count as equal when they leave the same rest, the first two of which are a
    shared prefix, and values of two kinds. -/
theorem jaroSimilarity_fraction_rests :
    let same : Nat → Nat → Bool := fun x y => x % 3 == y % 3
    let xs := [1, 5, 2, 0]
    let ys := [4, 2, 3, 8, 8]
    let a : Value := .list [.int 1, .text "a"]
    let b : Value := .tuple [.bool true, .text "b", .int 2]
    Match.Consistent same (xs ++ ys) ∧ SharesPrefix same xs ys 2 ∧
    (1, 1) ∈ (Match.greedy same xs ys).pairs ∧ Match.mismatched same xs ys ≠ 1 ∧
    ∃ similarity : ℚ, jaroSimilarity a b = .ok similarity ∧ similarity ≤ 1 := by
  intro same xs ys a b
  have hsame : Match.Consistent same (xs ++ ys) := ⟨by decide, by decide⟩
  have hlength : sharedLength same xs ys = 2 := by decide
  have hshared : SharesPrefix same xs ys 2 := hlength ▸ (sharedLength_isGreatest same xs ys).1
  obtain ⟨-, -, hmismatched, hprefix⟩ := jaroSimilarity_fraction.1 same xs ys hsame
  refine ⟨hsame, hshared, hprefix 2 hshared 1 (by decide), hmismatched, ?_⟩
  obtain ⟨similarity, hfound, hlaws⟩ := jaroSimilarity_fraction.2 a b _ _ rfl rfl
    (by decide) (by decide) ⟨by decide, by decide⟩
  exact ⟨similarity, hfound, hlaws.le_one⟩

/-- **WHAT A SHARED PREFIX DOES**, when nothing is rounded: it never lowers the similarity nor
    lifts it above one, which is reached only from there or with a boost that closes the whole
    gap, and more of each parameter never lowers the result. -/
theorem winklerSimilarity_fraction :
    (∀ {α : Type} (same : α → α → Bool) (xs ys : List α) (n : Nat),
      Match.Consistent same (xs ++ ys) → IsGreatest {k | SharesPrefix same xs ys k} n →
      Match.RaisingLaws (Match.jaroWinkler same · xs ys) (Match.jaroWinkler same · ys xs)
        (Match.jaro same xs ys) n (xs.Forall₂ (fun x y => same x y = true) ys)) ∧
    (∀ (a b : Value) (xs ys : List Value) (n : Nat), a.items? = some xs → b.items? = some ys →
      xs.length ≤ Value.countLimit → ys.length ≤ Value.countLimit →
      Match.Consistent Value.equal (xs ++ ys) →
      IsGreatest {k | SharesPrefix Value.equal xs ys k} n →
      ∃ base : ℚ, jaroSimilarity a b = .ok base ∧
        Match.RaisingLaws (winklerSimilarity · a b) (winklerSimilarity · b a) base n
          (xs.Forall₂ (fun x y => Value.equal x y = true) ys)) := by
  constructor
  · intro α same xs ys n h hn
    rw [hn.unique (sharedLength_isGreatest same xs ys)]
    exact Match.jaroWinkler_raisingLaws h.comm
  · intro a b xs ys n ha hb hxs hys h hn
    refine ⟨_, jaroSimilarity_items ha hb hxs hys, ?_⟩
    rw [hn.unique (sharedLength_isGreatest Value.equal xs ys),
      funext (winklerSimilarity_items ha hb hxs hys), funext (winklerSimilarity_items hb ha hys hxs)]
    exact Match.jaroWinkler_raisingLaws h.comm

/-- The same, with a scaling factor that is a fraction and a limit that is an integer. -/
theorem winklerSimilarity_fraction_rests :
    let same : Nat → Nat → Bool := fun x y => x % 3 == y % 3
    let xs := [1, 5, 2, 0]
    let ys := [4, 2, 3, 8, 8]
    let a : Value := .list [.int 1, .text "a"]
    let b : Value := .tuple [.bool true, .text "b", .int 2]
    let p : Match.Boost ℚ := ⟨.ofScore (.real (1 / 10)), .ofScore (.whole 4)⟩
    p.Proper (1 / 10) 4 ∧
    (∃ w, Match.jaroWinkler same p xs ys = .ok w ∧ Match.jaroWinkler same p ys xs = .ok w) ∧
    ∃ w : ℚ, winklerSimilarity p a b = .ok w ∧ w ≤ 1 := by
  intro same xs ys a b p
  have hproper : p.Proper (1 / 10) 4 :=
    ⟨.real (Scalar.denotes_fraction _), .whole 4, by norm_num, by norm_num, by norm_num⟩
  refine ⟨hproper, ?_, ?_⟩
  · have hlength : sharedLength same xs ys = 2 := by decide
    have hlaws := winklerSimilarity_fraction.1 same xs ys 2 ⟨by decide, by decide⟩
      (hlength ▸ sharedLength_isGreatest same xs ys)
    obtain ⟨w, hw, hback, -⟩ := hlaws.found hproper
    exact ⟨w, hw, hback⟩
  · have hlength : sharedLength Value.equal [.int 1, .text "a"]
        [.bool true, .text "b", .int 2] = 1 := by decide
    obtain ⟨base, -, hlaws⟩ := winklerSimilarity_fraction.2 a b _ _ 1 rfl rfl
      (by decide) (by decide) ⟨by decide, by decide⟩
      (hlength ▸ sharedLength_isGreatest Value.equal _ _)
    obtain ⟨w, hw, -, -, hle, -⟩ := hlaws.found hproper
    exact ⟨w, hw, hle⟩

end Likeness
