import Likeness.Metric.Comparison
import Likeness.Proofs.Edit.Band

/-! # The edit distance of values

    A value that is a sequence is compared by its items: two texts character by
    character, all others with the equality of values.  `Value.SeenAs` says
    which test and which lists a comparison of two values is given, so that a
    fact about sequences becomes a fact about values.

    The main result is `editDistanceUpTo_eq`: a threshold hides the distances
    beyond it and changes none of the others. -/

namespace Likeness

/-! ## Sequences -/

/-- Every comparison of two values is the comparison of two lists with a test that
    is symmetric on their items. -/
structure Value.SeenAs {α : Type} (a b : Value) (same : α → α → Bool) (us vs : List α) :
    Prop where
  compared : ∀ {β : Type} (f : {γ : Type} → (γ → γ → Bool) → List γ → List γ → β),
    onItems f a b = .ok (f same us vs)
  count_left : a.count = .ok us.length
  count_right : b.count = .ok vs.length
  items : (a.items?.isSome && b.items?.isSome) = true
  symm : ∀ u ∈ us, ∀ v ∈ vs, same u v = same v u

theorem Value.count_of_items {a : Value} {xs : List Value} (h : a.items? = some xs)
    (hlen : xs.length ≤ Value.countLimit) : a.count = .ok xs.length := by
  cases a with
  | range start stop step =>
      have hxs := Option.some.inj h
      subst hxs
      have hcount :
          ((rangeItems start stop step).map int).length = rangeLength start stop step := by
        rw [List.length_map, rangeItems, List.length_map, List.length_range]
      rw [hcount] at hlen ⊢
      exact if_neg (Nat.not_lt.mpr hlen)
  | text s => cases h; rfl
  | illFormed codes => cases h; rfl
  | bytes mutable octets => cases h; rfl
  | list items => cases h; rfl
  | tuple items => cases h; rfl
  | _ => exact nomatch h

/-- What has a number of items is there. -/
theorem given_of_count {a : Value} {n : Nat} (h : a.count = .ok n) {name : String} :
    given name a = .ok () := by
  cases a with
  | null => exact nomatch h
  | _ => rfl

/-- Two sequences that are not two texts are compared with the equality of values. -/
theorem onItems_of_items {a b : Value} {xs ys : List Value} (ha : a.items? = some xs)
    (hb : b.items? = some ys) (hne : ∀ s t, a = .text s → b ≠ .text t) {β : Type}
    (f : {γ : Type} → (γ → γ → Bool) → List γ → List γ → β) :
    onItems f a b = .ok (f Value.equal xs ys) := by
  have hea : a.elements? = some xs := by
    cases a with
    | set frozen members => exact nomatch ha
    | dict entries => exact nomatch ha
    | charRange span negated => exact nomatch ha
    | _ => exact ha
  have heb : b.elements? = some ys := by
    cases b with
    | set frozen members => exact nomatch hb
    | dict entries => exact nomatch hb
    | charRange span negated => exact nomatch hb
    | _ => exact hb
  rw [onItems.eq_2 _ _ _ (fun s t has hbt => hne s t has hbt), hea, heb]

/-- Two texts are seen as lists of their characters. -/
theorem Value.seenAs_texts (s t : String) :
    (Value.text s).SeenAs (.text t) (fun c d => c == d) s.toList t.toList := by
  refine ⟨fun f => rfl, ?_, ?_, rfl, fun _ _ _ _ => BEq.comm⟩
  · show Except.ok (s.toList.map fun c => ofChars [c]).length = _
    rw [List.length_map]
  · show Except.ok (t.toList.map fun c => ofChars [c]).length = _
    rw [List.length_map]

/-- Two sequences are seen as lists of their items, or of their characters. -/
theorem Value.exists_seenAs {a b : Value} {xs ys : List Value}
    (ha : a.items? = some xs) (hb : b.items? = some ys)
    (hxs : xs.length ≤ Value.countLimit) (hys : ys.length ≤ Value.countLimit)
    (hsym : ∀ x ∈ xs, ∀ y ∈ ys, Value.equal x y = Value.equal y x) :
    ∃ (α : Type) (same : α → α → Bool) (us vs : List α),
      a.SeenAs b same us vs ∧ us.length = xs.length ∧ vs.length = ys.length := by
  by_cases htexts : ∃ s t, a = .text s ∧ b = .text t
  · obtain ⟨s, t, rfl, rfl⟩ := htexts
    cases ha
    cases hb
    exact ⟨Char, _, _, _, Value.seenAs_texts s t, (List.length_map _).symm,
      (List.length_map _).symm⟩
  · refine ⟨Value, Value.equal, xs, ys, ⟨?_, ?_, ?_, ?_, hsym⟩, rfl, rfl⟩
    · intro β f
      exact onItems_of_items ha hb (fun s t has hbt => htexts ⟨s, t, has, hbt⟩) f
    · exact Value.count_of_items ha hxs
    · exact Value.count_of_items hb hys
    · rw [ha, hb]
      rfl

/-! ## Thresholds -/

theorem Score.below_whole (m n : Int) :
    (Score.whole m : Score Float).below (.whole n) = decide (m < n) := by
  show decide (m * ((1 : Nat) : Int) < n * ((1 : Nat) : Int)) = decide (m < n)
  rw [Int.natCast_one, Int.mul_one, Int.mul_one]

theorem Edit.beyond_whole (n d : Nat) : Edit.beyond (.whole n) d = decide (n < d) := by
  rw [Edit.beyond, Score.below_whole]
  exact decide_eq_decide.mpr Int.ofNat_lt

/-- The lengths bound the distance from below, and give it when one of them is
    zero. -/
theorem Edit.distance_of_lengths {α : Type} {same : α → α → Bool} {xs ys : List α}
    (hsym : ∀ x ∈ xs, ∀ y ∈ ys, same x y = same y x) :
    max xs.length ys.length - min xs.length ys.length ≤ Edit.distance same xs ys ∧
      (min xs.length ys.length = 0 →
        Edit.distance same xs ys = max xs.length ys.length) := by
  rw [Edit.distance_eq_gap hsym]
  have h := Edit.le_gap_add (Edit.differ same xs ys) xs.length ys.length
  refine ⟨by omega, ?_⟩
  intro hmin
  rcases (by omega : xs.length = 0 ∨ ys.length = 0) with hx | hy
  · rw [hx, Edit.gap_zero_left, Nat.zero_max]
  · rw [hy, Edit.gap_zero_right, Nat.max_zero]

/-- The mark, or the distance. -/
theorem marked_ite (d n : Nat) :
    marked (if d ≤ n then some d else none) = if d ≤ n then (d : Int) else -1 := by
  split
  · rfl
  · rfl

section SeenAs

variable {α : Type} {a b : Value} {same : α → α → Bool} {us vs : List α}

theorem Value.SeenAs.counted (h : a.SeenAs b same us vs) {β : Type}
    (f : {γ : Type} → (γ → γ → Bool) → List γ → List γ → β) :
    onCounted f a b = .ok (f same us vs) := by
  rw [onCounted, h.count_left, h.count_right]
  exact h.compared f

theorem Value.SeenAs.given_left (h : a.SeenAs b same us vs) (name : String) :
    given name a = .ok () :=
  given_of_count h.count_left

theorem Value.SeenAs.given_right (h : a.SeenAs b same us vs) (name : String) :
    given name b = .ok () :=
  given_of_count h.count_right

/-- The distance within a bound, for sequences that are seen as lists. -/
theorem Value.SeenAs.within (h : a.SeenAs b same us vs)
    (hus : us.length ≤ Edit.unreachable) (hvs : vs.length ≤ Edit.unreachable) (n : Nat) :
    editDistanceWithin (.whole n) a b
      = .ok (if Edit.distance same us vs ≤ n then some (Edit.distance same us vs) else none) := by
  obtain ⟨hfar, hzero⟩ := Edit.distance_of_lengths h.symm
  unfold editDistanceWithin
  rw [h.count_left, h.count_right, h.items]
  show (if Edit.beyond (.whole n) (max us.length vs.length - min us.length vs.length) then
      (Except.ok none : Except Fault (Option Nat))
    else if min us.length vs.length = 0 then .ok (some (max us.length vs.length))
    else onItems (fun same xs ys => Edit.distanceWithin? same xs ys n) a b) = _
  rw [Edit.beyond_whole]
  by_cases hlen : n < max us.length vs.length - min us.length vs.length
  · rw [if_pos (decide_eq_true hlen), if_neg (by omega)]
  · rw [if_neg (by simpa using hlen)]
    by_cases hmin : min us.length vs.length = 0
    · rw [if_pos hmin, hzero hmin, if_pos (by omega)]
    · rw [if_neg hmin, ← Edit.distanceWithin?_eq h.symm hus hvs]
      exact h.compared fun same xs ys => Edit.distanceWithin? same xs ys n

/-- The edit distance without a threshold. -/
theorem Value.SeenAs.editDistance_none (h : a.SeenAs b same us vs) :
    editDistance a b none = .ok (Edit.distance same us vs : Int) := by
  rw [editDistance, h.given_left, h.given_right]
  show (onCounted Edit.distance a b).map _ = _
  rw [h.counted]
  rfl

/-- The edit distance under a threshold that is a whole number. -/
theorem Value.SeenAs.editDistance_some (h : a.SeenAs b same us vs)
    (hus : us.length ≤ Edit.unreachable) (hvs : vs.length ≤ Edit.unreachable)
    {p : Parameter Float} {n : Nat} (hp : p.value = .whole n) :
    editDistance a b (some p)
      = .ok (if Edit.distance same us vs ≤ n then (Edit.distance same us vs : Int) else -1) := by
  have hpos : (Score.whole n : Score Float).isNegative = false :=
    decide_eq_false (Int.not_lt.mpr (Int.natCast_nonneg n))
  rw [editDistance, h.given_left, h.given_right, hp]
  show (if (Score.whole n : Score Float).isNegative then
      (Except.error (.negativeThreshold p.text) : Except Fault Int)
    else (editDistanceWithin (.whole n) a b).map marked) = _
  rw [hpos, if_neg Bool.false_ne_true, h.within hus hvs]
  exact congrArg Except.ok (marked_ite _ _)

theorem Value.SeenAs.editDistanceUpTo_int (h : a.SeenAs b same us vs) (n : Nat) :
    editDistanceUpTo (.int n) a b
      = editDistance a b (some ⟨.whole n, (Value.int n).plain⟩) := by
  rw [editDistanceUpTo, h.given_left, h.given_right]
  rfl

/-- The Jaro similarity of values that are seen as lists. -/
theorem Value.SeenAs.jaroSimilarity {K : Type} [Scalar K] (h : a.SeenAs b same us vs) :
    (Likeness.jaroSimilarity a b : Except Fault K) = .ok (Match.jaro same us vs) := by
  have hitems : b.items?.isSome = true := (Bool.and_eq_true_iff.mp h.items).2
  have hchoice : (us.length = 0 || vs.length = 0 || b.items?.isSome) = true := by
    rw [hitems, Bool.or_true]
  rw [Likeness.jaroSimilarity, h.given_left, h.given_right, h.count_left, h.count_right]
  exact (if_pos hchoice).trans (h.compared fun same xs ys => Match.jaro same xs ys)

end SeenAs

/-- **A THRESHOLD ONLY HIDES**: for items of any kind with a symmetric test, and for
    values that are sequences, the distance under a threshold is the distance
    when that is within the threshold, and the mark otherwise. -/
theorem editDistanceUpTo_eq (n : Nat) :
    (∀ {α : Type} (same : α → α → Bool) (xs ys : List α),
      (∀ x ∈ xs, ∀ y ∈ ys, same x y = same y x) →
      xs.length ≤ Edit.unreachable → ys.length ≤ Edit.unreachable →
      marked (Edit.distanceWithin? same xs ys n)
        = if Edit.distance same xs ys ≤ n then (Edit.distance same xs ys : Int) else -1) ∧
    (∀ (a b : Value) (xs ys : List Value), a.items? = some xs → b.items? = some ys →
      (∀ x ∈ xs, ∀ y ∈ ys, Value.equal x y = Value.equal y x) →
      xs.length ≤ Edit.unreachable → ys.length ≤ Edit.unreachable →
      ∃ d : Nat, editDistanceUpTo .null a b = .ok d ∧
        editDistanceUpTo (.int n) a b = .ok (if d ≤ n then (d : Int) else -1)) := by
  constructor
  · intro α same xs ys hsym hxs hys
    rw [Edit.distanceWithin?_eq hsym hxs hys, marked_ite]
  · intro a b xs ys ha hb hsym hxs hys
    obtain ⟨α, same, us, vs, h, hus, hvs⟩ := Value.exists_seenAs ha hb hxs hys hsym
    refine ⟨Edit.distance same us vs, h.editDistance_none, ?_⟩
    rw [h.editDistanceUpTo_int]
    exact h.editDistance_some (hus ▸ hxs) (hvs ▸ hys) rfl

/-- A test under which zero is not equal to itself, and two texts that are compared
    character by character. -/
theorem editDistanceUpTo_eq_without_reflexivity :
    (∀ x ∈ [1, 0, 2], ∀ y ∈ [0, 2], (x == y && x != 0) = (y == x && y != (0 : Nat))) ∧
    marked (Edit.distanceWithin? (fun x y => x == y && x != (0 : Nat)) [1, 0, 2] [0, 2] 1) = -1 ∧
    ∃ d : Nat, editDistanceUpTo .null (.text "kitten") (.text "sitting") = .ok d ∧
      editDistanceUpTo (.int 2) (.text "kitten") (.text "sitting")
        = .ok (if d ≤ 2 then (d : Int) else -1) := by
  refine ⟨by decide, ?_, ?_⟩
  · rw [(editDistanceUpTo_eq 1).1 _ _ _ (by decide) (by decide) (by decide)]
    decide
  · exact (editDistanceUpTo_eq 2).2 (.text "kitten") (.text "sitting") _ _ rfl rfl
      (by decide) (by decide) (by decide)

end Likeness
