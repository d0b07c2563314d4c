import Likeness.Proofs.Match.Boost
import Likeness.Proofs.Ranking
import Mathlib.Data.List.FinRange

/-! # The order of a ranking

    Scores of one metric are of one kind, all integers or all numbers of the formulas,
    so a ranking compares them as what they denote.  It is known by the places of its
    candidates: those with a score that is not negative, each of them once, a better
    score in front of a worse one, and equal scores as the candidates came.  Only one
    list of places is so ordered (`Ranking.IsOrder.unique`), and a ranking follows it
    (`Ranking.rank_of_isOrder`). -/

namespace Likeness

variable {K : Type} [Scalar K]

/-! ## Scores of one kind -/

/-- What a score denotes, with the special values as zero. -/
def Score.value (s : Score K) : ℚ := s.exact.fraction

theorem Score.Denotes.value {s : Score K} {a : ℚ} (h : s.Denotes a) : s.value = a := by
  obtain ⟨num, den, hexact, -, rfl⟩ := h.exact
  rw [Score.value, hexact]
  rfl

theorem Score.value_whole (n : Int) : (Score.whole n : Score Rat).value = n :=
  (Score.Denotes.whole n).value

theorem Score.value_real (x : Rat) : (Score.real x : Score Rat).value = x :=
  (Score.Denotes.real (Scalar.denotes_fraction x)).value

theorem Score.denotes_value (s : Score Rat) : s.Denotes s.value := by
  cases s with
  | whole n => exact (value_whole n).symm ▸ .whole n
  | real x => exact (value_real x).symm ▸ .real (Scalar.denotes_fraction x)

/-- A score that is an integer, or one that is a number of the formulas. -/
inductive Score.OfKind : Bool → Score K → Prop where
  | whole (n : Int) : OfKind false (.whole n)
  | real {x : K} {a : ℚ} (h : Scalar.Denotes x a) : OfKind true (.real x)

theorem Score.OfKind.denotes {kind : Bool} {s : Score K} (h : s.OfKind kind) :
    ∃ a, s.Denotes a := by
  cases h with
  | whole n => exact ⟨n, .whole n⟩
  | real h => exact ⟨_, .real h⟩

theorem Score.OfKind.isWhole {kind : Bool} {s : Score K} (h : s.OfKind kind) :
    s.isWhole = !kind := by
  cases h with
  | whole n => rfl
  | real h => rfl

/-- The score is no integer beyond 64 bits. -/
def Score.HasRoom : Score K → Prop
  | .whole n => -(twoTo 63) ≤ n ∧ n < twoTo 63
  | .real _ => True

/-- What a ranking sorts by. -/
def Ranking.key (higherIsBetter : Bool) (s : Score K) : ℚ :=
  if higherIsBetter then -s.value else s.value

theorem Ranking.value_of_key {higherIsBetter : Bool} {s t : Score K}
    (h : key higherIsBetter s = key higherIsBetter t) : s.value = t.value := by
  cases higherIsBetter with
  | false => exact h
  | true => exact neg_injective h

namespace Ranking

/-! ## Orders of scores -/

/-- One score is a better match than another. -/
def Better (higherIsBetter : Bool) (s t : Score K) : Prop :=
  if higherIsBetter then t.value < s.value else s.value < t.value

/-- The places of a ranking, in its order. -/
structure IsOrder {n : Nat} (higherIsBetter : Bool) (score : Fin n → Score K)
    (places : List (Fin n)) : Prop where
  /-- A place is left out when its score is negative. -/
  mem_iff : ∀ i, i ∈ places ↔ 0 ≤ (score i).value
  nodup : places.Nodup
  /-- The best comes first, and what is equally good stays as it was. -/
  sorted : places.Pairwise fun i j =>
    Better higherIsBetter (score i) (score j) ∨ (score i).value = (score j).value ∧ i < j

theorem better_iff {higherIsBetter : Bool} {s t : Score K} :
    Better higherIsBetter s t ↔ key higherIsBetter s < key higherIsBetter t := by
  cases higherIsBetter with
  | false => exact Iff.rfl
  | true => exact neg_lt_neg_iff.symm

theorem key_eq_iff (higherIsBetter : Bool) {s t : Score K} :
    key higherIsBetter s = key higherIsBetter t ↔ s.value = t.value := by
  constructor
  · exact value_of_key
  · intro h
    rw [key, key, h]

section Places

variable {n : Nat} {higherIsBetter : Bool} {score : Fin n → Score K} {places others : List (Fin n)}

/-- Two places cannot both be in front of the other. -/
theorem not_before_both {i j : Fin n}
    (h : Better higherIsBetter (score i) (score j) ∨ (score i).value = (score j).value ∧ i < j)
    (h' : Better higherIsBetter (score j) (score i) ∨ (score j).value = (score i).value ∧ j < i) :
    False := by
  rw [better_iff, ← key_eq_iff higherIsBetter] at h h'
  rcases h with h | ⟨h, hij⟩
  · rcases h' with h' | ⟨h', -⟩
    · exact lt_asymm h h'
    · exact h.ne' h'
  · rcases h' with h' | ⟨-, hji⟩
    · exact h'.ne' h
    · exact lt_asymm hij hji

/-- **THERE IS ONE ORDER** of a ranking. -/
theorem IsOrder.unique (h : IsOrder higherIsBetter score places)
    (h' : IsOrder higherIsBetter score others) : others = places := by
  have hperm : others.Perm places := by
    refine (List.perm_ext_iff_of_nodup h'.nodup h.nodup).mpr ?_
    intro i
    rw [h.mem_iff, h'.mem_iff]
  refine List.Perm.eq_of_pairwise ?_ h'.sorted h.sorted hperm
  intro i j _ _ hij hji
  exact (not_before_both hij hji).elim

/-- What is in front of an order is at least as good as all that is in it. -/
theorem IsOrder.head_le {i j : Fin n} (h : IsOrder higherIsBetter score (i :: places))
    (hj : j ∈ i :: places) : key higherIsBetter (score i) ≤ key higherIsBetter (score j) := by
  rcases List.mem_cons.mp hj with rfl | hj
  · exact le_rfl
  · rcases (List.pairwise_cons.mp h.sorted).1 j hj with hbetter | ⟨hequal, -⟩
    · exact (better_iff.mp hbetter).le
    · exact ((key_eq_iff higherIsBetter).mpr hequal).le

/-- The places sorted by their scores: the ones left out are left out first. -/
def sortedPlaces (higherIsBetter : Bool) (score : Fin n → Score K) : List (Fin n) :=
  ((List.finRange n).filter fun i => decide (0 ≤ (score i).value)).mergeSort
    fun i j => decide (key higherIsBetter (score i) ≤ key higherIsBetter (score j))

theorem sortedPlaces_isOrder (higherIsBetter : Bool) (score : Fin n → Score K) :
    IsOrder higherIsBetter score (sortedPlaces higherIsBetter score) := by
  have hperm := List.mergeSort_perm
    ((List.finRange n).filter fun i => decide (0 ≤ (score i).value))
    fun i j => decide (key higherIsBetter (score i) ≤ key higherIsBetter (score j))
  refine ⟨?_, ?_, ?_⟩
  · intro i
    refine hperm.mem_iff.trans ?_
    simp
  · exact hperm.nodup_iff.mpr ((List.nodup_finRange n).filter _)
  · refine (pairwise_mergeSort_stable ?_ ?_ ((List.pairwise_lt_finRange n).filter _)).imp ?_
    · simpa using fun i j k => le_trans
    · simpa using fun i j => le_total (key higherIsBetter (score i)) (key higherIsBetter (score j))
    -- Where the keys are equal, the sort is stable and the places were ascending.
    rintro i j ⟨hle, hcame⟩
    rw [better_iff, ← key_eq_iff higherIsBetter]
    rcases (of_decide_eq_true hle).lt_or_eq with hlt | heq
    · exact .inl hlt
    · exact .inr ⟨heq, hcame (decide_eq_true heq.ge)⟩

end Places

end Ranking

/-! ## Scores as a ranking compares them -/

variable [Scalar.Rounds K]

/-- Scores of one kind are compared as what they denote. -/
theorem Score.OfKind.atMost {kind : Bool} {s t : Score K} (hs : s.OfKind kind)
    (ht : t.OfKind kind) : s.atMost t = decide (s.value ≤ t.value) := by
  cases hs with
  | whole m =>
      cases ht with
      | whole n =>
          rw [(Score.Denotes.whole (K := K) m).value, (Score.Denotes.whole (K := K) n).value]
          exact decide_eq_decide.mpr Int.cast_le.symm
  | real hx =>
      cases ht with
      | real hy =>
          rw [(Score.Denotes.real hx).value, (Score.Denotes.real hy).value]
          exact hx.atMost hy

/-- A score of one kind is known by what it denotes, unless that is zero. -/
theorem Score.OfKind.eq {kind : Bool} {s t : Score K} (hs : s.OfKind kind) (ht : t.OfKind kind)
    (hkind : kind = true → t.value ≠ 0) (h : s.value = t.value) : s = t := by
  cases hs with
  | whole m =>
      cases ht with
      | whole n =>
          rw [(Score.Denotes.whole (K := K) m).value, (Score.Denotes.whole (K := K) n).value] at h
          exact congrArg Score.whole (by exact_mod_cast h)
  | real hx =>
      cases ht with
      | real hy =>
          rw [(Score.Denotes.real hy).value] at hkind
          rw [(Score.Denotes.real hx).value, (Score.Denotes.real hy).value] at h
          exact congrArg Score.real (Scalar.Rounds.injective hx (h ▸ hy) (h ▸ hkind rfl))

/-- A score is ranked when what it denotes is not negative. -/
theorem Score.Denotes.isRanked {s : Score K} {a : ℚ} (h : s.Denotes a) :
    s.isRanked = decide (0 ≤ s.value) := by
  rw [h.value]
  cases h with
  | whole n => exact decide_eq_decide.mpr Int.cast_nonneg_iff.symm
  | real hx => exact Scalar.zero_denotes.atMost hx

theorem Score.OfKind.isRanked {kind : Bool} {s : Score K} (h : s.OfKind kind) :
    s.isRanked = decide (0 ≤ s.value) := by
  obtain ⟨a, ha⟩ := h.denotes
  exact ha.isRanked

namespace Ranking

theorem atLeastAsGood_eq {kind higherIsBetter : Bool} {s t : Score K} (hs : s.OfKind kind)
    (ht : t.OfKind kind) :
    atLeastAsGood higherIsBetter s t = decide (key higherIsBetter s ≤ key higherIsBetter t) := by
  rw [atLeastAsGood, hs.atMost ht, ht.atMost hs]
  cases higherIsBetter with
  | false => rfl
  | true => exact decide_eq_decide.mpr neg_le_neg_iff.symm

/-! ## Rankings -/

/-- A list by the places of its items. -/
theorem map_places {α β : Type} (f : α → β) (l : List α) :
    ((List.finRange l.length).map fun i => f l[i]) = l.map f := by
  conv_rhs => rw [← List.map_getElem_finRange l, List.map_map]
  rfl

omit [Scalar.Rounds K] in
/-- Scores of one kind are held as they are. -/
theorem held_of_kind {α : Type} {m : Metric K} {query : Value} {candidates : List α}
    {value : α → Value} {score : α → Score K} {kind : Bool}
    (hscore : ∀ c ∈ candidates, m.score (value c) query = .ok (score c) ∧
      (score c).OfKind kind) :
    (scored m query (candidates.map value)).bind alike
      = .ok (candidates.map fun c => (value c, score c)) :=
  held_of_isWhole fun c hc => ⟨(hscore c hc).1, (hscore c hc).2.isWhole⟩

/-- **A RANKING FOLLOWS THE ORDER OF ITS SCORES**, which are integers all or numbers of the
    formulas all. -/
theorem rank_of_isOrder {α : Type} {m : Metric K} {query : Value} {candidates : List α}
    {value : α → Value} {score : α → Score K} {kind : Bool}
    (hscore : ∀ c ∈ candidates, m.score (value c) query = .ok (score c) ∧ (score c).OfKind kind)
    {places : List (Fin candidates.length)}
    (horder : IsOrder m.higherIsBetter (fun i : Fin candidates.length => score candidates[i]) places)
    (limit : Option Int) :
    rank m query (candidates.map value) limit
      = .ok (upTo limit (places.map fun i => (value candidates[i], score candidates[i]))) := by
  obtain rfl := (sortedPlaces_isOrder _ _).unique horder
  have hheld : (scored m query (candidates.map value)).bind alike
      = .ok ((List.finRange candidates.length).map
          fun i => (value candidates[i], score candidates[i])) := by
    rw [map_places fun c => (value c, score c)]
    exact held_of_kind hscore
  have hkind : ∀ i : Fin candidates.length, (score candidates[i]).OfKind kind :=
    fun i => (hscore _ (List.getElem_mem i.isLt)).2
  rw [rank, hheld]
  show Except.ok (upTo limit _) = _
  -- To sort the candidates with their scores is to sort their places by these scores.
  rw [List.filter_map, sortedPlaces, List.map_mergeSort
    (s := fun c d : Value × Score K => atLeastAsGood m.higherIsBetter c.2 d.2)]
  · refine congrArg (fun places => Except.ok (upTo limit (List.mergeSort (List.map _ places) _))) ?_
    refine List.filter_congr ?_
    intro i _
    exact (hkind i).isRanked
  · intro i _ j _
    exact (atLeastAsGood_eq (hkind i) (hkind j)).symm

/-- A limit that is not below one leaves what is in front. -/
theorem upTo_cons {α : Type} {limit : Option Int} (hlimit : ∀ n, limit = some n → 1 ≤ n) (x : α)
    (rest : List α) : ∃ rest', upTo limit (x :: rest) = x :: rest' := by
  cases limit with
  | none => exact ⟨rest, rfl⟩
  | some n =>
      obtain ⟨k, hk⟩ : ∃ k, n.toNat = k + 1 := ⟨n.toNat - 1, by have := hlimit n rfl; omega⟩
      refine ⟨rest.take k, ?_⟩
      rw [upTo, hk, List.take_succ_cons]

/-- In front of a ranking is a candidate with a score that is at least as good as any. -/
theorem exists_rank_head {m : Metric K} {query : Value} {candidates : List Value} {kind : Bool}
    (hscore : ∀ c ∈ candidates, ∃ s, m.score c query = .ok s ∧ s.OfKind kind)
    {c₀ : Value} (hmem : c₀ ∈ candidates) {best : Score K}
    (hbest : m.score c₀ query = .ok best) (hranked : best.isRanked = true)
    {limit : Option Int} (hlimit : ∀ n, limit = some n → 1 ≤ n) :
    ∃ c ∈ candidates, ∃ s rest, rank m query candidates limit = .ok ((c, s) :: rest) ∧
      m.score c query = .ok s ∧ s.isRanked = true ∧
      key m.higherIsBetter s ≤ key m.higherIsBetter best := by
  have : Nonempty (Score K) := ⟨best⟩
  choose! score hscore using hscore
  obtain rfl := Except.ok.inj (hbest.symm.trans (hscore c₀ hmem).1)
  obtain ⟨i₀, rfl⟩ : ∃ i₀ : Fin candidates.length, candidates[i₀] = c₀ := List.get_of_mem hmem
  rw [(hscore _ hmem).2.isRanked] at hranked
  have horder := sortedPlaces_isOrder m.higherIsBetter
    fun i : Fin candidates.length => score candidates[i]
  have hrank : rank m query (candidates.map id) limit = _ := rank_of_isOrder hscore horder limit
  rw [List.map_id] at hrank
  -- The candidate is ranked, so there is a first place, and nothing is better than that.
  have hplace := (horder.mem_iff i₀).mpr (of_decide_eq_true hranked)
  cases hplaces : sortedPlaces m.higherIsBetter
      fun i : Fin candidates.length => score candidates[i] with
  | nil =>
      rw [hplaces] at hplace
      exact nomatch hplace
  | cons i rest =>
      rw [hplaces] at horder hplace hrank
      obtain ⟨rest', hfront⟩ := upTo_cons hlimit (candidates[i], score candidates[i])
        (rest.map fun i => (candidates[i], score candidates[i]))
      have hmem' : candidates[i] ∈ candidates := List.getElem_mem i.isLt
      obtain ⟨hfirst, hkind⟩ := hscore _ hmem'
      have hpos : 0 ≤ (score candidates[i]).value := (horder.mem_iff i).mp List.mem_cons_self
      have hfirstRanked : (score candidates[i]).isRanked = true := by
        rw [hkind.isRanked]
        exact decide_eq_true hpos
      refine ⟨candidates[i], hmem', score candidates[i], rest', ?_, hfirst, hfirstRanked,
        horder.head_le hplace⟩
      exact hrank.trans (congrArg Except.ok hfront)

end Ranking

end Likeness
