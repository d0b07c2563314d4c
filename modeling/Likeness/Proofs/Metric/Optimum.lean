import Likeness.Metric.Positional
import Likeness.Metric.Registry
import Likeness.Proofs.Match.Similarity
import Likeness.Proofs.Match.Subsequence
import Likeness.Proofs.Matrix
import Likeness.Proofs.Metric.Builtin
import Likeness.Proofs.Metric.Order
import Likeness.Proofs.Scalar.DoubleRounds

/-! # Best scores and whole rankings

    Nothing matches a text better than the text: the best score of a built-in metric is
    that of a text with itself.  It is no distance, a similarity of one, or all points
    that a query can have.  What is in front of a ranking scores like the text itself
    (`Ranking.exact_match_first`).

    A ranking is in the one order of its scores.  No score of a built-in metric is
    negative, save the mark of a distance beyond its bound, so the other metrics rank
    every candidate (`Ranking.rank_in_order`).  A ranking drops every negative score,
    though, whatever metric gave it (`Ranking.rank_drops_negative`).  A metric that is
    registered may give one, and then a candidate is lost although nothing was beyond a
    bound (`Ranking.negative_distance_dropped`). -/

namespace Likeness

variable {K : Type} [Scalar K]

/-! ## Best scores -/

/-- A score that no text can beat: every text scores, and no better, unless it is beyond the
    bound of a bounded distance, which marks it. -/
structure Metric.Best (m : Metric K) (query : String) (kind : Bool) (best : Score K) : Prop where
  attained : m.score (.text query) (.text query) = .ok best
  ofKind : best.OfKind kind
  ranked : best.isRanked = true
  /-- A similarity of zero would not be the best one. -/
  nonzero : kind = true → best.value ≠ 0
  found : ∀ c : String, c.toList.length ≤ Edit.unreachable →
    ∃ s, m.score (.text c) (.text query) = .ok s ∧ s.OfKind kind ∧
      (s = .whole (-1) ∧ m.name = "levenshtein_bounded" ∨
        s.isRanked = true ∧
          Ranking.key m.higherIsBetter best ≤ Ranking.key m.higherIsBetter s)

theorem isRanked_natural (n : Nat) : (Score.whole n : Score K).isRanked = true :=
  decide_eq_true (Int.natCast_nonneg n)

theorem key_distance (n : Int) :
    Ranking.key false (Score.whole n : Score K) = n :=
  (Score.Denotes.whole (K := K) n).value

/-- A distance is best when it is none. -/
theorem Metric.Best.of_distance {m : Metric K} (hm : m.higherIsBetter = false) {query : String}
    (hself : m.score (.text query) (.text query) = .ok (.whole 0))
    (hfound : ∀ c : String, c.toList.length ≤ Edit.unreachable →
      m.score (.text c) (.text query) = .ok (.whole (-1)) ∧ m.name = "levenshtein_bounded" ∨
        ∃ n : Nat, m.score (.text c) (.text query) = .ok (.whole n)) :
    m.Best query false (.whole 0) := by
  refine ⟨hself, .whole 0, isRanked_natural 0, (fun h => nomatch h), fun c hc => ?_⟩
  rcases hfound c hc with ⟨hmark, hname⟩ | ⟨n, hn⟩
  · exact ⟨_, hmark, .whole _, .inl ⟨rfl, hname⟩⟩
  · refine ⟨_, hn, .whole _, .inr ⟨isRanked_natural n, ?_⟩⟩
    rw [hm, key_distance, key_distance]
    exact_mod_cast Nat.zero_le n

variable [Scalar.Rounds K]

/-! ## The best score of each metric -/

theorem isRanked_within {x : K} {c : ℚ} (h : Scalar.Within x c) :
    (Score.real x).isRanked = true := by
  obtain ⟨a, ha, h0, -⟩ := h
  exact (Scalar.zero_denotes.atMost ha).trans (decide_eq_true h0)

theorem textDistance_self (s : String) : textDistance s s = 0 :=
  Edit.distance_self (fun _ _ _ _ => BEq.comm) fun c _ => beq_self_eq_true c

/-- A similarity is best when it is one. -/
theorem Metric.Best.of_similarity {m : Metric K} (hm : m.higherIsBetter = true) {query : String}
    {x : K} (hself : m.score (.text query) (.text query) = .ok (.real x))
    (hone : Scalar.Denotes x 1)
    (hfound : ∀ c : String, c.toList.length ≤ Edit.unreachable →
      ∃ y, m.score (.text c) (.text query) = .ok (.real y) ∧ Scalar.Within y 1) :
    m.Best query true (.real x) := by
  have hvalue : (Score.real x).value = 1 := (Score.Denotes.real hone).value
  refine ⟨hself, .real hone, isRanked_within ⟨1, hone, zero_le_one, le_rfl⟩, ?_, fun c hc => ?_⟩
  · rw [hvalue]
    exact fun _ => one_ne_zero
  · obtain ⟨y, hy, hwithin⟩ := hfound c hc
    obtain ⟨a, ha, -, ha1⟩ := id hwithin
    refine ⟨_, hy, .real ha, .inr ⟨isRanked_within hwithin, ?_⟩⟩
    rw [hm]
    show -(Score.real x).value ≤ -(Score.real y).value
    rw [hvalue, (Score.Denotes.real ha).value]
    exact neg_le_neg ha1

/-- A built-in metric, with parameters that it accepts and that are not special. -/
inductive Metric.Proper : Metric K → Prop where
  | levenshtein : Proper .levenshtein
  | bounded {p : Parameter Float} {n : Nat} (h : p.value = .whole n) :
      Proper (.boundedLevenshtein p)
  | jaro : Proper .jaro
  | winkler {p : Match.Boost K} (h : p.check = .ok ()) (hfinite : p.Finite) :
      Proper (.jaroWinkler p)
  | fuzzy : Proper .fuzzy

/-- **EVERY BUILT-IN METRIC HAS A BEST SCORE**, which a text gets for itself. -/
theorem Metric.Proper.exists_best {m : Metric K} (hm : m.Proper) {query : String}
    (hquery : query.toList.length ≤ Edit.unreachable) : ∃ kind best, m.Best query kind best := by
  have hsame : Scalar.Denotes (textJaro query query : K) 1 := textJaro_self hquery
  cases hm with
  | levenshtein =>
      refine ⟨_, _, .of_distance rfl ?_ fun c _ => .inr ⟨_, levenshtein_texts c query⟩⟩
      rw [levenshtein_texts, textDistance_self]
      rfl
  | @bounded p n hp =>
      refine ⟨_, _, .of_distance rfl ?_ fun c hc => ?_⟩
      · rw [boundedLevenshtein_texts hquery hquery hp, textDistance_self, if_pos (Nat.zero_le n)]
        rfl
      · rw [boundedLevenshtein_texts hc hquery hp]
        split_ifs
        · exact .inr ⟨_, rfl⟩
        · exact .inl ⟨rfl, rfl⟩
  | jaro =>
      exact ⟨_, _, .of_similarity rfl (jaro_texts query query) hsame
        fun c hc => ⟨_, jaro_texts c query, textJaro_within hc hquery⟩⟩
  | @winkler p hcheck hfinite =>
      have hraise : ∀ c : String, c.toList.length ≤ Edit.unreachable → ∃ x,
          (Metric.jaroWinkler p).score (.text c) (.text query) = .ok (.real x) ∧
            Scalar.Within x 1 ∧ (Scalar.Denotes (textJaro c query : K) 1 → Scalar.Denotes x 1) := by
        intro c hc
        obtain ⟨x, hx, hwithin, hone⟩ := Match.Boost.raise_within hcheck hfinite
          (textJaro_within hc hquery) (sharedLength_lt hc query)
        refine ⟨x, ?_, hwithin, hone⟩
        rw [jaroWinkler_texts hcheck, hx]
        rfl
      obtain ⟨x, hx, -, hone⟩ := hraise query hquery
      refine ⟨_, _, .of_similarity rfl hx (hone hsame) fun c hc => ?_⟩
      obtain ⟨y, hy, hwithin, -⟩ := hraise c hc
      exact ⟨y, hy, hwithin⟩
  | fuzzy =>
      refine ⟨false, _, ⟨fuzzy_texts query query, .whole _, isRanked_natural _,
        (fun h => nomatch h), fun c _ => ⟨_, fuzzy_texts c query, .whole _,
          .inr ⟨isRanked_natural _, ?_⟩⟩⟩⟩
      show -(Score.whole _ : Score K).value ≤ -(Score.whole _ : Score K).value
      rw [(Score.Denotes.whole _).value, (Score.Denotes.whole _).value]
      refine neg_le_neg ?_
      exact_mod_cast Match.subsequenceScore_le_self c.toList query.toList

/-- **AN EXACT MATCH IS RANKED FIRST.**  By every built-in metric a text gets a score for itself
    that no other text beats, save that a bounded distance marks what is beyond its bound.  When
    the text is among the candidates and the limit leaves any, the ranking starts with a
    candidate that has this very score. -/
theorem Ranking.exact_match_first {m : Metric K} (hm : m.Proper) {query : String}
    (hquery : query.toList.length ≤ Edit.unreachable) :
    ∃ best, m.score (.text query) (.text query) = .ok best ∧
      (∀ c : String, c.toList.length ≤ Edit.unreachable →
        ∃ s, m.score (.text c) (.text query) = .ok s ∧
          (s = .whole (-1) ∧ m.name = "levenshtein_bounded" ∨
            s.isRanked = true ∧ atLeastAsGood m.higherIsBetter best s = true)) ∧
      ∀ (candidates : List String) (limit : Option Int),
        (∀ c ∈ candidates, c.toList.length ≤ Edit.unreachable) → query ∈ candidates →
        (∀ n, limit = some n → 1 ≤ n) →
        ∃ first rest, rank m (.text query) (candidates.map .text) limit
          = .ok ((.text first, best) :: rest) ∧ first ∈ candidates := by
  obtain ⟨kind, best, hbest⟩ := hm.exists_best hquery
  refine ⟨best, hbest.attained, fun c hc => ?_, fun candidates limit hlengths hmem hlimit => ?_⟩
  · obtain ⟨s, hs, hkind, hmark | ⟨hranked, hkey⟩⟩ := hbest.found c hc
    · exact ⟨s, hs, .inl hmark⟩
    · exact ⟨s, hs, .inr ⟨hranked,
        (atLeastAsGood_eq hbest.ofKind hkind).trans (decide_eq_true hkey)⟩⟩
  · have hscore : ∀ c ∈ candidates.map Value.text,
        ∃ s, m.score c (.text query) = .ok s ∧ s.OfKind kind := by
      intro c hc
      obtain ⟨c, hmem, rfl⟩ := List.mem_map.mp hc
      obtain ⟨s, hs, hkind, -⟩ := hbest.found c (hlengths c hmem)
      exact ⟨s, hs, hkind⟩
    obtain ⟨c, hc, s, rest, hrank, hs, hranked, hkey⟩ := exists_rank_head hscore
      (List.mem_map_of_mem hmem) hbest.attained hbest.ranked hlimit
    obtain ⟨first, hfirst, rfl⟩ := List.mem_map.mp hc
    obtain ⟨s', hs', hkind, hmark | ⟨-, hkey'⟩⟩ := hbest.found first (hlengths first hfirst)
    · obtain rfl := Except.ok.inj (hs.symm.trans hs')
      rw [hmark.1] at hranked
      exact nomatch hranked
    · obtain rfl := Except.ok.inj (hs.symm.trans hs')
      -- No worse than the best score and no better, it is the best one.
      have hvalue : s.value = best.value := value_of_key (le_antisymm hkey hkey')
      obtain rfl := hkind.eq hbest.ofKind hbest.nonzero hvalue
      exact ⟨first, rest, hrank, hfirst⟩

/-- The best of two candidates by the Jaro-Winkler similarity in doubles, with the parameters
    that it has unless others are given. -/
theorem Ranking.exact_match_first_dixon :
    let m : Metric Float :=
      .jaroWinkler ⟨⟨.real Match.defaultScaling, "0.1"⟩, ⟨.whole Match.defaultPrefixLimit, "4"⟩⟩
    ∃ best first rest, m.score (.text "dixon") (.text "dixon") = .ok best ∧
      rank m (.text "dixon") (["dicksonx", "dixon"].map .text) (some 1)
        = .ok ((.text first, best) :: rest) ∧ first ∈ ["dicksonx", "dixon"] := by
  intro m
  have hcheck : (⟨⟨.real Match.defaultScaling, "0.1"⟩, ⟨.whole Match.defaultPrefixLimit, "4"⟩⟩ :
      Match.Boost Float).check = .ok () := by decide +kernel
  have hscaling : Scalar.exact Match.defaultScaling
      = .ratio 7205759403792794 72057594037927936 := by decide +kernel
  have hproper : m.Proper :=
    .winkler hcheck ⟨⟨_, .real ⟨_, _, hscaling, by norm_num, rfl⟩⟩, ⟨_, .whole _⟩⟩
  obtain ⟨best, hself, -, hfirst⟩ := exact_match_first hproper
    (by decide : "dixon".toList.length ≤ Edit.unreachable)
  obtain ⟨first, rest, hrank, hmem⟩ := hfirst ["dicksonx", "dixon"] (some 1) (by decide) (by decide)
    (by simp)
  exact ⟨best, first, rest, hself, hrank, hmem⟩

/-! ## Whole rankings -/

namespace Ranking

/-- Every candidate has a score that is not negative, by a built-in metric that marks none. -/
theorem exists_scores {m : Metric K} (hm : m.Proper) (hname : m.name ≠ "levenshtein_bounded")
    {query : String} {candidates : List String}
    (hquery : query.toList.length ≤ Edit.unreachable)
    (hcandidates : ∀ c ∈ candidates, c.toList.length ≤ Edit.unreachable) :
    ∃ (score : String → Score K) (kind : Bool), ∀ c ∈ candidates,
      m.score (.text c) (.text query) = .ok (score c) ∧ (score c).OfKind kind ∧
        0 ≤ (score c).value := by
  obtain ⟨kind, best, hbest⟩ := hm.exists_best hquery
  have hfound : ∀ c : String, c ∈ candidates → ∃ s,
      m.score (.text c) (.text query) = .ok s ∧ s.OfKind kind ∧ 0 ≤ s.value := by
    intro c hc
    obtain ⟨s, hs, hkind, ⟨-, hbounded⟩ | ⟨hranked, -⟩⟩ := hbest.found c (hcandidates c hc)
    · exact absurd hbounded hname
    · rw [hkind.isRanked] at hranked
      exact ⟨s, hs, hkind, of_decide_eq_true hranked⟩
  have : Nonempty (Score K) := ⟨best⟩
  choose! score hscore using hfound
  exact ⟨score, kind, hscore⟩

/-- **A RANKING IS IN ORDER.**  Where all scores are integers, or numbers of the formulas that
    are not special, a ranking holds the candidates whose scores are not negative, each of
    them once and with its own score: the best first, equal ones as they came, and no more
    of them than the limit, a negative one counting as zero.  By a built-in metric other than
    the bounded distance it holds all candidates.  No text is longer than the largest size
    there is. -/
theorem rank_in_order :
    (∀ (m : Metric K) (query : Value) (candidates : List Value) (score : Value → Score K)
      (kind : Bool),
      (∀ c ∈ candidates, m.score c query = .ok (score c) ∧ (score c).OfKind kind) →
      ∃ places, IsOrder m.higherIsBetter
          (fun i : Fin candidates.length => score candidates[i]) places ∧
        (∀ others, IsOrder m.higherIsBetter
          (fun i : Fin candidates.length => score candidates[i]) others → others = places) ∧
        rank m query candidates none
          = .ok (places.map fun i => (candidates[i], score candidates[i])) ∧
        ∀ n : Int, rank m query candidates (some n)
          = .ok ((places.map fun i => (candidates[i], score candidates[i])).take
              (max n 0).toNat)) ∧
    ∀ m : Metric K, m.Proper → m.name ≠ "levenshtein_bounded" →
      ∀ (query : String) (candidates : List String),
        query.toList.length ≤ Edit.unreachable →
        (∀ c ∈ candidates, c.toList.length ≤ Edit.unreachable) →
        ∃ (score : String → Score K) (kind : Bool) (ranked : List (Value × Score K)),
          (∀ c ∈ candidates, m.score (.text c) (.text query) = .ok (score c) ∧
            (score c).OfKind kind ∧ 0 ≤ (score c).value) ∧
          rank m (.text query) (candidates.map .text) none = .ok ranked ∧
          ranked.Perm (candidates.map fun c => (.text c, score c)) := by
  constructor
  · intro m query candidates score kind hscore
    have horder := sortedPlaces_isOrder m.higherIsBetter
      fun i : Fin candidates.length => score candidates[i]
    have hrank : ∀ limit, rank m query (candidates.map id) limit = _ :=
      rank_of_isOrder hscore horder
    rw [List.map_id] at hrank
    refine ⟨_, horder, fun others hothers => horder.unique hothers, hrank none, ?_⟩
    intro n
    have hlimit : (max n 0).toNat = n.toNat := by omega
    rw [hrank (some n), hlimit]
    rfl
  · intro m hm hname query candidates hquery hcandidates
    obtain ⟨score, kind, hscore⟩ := exists_scores hm hname hquery hcandidates
    have horder := sortedPlaces_isOrder m.higherIsBetter
      fun i : Fin candidates.length => score candidates[i]
    have hrank : rank m (.text query) (candidates.map .text) none = _ :=
      rank_of_isOrder (fun c hc => ⟨(hscore c hc).1, (hscore c hc).2.1⟩) horder none
    refine ⟨score, kind, _, hscore, hrank, ?_⟩
    -- All places are there, so the ranking is the candidates in another order.
    have hall : (sortedPlaces m.higherIsBetter
        fun i : Fin candidates.length => score candidates[i]).Perm (List.finRange _) := by
      refine (List.perm_ext_iff_of_nodup horder.nodup (List.nodup_finRange _)).mpr ?_
      intro i
      have hmem : i ∈ sortedPlaces _ _ := (horder.mem_iff i).mpr
        (hscore _ (List.getElem_mem i.isLt)).2.2
      exact iff_of_true hmem (List.mem_finRange i)
    rw [← map_places fun c => (Value.text c, score c)]
    exact hall.map _

/-- Four candidates by the bounded distance in doubles, of which one is beyond the bound and two
    are equally good, up to a limit of two; and two candidates by the Jaro similarity. -/
theorem rank_in_order_kitten :
    rank (.boundedLevenshtein ⟨.whole 2, "2"⟩ : Metric Float) (.text "kitten")
        (["sitting", "mitten", "kitten", "sitten"].map .text) (some 2)
      = .ok [(.text "kitten", .whole 0), (.text "mitten", .whole 1)] ∧
    ∃ ranked, rank (.jaro : Metric Float) (.text "dixon") (["dicksonx", "dixon"].map .text) none
      = .ok ranked ∧ ranked.length = 2 := by
  let m : Metric Float := .boundedLevenshtein ⟨.whole 2, "2"⟩
  let candidates := ["sitting", "mitten", "kitten", "sitten"].map Value.text
  let score : Value → Score Float := fun c => (m.score c (.text "kitten")).toOption.getD (.whole 0)
  have hscore : ∀ c ∈ candidates, m.score c (.text "kitten") = .ok (score c) ∧
      (score c).OfKind false := by
    simp only [candidates, List.map_cons, List.map_nil, List.forall_mem_cons]
    refine ⟨⟨rfl, .whole (-1)⟩, ⟨rfl, .whole 1⟩, ⟨rfl, .whole 0⟩, ⟨rfl, .whole 1⟩, ?_⟩
    exact fun c hc => nomatch hc
  have horder : IsOrder false (fun i : Fin candidates.length => score candidates[i])
      ([2, 1, 3] : List (Fin 4)) := by
    refine ⟨?_, by decide, ?_⟩
    · show ∀ i : Fin 4, i ∈ [2, 1, 3] ↔ 0 ≤ (score candidates[i]).value
      decide +kernel
    · show List.Pairwise (fun i j : Fin 4 =>
        (score candidates[i]).value < (score candidates[j]).value ∨
          (score candidates[i]).value = (score candidates[j]).value ∧ i < j) [2, 1, 3]
      decide +kernel
  obtain ⟨hranked, hall⟩ := rank_in_order (K := Float)
  obtain ⟨places, -, hunique, -, hlimit⟩ := hranked m (.text "kitten") candidates score false hscore
  obtain rfl := hunique _ horder
  obtain ⟨_, _, ranked, -, hrank, hperm⟩ := hall .jaro .jaro (by decide) "dixon"
    ["dicksonx", "dixon"] (by decide) (by decide)
  exact ⟨hlimit 2, ranked, hrank, hperm.length_eq⟩

/-! ## Candidates that a ranking drops -/

omit [Scalar.Rounds K] in
/-- **A RANKING HOLDS WHAT IS NOT NEGATIVE**: the candidates whose scores are at least zero, each
    as often as it was given and with its score as it is held. -/
theorem exists_rank_perm {α : Type} {m : Metric K} {query : Value} {candidates : List α}
    {value : α → Value} {score shown : α → Score K}
    (hheld : (scored m query (candidates.map value)).bind alike
      = .ok (candidates.map fun c => (value c, shown c)))
    (hranked : ∀ c ∈ candidates, (shown c).isRanked = decide (0 ≤ (score c).value)) :
    ∃ ranked, rank m query (candidates.map value) none = .ok ranked ∧
      ranked.Perm ((candidates.filter fun c => decide (0 ≤ (score c).value)).map
        fun c => (value c, shown c)) := by
  have hkept : (candidates.map fun c => (value c, shown c)).filter (fun c => c.2.isRanked)
      = (candidates.filter fun c => decide (0 ≤ (score c).value)).map
        fun c => (value c, shown c) := by
    rw [List.filter_map]
    exact congrArg (List.map _) (List.filter_congr hranked)
  have hrank : rank m query (candidates.map value) none
      = .ok (((candidates.map fun c => (value c, shown c)).filter fun c => c.2.isRanked).mergeSort
          fun c d => atLeastAsGood m.higherIsBetter c.2 d.2) := by
    rw [rank, hheld]
    rfl
  exact ⟨_, hrank, (List.mergeSort_perm _ _).trans (.of_eq hkept)⟩

/-- A score that is no integer beyond 64 bits is held as a number of the formulas, which is
    negative when the score is. -/
theorem exists_real (hminus : ∃ y : K, Scalar.Denotes y (-1)) {s : Score K}
    (hs : ∃ a, s.Denotes a) (hroom : s.HasRoom) :
    ∃ x, Match.toScalar? s = .ok x ∧ Matrix.Holds (.real x) s ∧
      (Score.real x).isRanked = decide (0 ≤ s.value) := by
  obtain ⟨a, ha⟩ := hs
  cases ha with
  | real hx => exact ⟨_, rfl, .inl rfl, (Score.Denotes.real hx).isRanked⟩
  | whole n =>
      have hsize : n.natAbs < 2 ^ 64 := by
        have htwo : (twoTo 63 : Int) = 2 ^ 63 := by decide
        obtain ⟨hlow, hhigh⟩ := hroom
        omega
      obtain ⟨x, hx⟩ := Scalar.Rounds.ofInt?_some (K := K) n hsize
      have hnearest := Scalar.Rounds.ofInt?_nearest n x hx
      obtain ⟨b, hb, -⟩ := id hnearest
      obtain ⟨y, hy⟩ := hminus
      have hsign : 0 ≤ b ↔ 0 ≤ (n : ℚ) := by
        constructor
        · intro h0
          by_contra hneg
          have hlt : n < 0 := by exact_mod_cast not_le.mp hneg
          have hle : (n : ℚ) ≤ -1 := by exact_mod_cast Int.le_sub_one_of_lt hlt
          linarith [hnearest.le hb hy hle]
        · exact hnearest.ge hb Scalar.zero_denotes
      refine ⟨x, ?_, .inr ⟨n, x, rfl, hx, rfl⟩, ?_⟩
      · rw [Match.toScalar?, hx]
        rfl
      · have hbvalue := (Score.Denotes.real hb).value
        rw [(Score.Denotes.real hb).isRanked, hbvalue, (Score.Denotes.whole n).value,
          decide_eq_decide]
        exact hsign

/-- Scores that are no integers beyond 64 bits are held in one kind of numbers. -/
theorem exists_held (hminus : ∃ y : K, Scalar.Denotes y (-1)) {α : Type} {m : Metric K}
    {query : Value} {candidates : List α} {value : α → Value} {score : α → Score K}
    (hscore : ∀ c ∈ candidates, m.score (value c) query = .ok (score c) ∧
      (∃ a, (score c).Denotes a) ∧ (score c).HasRoom) :
    ∃ shown : α → Score K,
      (scored m query (candidates.map value)).bind alike
        = .ok (candidates.map fun c => (value c, shown c)) ∧
      ∀ c ∈ candidates, Matrix.Holds (shown c) (score c) ∧
        (shown c).isRanked = decide (0 ≤ (score c).value) := by
  have hscored := scored_eq fun c hc => (hscore c hc).1
  by_cases hall : (candidates.map fun c => (value c, score c)).all (fun c => c.2.isWhole) = true
  · refine ⟨score, ?_, fun c hc => ⟨.inl rfl, ?_⟩⟩
    · rw [hscored, Except.bind, alike, if_pos hall]
    · obtain ⟨a, ha⟩ := (hscore c hc).2.1
      exact ha.isRanked
  · have hreal : ∀ c, c ∈ candidates → ∃ x, Match.toScalar? (score c) = .ok x ∧
        Matrix.Holds (.real x) (score c) ∧ (Score.real x).isRanked = decide (0 ≤ (score c).value) :=
      fun c hc => exists_real hminus (hscore c hc).2.1 (hscore c hc).2.2
    have : Nonempty K := ⟨Scalar.ofNat 0⟩
    choose! x hx using hreal
    refine ⟨fun c => .real (x c), ?_, fun c hc => (hx c hc).2⟩
    rw [hscored, Except.bind, alike, if_neg hall, List.mapM_map]
    refine mapM_ok fun c hc => ?_
    show (Match.toScalar? (score c)).map _ = _
    rw [(hx c hc).1]
    rfl

/-- What passes a test is everything exactly when everything passes. -/
theorem filter_map_perm_iff {α β : Type} {p : α → Bool} {f : α → β} {l : List α} :
    ((l.filter p).map f).Perm (l.map f) ↔ ∀ a ∈ l, p a = true := by
  constructor
  · intro h
    have hlength := h.length_eq
    rw [List.length_map, List.length_map] at hlength
    exact List.length_filter_eq_length_iff.mp hlength
  · intro h
    rw [List.filter_eq_self.mpr h]

/-- The bounded distance drops the texts beyond its bound. -/
theorem exists_rank_bounded {p : Parameter Float} {n : Nat} (hp : p.value = .whole n)
    {query : String} {candidates : List String} (hquery : query.toList.length ≤ Edit.unreachable)
    (hcandidates : ∀ c ∈ candidates, c.toList.length ≤ Edit.unreachable) :
    ∃ ranked, rank (.boundedLevenshtein p : Metric K) (.text query) (candidates.map .text) none
        = .ok ranked ∧
      ranked.Perm ((candidates.filter fun c => decide (textDistance c query ≤ n)).map
        fun c => (.text c, .whole (textDistance c query))) := by
  let score : String → Score K :=
    fun c => .whole (if textDistance c query ≤ n then (textDistance c query : Int) else -1)
  have hscore : ∀ c ∈ candidates,
      (Metric.boundedLevenshtein p : Metric K).score (.text c) (.text query) = .ok (score c) ∧
        (score c).OfKind false :=
    fun c hc => ⟨boundedLevenshtein_texts (hcandidates c hc) hquery hp, .whole _⟩
  obtain ⟨ranked, hrank, hperm⟩ := exists_rank_perm (held_of_kind hscore)
    fun c hc => (hscore c hc).2.isRanked
  refine ⟨ranked, hrank, hperm.trans (.of_eq ?_)⟩
  have hvalue : ∀ c, (score c).value
      = ((if textDistance c query ≤ n then (textDistance c query : Int) else -1 : Int) : ℚ) :=
    fun c => (Score.Denotes.whole _).value
  have hkept : ∀ c, decide (0 ≤ (score c).value) = decide (textDistance c query ≤ n) := by
    intro c
    rw [hvalue, decide_eq_decide]
    split_ifs with hle
    · exact iff_of_true (by positivity) hle
    · exact iff_of_false (by norm_num) hle
  rw [List.filter_congr fun c _ => hkept c]
  refine List.map_congr_left ?_
  intro c hc
  exact congrArg (fun d => (Value.text c, Score.whole d))
    (if_pos (of_decide_eq_true (List.mem_filter.mp hc).2))

/-- **ONLY A NEGATIVE SCORE DROPS A CANDIDATE.**  Where every candidate has a score that is not
    special and no integer beyond 64 bits, a ranking without a limit holds those with a score of
    at least zero, each as often as it was given; so it holds all candidates exactly when no
    score is negative.  It shows scores of one kind as they are, and integers beside numbers of
    the formulas as such numbers.  Of the built-in metrics the bounded distance drops the texts
    beyond its bound, and the others drop none.  No text is longer than the largest size there
    is. -/
theorem rank_drops_negative :
    (∀ (m : Metric K) (query : Value) (candidates : List Value) (score : Value → Score K)
      (kind : Bool),
      (∀ c ∈ candidates, m.score c query = .ok (score c) ∧ (score c).OfKind kind ∧
        (score c).HasRoom) →
      ∃ ranked, rank m query candidates none = .ok ranked ∧
        ranked.Perm ((candidates.filter fun c => decide (0 ≤ (score c).value)).map
          fun c => (c, score c)) ∧
        (ranked.Perm (candidates.map fun c => (c, score c)) ↔
          ∀ c ∈ candidates, 0 ≤ (score c).value)) ∧
    ((∃ y : K, Scalar.Denotes y (-1)) →
      ∀ (m : Metric K) (query : Value) (candidates : List Value) (score : Value → Score K),
      (∀ c ∈ candidates, m.score c query = .ok (score c) ∧ (∃ a, (score c).Denotes a) ∧
        (score c).HasRoom) →
      ∃ (shown : Value → Score K) (ranked : List (Value × Score K)),
        rank m query candidates none = .ok ranked ∧
        (∀ c ∈ candidates, Matrix.Holds (shown c) (score c)) ∧
        ranked.Perm ((candidates.filter fun c => decide (0 ≤ (score c).value)).map
          fun c => (c, shown c)) ∧
        (ranked.Perm (candidates.map fun c => (c, shown c)) ↔
          ∀ c ∈ candidates, 0 ≤ (score c).value)) ∧
    ∀ (query : String) (candidates : List String), query.toList.length ≤ Edit.unreachable →
      (∀ c ∈ candidates, c.toList.length ≤ Edit.unreachable) →
      (∀ m : Metric K, m.Proper → m.name ≠ "levenshtein_bounded" →
        ∃ (score : String → Score K) (ranked : List (Value × Score K)),
          (∀ c ∈ candidates, m.score (.text c) (.text query) = .ok (score c)) ∧
          rank m (.text query) (candidates.map .text) none = .ok ranked ∧
          ranked.Perm (candidates.map fun c => (.text c, score c))) ∧
      ∀ (p : Parameter Float) (n : Nat), p.value = .whole n →
        ∃ ranked, rank (.boundedLevenshtein p : Metric K) (.text query) (candidates.map .text) none
            = .ok ranked ∧
          ranked.Perm ((candidates.filter fun c => decide (textDistance c query ≤ n)).map
            fun c => (.text c, .whole (textDistance c query))) := by
  refine ⟨?_, ?_, ?_⟩
  · intro m query candidates score kind hscore
    have hkind : ∀ c ∈ candidates, m.score (id c) query = .ok (score c) ∧ (score c).OfKind kind :=
      fun c hc => ⟨(hscore c hc).1, (hscore c hc).2.1⟩
    obtain ⟨ranked, hrank, hperm⟩ :=
      exists_rank_perm (held_of_kind hkind) fun c hc => (hkind c hc).2.isRanked
    rw [List.map_id] at hrank
    refine ⟨ranked, hrank, hperm, (hperm.congr_left _).trans (filter_map_perm_iff.trans ?_)⟩
    simp only [decide_eq_true_eq]
  · intro hminus m query candidates score hscore
    have hfound : ∀ c ∈ candidates, m.score (id c) query = .ok (score c) ∧
        (∃ a, (score c).Denotes a) ∧ (score c).HasRoom := hscore
    obtain ⟨shown, hheld, hshown⟩ := exists_held hminus hfound
    obtain ⟨ranked, hrank, hperm⟩ := exists_rank_perm hheld fun c hc => (hshown c hc).2
    rw [List.map_id] at hrank
    refine ⟨shown, ranked, hrank, fun c hc => (hshown c hc).1, hperm,
      (hperm.congr_left _).trans (filter_map_perm_iff.trans ?_)⟩
    simp only [decide_eq_true_eq]
  · intro query candidates hquery hcandidates
    refine ⟨fun m hm hname => ?_, fun p n hp => exists_rank_bounded hp hquery hcandidates⟩
    obtain ⟨score, kind, hscore⟩ := exists_scores hm hname hquery hcandidates
    obtain ⟨ranked, hrank, hperm⟩ :=
      exists_rank_perm (held_of_kind fun c hc => ⟨(hscore c hc).1, (hscore c hc).2.1⟩)
        fun c hc => (hscore c hc).2.1.isRanked
    refine ⟨score, ranked, fun c hc => (hscore c hc).1, hrank, (hperm.congr_left _).mpr ?_⟩
    exact filter_map_perm_iff.mpr fun c hc => decide_eq_true (hscore c hc).2.2

/-- Three candidates, one of them given twice, by half the number of differing places, in
    doubles; two by a score that is an integer for one and a double for the other; and again
    three by the Jaro similarity and by the distance up to a bound of zero. -/
theorem rank_drops_negative_halves :
    (∃ ranked, rank (.halfHamming "half" : Metric Float) (.text "ab")
        (["ab", "ac", "ab"].map .text) none = .ok ranked ∧ ranked.length = 3) ∧
    (∃ ranked, rank (⟨"mixed", false, true, fun c _ => .ok (if c.equal (.text "ab") then .whole (-1)
          else .real (Scalar.ofNat 1 / Scalar.ofNat 2))⟩ : Metric Float) (.text "ab")
        (["ab", "ac"].map .text) none = .ok ranked ∧ ranked.length = 1) ∧
    (∃ ranked, rank (.jaro : Metric Float) (.text "ab") (["ab", "ac", "ab"].map .text) none
      = .ok ranked ∧ ranked.length = 3) ∧
    ∃ ranked, rank (.boundedLevenshtein ⟨.whole 0, "0"⟩ : Metric Float) (.text "ab")
      (["ab", "ac", "ab"].map .text) none = .ok ranked ∧ ranked.length = 2 := by
  obtain ⟨hgeneral, hmixed, hbuiltin⟩ := rank_drops_negative (K := Float)
  obtain ⟨hother, hbounded⟩ := hbuiltin "ab" ["ab", "ac", "ab"] (by decide) (by decide)
  refine ⟨?_, ?_, ?_, ?_⟩
  · let m : Metric Float := .halfHamming "half"
    let score : Value → Score Float :=
      fun c => (m.score c (.text "ab")).toOption.getD (.whole 0)
    have hscore : ∀ c ∈ ["ab", "ac", "ab"].map Value.text,
        m.score c (.text "ab") = .ok (score c) ∧ (score c).OfKind true ∧ (score c).HasRoom := by
      simp only [List.map_cons, List.map_nil, List.forall_mem_cons]
      exact ⟨⟨rfl, .real Matrix.zero_halves_denote, trivial⟩,
        ⟨rfl, .real Matrix.half_denotes, trivial⟩,
        ⟨rfl, .real Matrix.zero_halves_denote, trivial⟩, List.forall_mem_nil _⟩
    obtain ⟨ranked, hrank, -, hall⟩ := hgeneral m (.text "ab") _ score true hscore
    exact ⟨ranked, hrank, (hall.mpr (by decide +kernel)).length_eq⟩
  · let score : Value → Score Float := fun c => if c.equal (.text "ab") then .whole (-1)
      else .real (Scalar.ofNat 1 / Scalar.ofNat 2)
    have hexact : Scalar.exact (-1 : Float) = .ratio (-4503599627370496) 4503599627370496 := by
      decide +kernel
    have hminus : ∃ y : Float, Scalar.Denotes y (-1) :=
      ⟨-1, _, _, hexact, by norm_num, by norm_num⟩
    have hscore : ∀ c, (∃ a, (score c).Denotes a) ∧ (score c).HasRoom := by
      intro c
      simp only [score]
      split_ifs
      · exact ⟨⟨_, .whole (-1)⟩, by decide, by decide⟩
      · exact ⟨⟨_, .real Matrix.half_denotes⟩, trivial⟩
    obtain ⟨_, ranked, hrank, -, hperm, -⟩ :=
      hmixed hminus ⟨"mixed", false, true, fun c _ => .ok (score c)⟩ (.text "ab")
        (["ab", "ac"].map .text) score fun c _ => ⟨rfl, hscore c⟩
    refine ⟨ranked, hrank, hperm.length_eq.trans ?_⟩
    rw [List.length_map]
    decide +kernel
  · obtain ⟨_, ranked, -, hrank, hperm⟩ := hother .jaro .jaro (by decide)
    exact ⟨ranked, hrank, hperm.length_eq⟩
  · obtain ⟨ranked, hrank, hperm⟩ := hbounded ⟨.whole 0, "0"⟩ 0 rfl
    exact ⟨ranked, hrank, hperm.length_eq.trans (by decide +kernel)⟩

/-- **A NEGATIVE DISTANCE IS DROPPED** although its metric is not the bounded distance: of two
    candidates by the number of differing places, counted downwards, one is lost. -/
theorem negative_distance_dropped :
    ∃ (registry : Registry Float) (m : Metric Float),
      Registry.builtin.register (.plain (.negatedHamming "negated")) = .ok registry ∧
      registry.make "negated" [] = .ok m ∧ m.name ≠ "levenshtein_bounded" ∧
      m.score (.text "ac") (.text "ab") = .ok (.whole (-1)) ∧
      rank m (.text "ab") (["ab", "ac"].map .text) none = .ok [(.text "ab", .whole 0)] := by
  refine ⟨_, .negatedHamming "negated", rfl, rfl, by decide, rfl, ?_⟩
  show Except.ok (List.mergeSort [(Value.text "ab", Score.whole 0)] _) = _
  rw [List.mergeSort_singleton]

end Ranking

end Likeness
