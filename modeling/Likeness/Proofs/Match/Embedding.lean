import Likeness.Metric.Comparison
import Likeness.Proofs.Match.Subsequence
import Mathlib.Data.List.Forall2
import Mathlib.Order.Bounds.Basic

/-! # Where a query is found in a term

    The pass that scores a query takes every character of it at the first place that
    it can.  So it finds the longest prefix of the query that is a subsequence of the
    term, and no embedding of that prefix has any place further to the left
    (`found_leftmost`).  The score is what these places are worth
    (`scoreFrom_eq_points`).

    What was found stays found when the term or the query goes on, so scores only
    grow with them (`queryScore_grows`). -/

namespace Likeness

namespace Match

/-! ## The places of the pass -/

/-- The places of a term at which the pass of `scoreFrom` finds the characters of a query. -/
def found : (term query : List Char) → List Nat
  | _, [] => []
  | [], _ => []
  | t :: term, q :: query =>
    if t == q then 0 :: (found term query).map (· + 1)
    else (found term (q :: query)).map (· + 1)

/-- How many places directly follow the one before them. -/
def adjacencies (places : List Nat) : Nat :=
  (places.zip places.tail).countP fun p => p.2 == p.1 + 1

/-- What places are worth: a point for each, and two more for one that directly follows. -/
def points (places : List Nat) : Nat := places.length + 2 * adjacencies places

theorem adjacencies_cons (p : Nat) (places : List Nat) :
    adjacencies (p :: places)
      = adjacencies places + if places.head? = some (p + 1) then 1 else 0 := by
  cases places with
  | nil => rfl
  | cons r rest => simp [adjacencies, List.countP_cons]

theorem adjacencies_map_succ (places : List Nat) :
    adjacencies (places.map (· + 1)) = adjacencies places := by
  induction places with
  | nil => rfl
  | cons p rest ih =>
      rw [List.map_cons, adjacencies_cons, adjacencies_cons, ih]
      cases rest <;> simp

theorem adjacencies_mono {places others : List Nat} (h : places <+: others) :
    adjacencies places ≤ adjacencies others := by
  induction places generalizing others with
  | nil => exact Nat.zero_le _
  | cons p rest ih =>
      obtain ⟨more, rfl⟩ := h
      have hrest := ih (List.prefix_append rest more)
      rw [List.cons_append, adjacencies_cons, adjacencies_cons]
      cases rest with
      | nil => exact Nat.zero_le _
      | cons r rest => simpa using hrest

theorem points_mono {places others : List Nat} (h : places <+: others) :
    points places ≤ points others := by
  have hadjacent := adjacencies_mono h
  have hlength := h.length_le
  simp only [points]
  omega

/-- The pass scores what the places are worth that it finds.  With a character before it, the
    first of them may follow directly too. -/
theorem scoreFrom_eq (adjacent : Bool) (term query : List Char) :
    scoreFrom adjacent term query = points (found term query)
      + if adjacent = true ∧ (found term query).head? = some 0 then 2 else 0 := by
  fun_induction scoreFrom adjacent term query with
  | case1 => simp [found, points, adjacencies]
  | case2 => simp [found, points, adjacencies]
  | case3 adjacent t term q query heq ih =>
      -- The next place counts as following this one, and this one as following what is before.
      rw [found, if_pos heq, ih]
      have hhead : ((found term query).map (· + 1)).head? = some (0 + 1)
          ↔ (found term query).head? = some 0 := by simp
      simp only [points, adjacencies_cons, adjacencies_map_succ, hhead, List.length_cons,
        List.length_map, List.head?_cons, true_and, and_true]
      split_ifs <;> omega
  | case4 adjacent t term q query hne ih =>
      rw [found, if_neg hne, ih]
      simp [points, adjacencies_map_succ]

theorem scoreFrom_eq_points (term query : List Char) :
    scoreFrom false term query = points (found term query) := by
  rw [scoreFrom_eq]
  simp

/-! ## Embeddings -/

/-- A text stands in a term at ascending places. -/
structure Embeds (term text : List Char) (places : List Nat) : Prop where
  ascending : places.Pairwise (· < ·)
  standing : places.map (term[·]?) = text.map some

namespace Embeds

variable {t c : Char} {term text : List Char} {p : Nat} {places : List Nat}

theorem length_eq (h : Embeds term text places) : places.length = text.length := by
  simpa using congrArg List.length h.standing

theorem nil (term : List Char) : Embeds term [] [] := ⟨List.Pairwise.nil, rfl⟩

theorem eq_nil (h : Embeds [] text places) : text = [] := by
  cases places with
  | nil => exact List.length_eq_zero_iff.mp h.length_eq.symm
  | cons p rest =>
      cases text with
      | nil => rfl
      | cons c text => simpa using h.standing

theorem standing_shift (t : Char) (term : List Char) (places : List Nat) :
    (places.map (· + 1)).map ((t :: term)[·]?) = places.map (term[·]?) := by
  rw [List.map_map]
  rfl

/-- With one more character in front of the term, all places are one further on. -/
theorem shift_iff : Embeds (t :: term) text (places.map (· + 1)) ↔ Embeds term text places := by
  constructor
  · rintro ⟨hascending, hstanding⟩
    rw [standing_shift] at hstanding
    exact ⟨by simpa [List.pairwise_map] using hascending, hstanding⟩
  · rintro ⟨hascending, hstanding⟩
    rw [← standing_shift t] at hstanding
    exact ⟨by simpa [List.pairwise_map] using hascending, hstanding⟩

theorem first (h : Embeds term text places) :
    Embeds (t :: term) (t :: text) (0 :: places.map (· + 1)) := by
  obtain ⟨hascending, hstanding⟩ := shift_iff (t := t).mpr h
  refine ⟨List.pairwise_cons.mpr ⟨?_, hascending⟩, ?_⟩
  · simp
  · rw [List.map_cons, hstanding]
    rfl

theorem tail (h : Embeds term (c :: text) (p :: places)) : Embeds term text places :=
  ⟨(List.pairwise_cons.mp h.ascending).2, (List.cons.inj h.standing).2⟩

/-- Places behind the first character are places of the rest of the term. -/
theorem of_pos (h : Embeds (t :: term) text places) (hpos : ∀ p ∈ places, 0 < p) :
    ∃ rest, places = rest.map (· + 1) ∧ Embeds term text rest := by
  have hshift : places = (places.map (· - 1)).map (· + 1) := by
    rw [List.map_map]
    refine (List.map_id _).symm.trans (List.map_congr_left ?_)
    intro p hp
    have := hpos p hp
    show p = p - 1 + 1
    omega
  rw [hshift] at h
  exact ⟨_, hshift, shift_iff.mp h⟩

/-- The first place is that of the first character of the term, or all are behind it. -/
theorem cons_cases (h : Embeds (t :: term) (c :: text) places) :
    ∃ p rest, places = p :: rest.map (· + 1) ∧ Embeds term text rest ∧
      (p = 0 ∧ c = t ∨ ∃ r, p = r + 1 ∧ Embeds term (c :: text) (r :: rest)) := by
  cases places with
  | nil => exact nomatch h.standing
  | cons p others =>
      obtain ⟨habove, -⟩ := List.pairwise_cons.mp h.ascending
      obtain ⟨rest, rfl, hrest⟩ := h.tail.of_pos fun r hr => Nat.zero_lt_of_lt (habove r hr)
      refine ⟨p, rest, rfl, hrest, ?_⟩
      cases p with
      | zero => exact .inl ⟨rfl, (Option.some.inj (List.cons.inj h.standing).1).symm⟩
      | succ r =>
          have hshifted : Embeds (t :: term) (c :: text) ((r :: rest).map (· + 1)) := h
          exact .inr ⟨r, rfl, shift_iff.mp hshifted⟩

end Embeds

/-- A text is a subsequence of a term when it stands there at some places. -/
theorem sublist_iff_embeds {term text : List Char} :
    text.Sublist term ↔ ∃ places, Embeds term text places := by
  constructor
  · intro h
    induction h with
    | slnil => exact ⟨[], .nil []⟩
    | cons t _ ih =>
        obtain ⟨places, hplaces⟩ := ih
        exact ⟨_, Embeds.shift_iff.mpr hplaces⟩
    | cons_cons t _ ih =>
        obtain ⟨places, hplaces⟩ := ih
        exact ⟨_, hplaces.first⟩
  · rintro ⟨places, h⟩
    induction term generalizing text places with
    | nil =>
        rw [h.eq_nil]
    | cons t term ih =>
        cases text with
        | nil => exact List.nil_sublist _
        | cons c text =>
            obtain ⟨p, rest, -, hrest, ⟨-, rfl⟩ | ⟨r, -, hbehind⟩⟩ := h.cons_cases
            · exact (ih rest hrest).cons_cons c
            · exact (ih _ hbehind).cons t

/-! ## The leftmost embedding -/

/-- The places of the pass are those of a prefix of the query, as long as they are many. -/
theorem found_embeds (term query : List Char) :
    Embeds term (query.take (found term query).length) (found term query) := by
  fun_induction found term query with
  | case1 term => exact .nil term
  | case2 => exact .nil []
  | case3 t term q query heq ih =>
      obtain rfl := eq_of_beq heq
      simpa using ih.first
  | case4 t term q query hne ih =>
      simpa using Embeds.shift_iff.mpr ih

/-- Being further to the left is kept when all places go one further on. -/
theorem least_shift {places others : List Nat}
    (h : (places.take others.length).Forall₂ (· ≤ ·) others) :
    ((places.map (· + 1)).take (others.map (· + 1)).length).Forall₂ (· ≤ ·)
      (others.map (· + 1)) := by
  rw [List.length_map, ← List.map_take, List.forall₂_map_left_iff, List.forall₂_map_right_iff]
  exact h.imp fun _ _ => Nat.succ_le_succ

/-- **NO EMBEDDING IS FURTHER TO THE LEFT** than the places of the pass, whatever prefix of the
    query it is of; so no prefix that has one is longer than what the pass finds. -/
theorem found_least {term query text : List Char} {places : List Nat}
    (h : Embeds term text places) (hstart : text <+: query) :
    ((found term query).take places.length).Forall₂ (· ≤ ·) places := by
  fun_induction found term query generalizing text places with
  | case1 term =>
      obtain rfl := List.prefix_nil.mp hstart
      obtain rfl := List.length_eq_zero_iff.mp h.length_eq
      exact .nil
  | case2 =>
      obtain rfl := h.eq_nil
      obtain rfl := List.length_eq_zero_iff.mp h.length_eq
      exact .nil
  | case3 t term q query heq ih =>
      cases text with
      | nil =>
          obtain rfl := List.length_eq_zero_iff.mp h.length_eq
          exact .nil
      | cons c text =>
          obtain ⟨p, rest, rfl, hrest, -⟩ := h.cons_cases
          obtain ⟨-, hstart⟩ := List.cons_prefix_cons.mp hstart
          -- The pass takes the first place there is, and is ahead with the rest of the text.
          exact .cons (Nat.zero_le p) (least_shift (ih hrest hstart))
  | case4 t term q query hne ih =>
      cases text with
      | nil =>
          obtain rfl := List.length_eq_zero_iff.mp h.length_eq
          exact .nil
      | cons c text =>
          obtain ⟨p, rest, rfl, -, ⟨-, rfl⟩ | ⟨r, rfl, hbehind⟩⟩ := h.cons_cases
          · -- A first place at the front would be one that the pass had taken.
            obtain ⟨rfl, -⟩ := List.cons_prefix_cons.mp hstart
            exact absurd (beq_self_eq_true c) hne
          · exact least_shift (ih hbehind hstart)

/-- The places of the longest prefix of a query that is a subsequence of a term, as far to the
    left as can be. -/
structure Leftmost (term query : List Char) (places : List Nat) : Prop where
  longest : IsGreatest {n | n ≤ query.length ∧ (query.take n).Sublist term} places.length
  embeds : Embeds term (query.take places.length) places
  /-- Any other embedding has each place where this one has it, or behind. -/
  least : ∀ others, Embeds term (query.take places.length) others →
    places.Forall₂ (· ≤ ·) others

/-- **THE PASS FINDS THE LONGEST PREFIX** of a query that is a subsequence of the term. -/
theorem found_isGreatest (term query : List Char) :
    IsGreatest {n | n ≤ query.length ∧ (query.take n).Sublist term}
      (found term query).length := by
  have hfound := found_embeds term query
  constructor
  · have hlength := hfound.length_eq
    rw [List.length_take] at hlength
    exact ⟨by omega, sublist_iff_embeds.mpr ⟨_, hfound⟩⟩
  · rintro n ⟨hn, hsublist⟩
    obtain ⟨places, hplaces⟩ := sublist_iff_embeds.mp hsublist
    have hlength := (found_least hplaces (List.take_prefix n query)).length_eq
    have hplaces := hplaces.length_eq
    rw [List.length_take] at hlength hplaces
    omega

theorem found_leftmost (term query : List Char) : Leftmost term query (found term query) := by
  have hfound := found_embeds term query
  refine ⟨found_isGreatest term query, hfound, ?_⟩
  intro others hothers
  have hleast := found_least hothers (List.take_prefix _ _)
  rwa [hothers.length_eq, ← hfound.length_eq, List.take_length] at hleast

/-- The last character of the query is not there any more. -/
example : found ['x', 'a', 'b', 'a'] ['a', 'b', 'c'] = [1, 2] := by decide

/-! ## Longer terms and queries -/

/-- What is found stays found when the term goes on, and when the query does. -/
theorem found_mono {term longer query more : List Char} (hterm : term <+: longer)
    (hquery : query <+: more) : found term query <+: found longer more := by
  obtain ⟨rest, rfl⟩ := hterm
  obtain ⟨others, rfl⟩ := hquery
  fun_induction found term query with
  | case1 => exact List.nil_prefix
  | case2 => exact List.nil_prefix
  | case3 t term q query heq ih =>
      rw [List.cons_append, List.cons_append, found, if_pos heq]
      exact (List.prefix_cons_inj 0).mpr (ih.map _)
  | case4 t term q query hne ih =>
      rw [List.cons_append, List.cons_append, found, if_neg hne]
      exact ih.map _

end Match

/-! ## Scores of texts -/

theorem Text.foldCode_toNat (c : Char) : foldCode c.toNat = (foldChar c).map Char.toNat := by
  have hvalid : c.toNat.isValidChar := c.valid
  rw [foldCode, if_pos hvalid, Char.ofNat_toNat]

theorem Text.foldCodes_toNat (s : List Char) :
    foldCodes (s.map Char.toNat) = (fold s).map Char.toNat := by
  rw [foldCodes, List.flatMap_map, fold, List.map_flatMap]
  exact List.flatMap_congr fun c _ => foldCode_toNat c

/-- The pass looks at characters only to see which of them are the same. -/
theorem Match.scoreFrom_toNat (adjacent : Bool) (term query : List Char) :
    scoreFrom adjacent (term.map Char.toNat) (query.map Char.toNat)
      = scoreFrom adjacent term query := by
  fun_induction scoreFrom adjacent term query with
  | case1 => simp [scoreFrom]
  | case2 adjacent query _ => cases query <;> rfl
  | case3 adjacent t term q query heq ih =>
      obtain rfl := eq_of_beq heq
      rw [List.map_cons, List.map_cons, scoreFrom, if_pos (beq_self_eq_true _), ih]
  | case4 adjacent t term q query hne ih =>
      have hcodes : ¬ (t.toNat == q.toNat) = true := by
        intro h
        exact hne (beq_iff_eq.mpr (Char.toNat_inj.mp (eq_of_beq h)))
      rw [List.map_cons, List.map_cons, scoreFrom, if_neg hcodes, ← List.map_cons, ih]

/-- **TEXTS ARE SCORED BY THEIR CODE POINTS**, whether or not some of these are halves of
    characters. -/
theorem queryScore_codes {term query : Value} {s t : List Nat}
    (hterm : textOrAbsent? term = some (some s)) (hquery : textOrAbsent? query = some (some t)) :
    queryScore term query = .ok (Match.subsequenceScoreOfCodes s t) := by
  cases term with
  | text u =>
      cases hterm
      cases query with
      | text v =>
          cases hquery
          rw [Match.subsequenceScoreOfCodes, Text.foldCodes_toNat, Text.foldCodes_toNat,
            Match.scoreFrom_toNat]
          rfl
      | illFormed codes =>
          cases hquery
          rfl
      | _ => exact nomatch hquery
  | illFormed codes =>
      cases hterm
      cases query with
      | text v =>
          cases hquery
          rfl
      | illFormed others =>
          cases hquery
          rfl
      | _ => exact nomatch hquery
  | _ => exact nomatch hterm

theorem Text.fold_append (s t : List Char) : Text.fold (s ++ t) = Text.fold s ++ Text.fold t :=
  List.flatMap_append

/-- The score of two texts is what the places are worth at which one is found in the other. -/
theorem queryScore_texts (term query : String) :
    queryScore (.text term) (.text query)
      = .ok (Match.points (Match.found (Text.fold term.toList) (Text.fold query.toList))) := by
  rw [← Match.scoreFrom_eq_points]
  rfl

/-- **A QUERY IS FOUND AS FAR TO THE LEFT AS CAN BE.**  Regardless of case, the pass finds as
    many characters as the longest prefix of the query has that is a subsequence of the
    term, at places that embed this prefix, and every other embedding of it has each of its
    places at the same place or behind.  The score is a point for each of these places, and
    two more for each that directly follows the one before. -/
theorem queryScore_leftmost (term query : String) :
    ∃ places, Match.found (Text.fold term.toList) (Text.fold query.toList) = places ∧
      Match.Leftmost (Text.fold term.toList) (Text.fold query.toList) places ∧
      queryScore (.text term) (.text query)
        = .ok ((places.length + 2 * Match.adjacencies places : Nat) : Int) :=
  ⟨_, rfl, Match.found_leftmost _ _, queryScore_texts term query⟩

/-- **SCORES ONLY GROW** with the term and with the query.  They are not negative, and not above
    what a query scores in itself: a point for each of its characters and two more for each
    but the first. -/
theorem queryScore_grows (term query more : String) :
    ∃ score : Int, queryScore (.text term) (.text query) = .ok score ∧
      (∃ longer, queryScore (.text (term ++ more)) (.text query) = .ok longer ∧ score ≤ longer) ∧
      (∃ longer, queryScore (.text term) (.text (query ++ more)) = .ok longer ∧ score ≤ longer) ∧
      0 ≤ score ∧ score ≤ max 0 (3 * ((Text.fold query.toList).length : Int) - 2) ∧
      queryScore (.text query) (.text query)
        = .ok (max 0 (3 * ((Text.fold query.toList).length : Int) - 2)) := by
  have hbound := Match.scoreFrom_false_le (Text.fold term.toList) (Text.fold query.toList)
  have hself := Match.scoreFrom_false_self (Text.fold query.toList)
  rw [Match.scoreFrom_eq_points] at hbound hself
  refine ⟨_, queryScore_texts term query, ⟨_, queryScore_texts _ query, ?_⟩,
    ⟨_, queryScore_texts term _, ?_⟩, Int.natCast_nonneg _, by omega, ?_⟩
  · rw [String.toList_append, Text.fold_append]
    exact_mod_cast Match.points_mono (Match.found_mono (List.prefix_append _ _) List.prefix_rfl)
  · rw [String.toList_append, Text.fold_append]
    exact_mod_cast Match.points_mono (Match.found_mono List.prefix_rfl (List.prefix_append _ _))
  · rw [queryScore_texts, hself]
    refine congrArg Except.ok ?_
    omega

end Likeness
