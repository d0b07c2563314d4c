import Likeness.CharSet.Range
import Mathlib.Data.Char
import Mathlib.Data.List.Infix
import Mathlib.Order.Lattice

/-! # How a definition is cut into slices

    A definition is read in slices of four forms, each of which yields one range.  Where
    several forms fit, the one whose turn is first is taken, so at each place there is
    one slice (`Slice.Taken.unique`), a definition is cut in one way only
    (`Splits.unique`), and it is read by that cut (`exists_splits`).  Reading it by places,
    with each character looked up where a test asks for it, gives the same ranges, so no
    test asks for a character beyond the end (`readFrom?_eq`). -/

namespace Likeness.CharRange

/-! ## Slices -/

/-- Characters of a definition that are read together: `^a-e`, `a-e`, `^a` or `a`. -/
inductive Slice where
  | negatedJoin (a b : Char)
  | join (a b : Char)
  | negated (a : Char)
  | literal (a : Char)

namespace Slice

/-- The characters of a slice. -/
def text : Slice → List Char
  | negatedJoin a b => ['^', a, '-', b]
  | join a b => [a, '-', b]
  | negated a => ['^', a]
  | literal a => [a]

/-- The turn of a slice: the forms are tried in this order. -/
def turn : Slice → Nat
  | negatedJoin _ _ => 0
  | join _ _ => 1
  | negated _ => 2
  | literal _ => 3

/-- The bounds that a slice names, in the order in which it names them. -/
def bounds : Slice → Char × Char
  | negatedJoin a b => (a, b)
  | join a b => (a, b)
  | negated a => (a, a)
  | literal a => (a, a)

/-- A slice is about the characters outside its bounds. -/
def negates : Slice → Bool
  | negatedJoin _ _ => true
  | join _ _ => false
  | negated _ => true
  | literal _ => false

/-- The range of a slice has its bounds in order. -/
def range (s : Slice) : CharRange where
  first := min s.bounds.1 s.bounds.2
  last := max s.bounds.1 s.bounds.2
  ordered := le_trans inf_le_left le_sup_left
  negated := s.negates

/-- The characters that a slice denotes. -/
def Denotes (c : Char) : Slice → Prop
  | negatedJoin a b => ¬ (min a b ≤ c ∧ c ≤ max a b)
  | join a b => min a b ≤ c ∧ c ≤ max a b
  | negated a => c ≠ a
  | literal a => c = a

/-- The characters of the slice are the next ones of a definition. -/
def Fits (s : Slice) (left : List Char) : Prop := s.text <+: left

/-- The slice fits, and none whose turn is earlier does. -/
structure Taken (s : Slice) (left : List Char) : Prop where
  fits : s.Fits left
  first : ∀ t : Slice, t.turn < s.turn → ¬ t.Fits left

theorem length_text_pos (s : Slice) : 0 < s.text.length := by
  cases s <;> exact Nat.succ_pos _

end Slice

/-! ## Ranges of slices -/

theorem between_eq (a b : Char) (negated : Bool) :
    between a b negated = ⟨⟨min a b, max a b, le_trans inf_le_left le_sup_left⟩, negated⟩ := by
  refine congrArg (CharRange.mk · negated) ?_
  rw [CharSpan.between]
  split_ifs with h
  · simp only [min_eq_left h, max_eq_right h]
  · have hle : b ≤ a := (Char.le_total b a).resolve_right h
    simp only [min_eq_right hle, max_eq_left hle]

theorem single_eq (a : Char) (negated : Bool) : single a negated = between a a negated := by
  rw [single, between, CharSpan.single, CharSpan.between, dif_pos (Char.le_refl a)]

theorem textAtMost_single (a b : Char) : CharSpan.textAtMost [a] [b] = decide (a ≤ b) := by
  have hlt : decide (a.toNat < b.toNat) = decide (a < b) := rfl
  simp only [CharSpan.textAtMost, Bool.and_true, hlt]
  rw [Bool.eq_iff_iff]
  simp only [Bool.or_eq_true, decide_eq_true_eq, beq_iff_eq, le_iff_lt_or_eq]

/-- A character belongs to a range when it stands between the bounds, or outside of them. -/
theorem contains_eq (r : CharRange) (c : Char) :
    r.contains c = (decide (r.first ≤ c ∧ c ≤ r.last) != r.negated) := by
  rw [contains, containsText, CharSpan.containsText, textAtMost_single, textAtMost_single,
    Bool.decide_and]

theorem Slice.range_contains (s : Slice) (c : Char) :
    s.range.contains c = true ↔ s.Denotes c := by
  have hone (a : Char) : min a a ≤ c ∧ c ≤ max a a ↔ c = a := by
    rw [min_self, max_self, and_comm]
    exact le_antisymm_iff.symm
  rw [contains_eq]
  cases s with
  | negatedJoin a b =>
      show (decide (min a b ≤ c ∧ c ≤ max a b) != true) = true ↔ _
      rw [bne_iff_ne, ne_eq, decide_eq_true_eq, Denotes]
  | join a b =>
      show (decide (min a b ≤ c ∧ c ≤ max a b) != false) = true ↔ _
      rw [Bool.bne_false, decide_eq_true_eq, Denotes]
  | negated a =>
      show (decide (min a a ≤ c ∧ c ≤ max a a) != true) = true ↔ _
      rw [bne_iff_ne, ne_eq, decide_eq_true_eq, Denotes, hone]
  | literal a =>
      show (decide (min a a ≤ c ∧ c ≤ max a a) != false) = true ↔ _
      rw [Bool.bne_false, decide_eq_true_eq, Denotes, hone]

/-! ## Slices that are taken -/

namespace Slice

/-- Slices that fit and have the same turn are the same. -/
theorem Fits.eq_of_turn {s t : Slice} {left : List Char} (hs : s.Fits left) (ht : t.Fits left)
    (h : s.turn = t.turn) : s = t := by
  obtain ⟨u, rfl⟩ := hs
  obtain ⟨v, hv⟩ := ht
  cases s <;> cases t <;> simp_all [turn, text]

/-- **AT MOST ONE SLICE** is taken from what is left of a definition. -/
theorem Taken.unique {s t : Slice} {left : List Char} (hs : s.Taken left) (ht : t.Taken left) :
    s = t := by
  refine hs.fits.eq_of_turn ht.fits ?_
  -- Of two different turns the later one would not have been reached.
  obtain hlt | heq | hgt := lt_trichotomy s.turn t.turn
  · exact absurd hs.fits (ht.first s hlt)
  · exact heq
  · exact absurd ht.fits (hs.first t hgt)

variable {a b : Char} {rest : List Char}

theorem taken_negatedJoin : (negatedJoin a b).Taken ('^' :: a :: '-' :: b :: rest) where
  fits := ⟨rest, rfl⟩
  first _ ht := absurd ht (Nat.not_lt_zero _)

/-- Three characters with a `-` in the middle are read together, but for those that a fourth
    one makes a negated join. -/
theorem taken_join :
    (join a b).Taken (a :: '-' :: b :: rest)
      ↔ ∀ c more, a = '^' → b = '-' → rest = c :: more → False := by
  constructor
  · rintro ⟨-, first⟩ c more rfl rfl rfl
    exact first (.negatedJoin '-' c) Nat.zero_lt_one ⟨more, rfl⟩
  · intro hnegatedJoin
    refine ⟨⟨rest, rfl⟩, ?_⟩
    rintro t ht ⟨more, hmore⟩
    cases t with
    | negatedJoin c d =>
        cases hmore
        exact hnegatedJoin d more rfl rfl rfl
    | join | negated | literal => simp [turn] at ht

/-- A `^` negates the one character behind it, unless that one starts a negated join or the
    `^` itself starts a join. -/
theorem taken_negated :
    (negated a).Taken ('^' :: a :: rest)
      ↔ (∀ c more, rest = '-' :: c :: more → False) ∧
        ∀ c more, a = '-' → rest = c :: more → False := by
  constructor
  · rintro ⟨-, first⟩
    constructor
    · rintro c more rfl
      exact first (.negatedJoin a c) Nat.zero_lt_two ⟨more, rfl⟩
    · rintro c more rfl rfl
      exact first (.join '^' c) (Nat.lt_succ_self 1) ⟨more, rfl⟩
  · rintro ⟨hnegatedJoin, hjoin⟩
    refine ⟨⟨rest, rfl⟩, ?_⟩
    rintro t ht ⟨more, hmore⟩
    cases t with
    | negatedJoin c d =>
        cases hmore
        exact hnegatedJoin d more rfl
    | join c d =>
        cases hmore
        exact hjoin d more rfl rfl
    | negated | literal => simp [turn] at ht

/-- A character stands for itself where no join can start, and a `^` only where nothing is
    left to negate. -/
theorem taken_literal :
    (literal a).Taken (a :: rest)
      ↔ (∀ c more, rest = '-' :: c :: more → False) ∧
        ∀ c more, a = '^' → rest = c :: more → False := by
  constructor
  · rintro ⟨-, first⟩
    constructor
    · rintro c more rfl
      exact first (.join a c) (by simp [turn]) ⟨more, rfl⟩
    · rintro c more rfl rfl
      exact first (.negated c) (Nat.lt_succ_self 2) ⟨more, rfl⟩
  · rintro ⟨hjoin, hnegated⟩
    refine ⟨⟨rest, rfl⟩, ?_⟩
    rintro t ht ⟨more, hmore⟩
    cases t with
    | negatedJoin c d =>
        cases hmore
        exact hnegated c _ rfl rfl
    | join c d =>
        cases hmore
        exact hjoin d more rfl
    | negated c =>
        cases hmore
        exact hnegated c more rfl rfl
    | literal => simp [turn] at ht

/-- **READING TAKES A SLICE**, and goes on behind it. -/
theorem exists_taken {left : List Char} (h : left ≠ []) :
    ∃ (s : Slice) (rest : List Char), left = s.text ++ rest ∧ s.Taken left ∧
      parse left = s.range :: parse rest := by
  -- A form is reached when the ones before it have failed, which is when its slice is taken.
  fun_cases parse left with
  | case1 a b rest =>
      refine ⟨.negatedJoin a b, rest, rfl, taken_negatedJoin, ?_⟩
      rw [between_eq]
      rfl
  | case2 a b rest hnegatedJoin =>
      refine ⟨.join a b, rest, rfl, taken_join.mpr hnegatedJoin, ?_⟩
      rw [between_eq]
      rfl
  | case3 a rest hnegatedJoin hjoin =>
      refine ⟨.negated a, rest, rfl, taken_negated.mpr ⟨hnegatedJoin, hjoin⟩, ?_⟩
      rw [single_eq, between_eq]
      rfl
  | case4 a rest hnegatedJoin hjoin hnegated =>
      refine ⟨.literal a, rest, rfl, taken_literal.mpr ⟨hjoin, hnegated⟩, ?_⟩
      rw [single_eq, between_eq]
      rfl
  | case5 => exact absurd rfl h

end Slice

/-! ## Cutting a definition -/

/-- A slice stands at a place, behind as many characters as the slices before it have. -/
def StandsAt (slices : List Slice) (place : Nat) (s : Slice) : Prop :=
  ∃ before after, slices = before ++ s :: after ∧ (before.flatMap Slice.text).length = place

/-- A definition is cut into slices: they follow each other and are all of it, and each of
    them is the one that is taken at its place. -/
structure Splits (d : List Char) (slices : List Slice) : Prop where
  covers : slices.flatMap Slice.text = d
  taken : ∀ place s, StandsAt slices place s → s.Taken (d.drop place)

theorem standsAt_cons {s t : Slice} {slices : List Slice} {place : Nat} :
    StandsAt (s :: slices) place t
      ↔ place = 0 ∧ t = s ∨
        ∃ behind, place = s.text.length + behind ∧ StandsAt slices behind t := by
  constructor
  · rintro ⟨before, after, hslices, rfl⟩
    cases before with
    | nil =>
        cases hslices
        exact .inl ⟨rfl, rfl⟩
    | cons u before =>
        cases hslices
        exact .inr ⟨_, by rw [List.flatMap_cons, List.length_append], before, after, rfl, rfl⟩
  · rintro (⟨rfl, rfl⟩ | ⟨_, rfl, before, after, rfl, rfl⟩)
    · exact ⟨[], slices, rfl, rfl⟩
    · exact ⟨s :: before, after, rfl, by rw [List.flatMap_cons, List.length_append]⟩

theorem splits_cons {s : Slice} {slices : List Slice} {rest : List Char} :
    Splits (s.text ++ rest) (s :: slices) ↔ s.Taken (s.text ++ rest) ∧ Splits rest slices := by
  constructor
  · rintro ⟨covers, taken⟩
    -- A place of the rest is one of the whole, as many characters on as the first slice has.
    refine ⟨taken 0 s (standsAt_cons.mpr (.inl ⟨rfl, rfl⟩)), ?_, ?_⟩
    · exact List.append_cancel_left covers
    · intro place t ht
      have h := taken _ t (standsAt_cons.mpr (.inr ⟨place, rfl, ht⟩))
      rwa [List.drop_length_add_append] at h
  · rintro ⟨hs, covers, taken⟩
    refine ⟨by rw [List.flatMap_cons, covers], ?_⟩
    intro place t ht
    obtain ⟨rfl, rfl⟩ | ⟨behind, rfl, hbehind⟩ := standsAt_cons.mp ht
    · exact hs
    · rw [List.drop_length_add_append]
      exact taken behind t hbehind

theorem splits_nil : Splits [] [] where
  covers := rfl
  taken place s h := by
    obtain ⟨before, after, hslices, -⟩ := h
    exact absurd hslices.symm (List.append_ne_nil_of_right_ne_nil _ (List.cons_ne_nil _ _))

/-- A definition without characters is cut into no slices, for each slice has some. -/
theorem Splits.eq_nil {slices : List Slice} (h : Splits [] slices) : slices = [] := by
  cases slices with
  | nil => rfl
  | cons s slices =>
      have hpos := s.length_text_pos
      have hlength := congrArg List.length h.covers
      rw [List.flatMap_cons, List.length_append, List.length_nil] at hlength
      omega

/-- **A DEFINITION IS CUT IN ONE WAY** only. -/
theorem Splits.unique {d : List Char} {slices others : List Slice} (h : Splits d slices)
    (ho : Splits d others) : others = slices := by
  induction slices generalizing d others with
  | nil =>
      obtain rfl := h.covers
      exact ho.eq_nil
  | cons s slices ih =>
      cases others with
      | nil =>
          obtain rfl := ho.covers
          exact h.eq_nil.symm
      | cons t others =>
          -- Both cuts start with the slice that is taken at the first place, and so they go
          -- on with the same characters.
          have hs : s.Taken d := h.taken 0 s (standsAt_cons.mpr (.inl ⟨rfl, rfl⟩))
          have ht : t.Taken d := ho.taken 0 t (standsAt_cons.mpr (.inl ⟨rfl, rfl⟩))
          obtain rfl := ht.unique hs
          obtain rfl := h.covers
          rw [ih (splits_cons.mp h).2 (splits_cons.mp ho).2]

/-- Reading goes by the cut. -/
theorem exists_splits (d : List Char) :
    ∃ slices, Splits d slices ∧ parse d = slices.map Slice.range := by
  -- The induction is on the number of characters that are left.
  induction hlength : d.length using Nat.strongRecOn generalizing d with
  | ind n ih =>
      by_cases hd : d = []
      · subst hd
        exact ⟨[], splits_nil, rfl⟩
      · obtain ⟨s, rest, rfl, hs, hparse⟩ := Slice.exists_taken hd
        have hrest : rest.length < n := by
          rw [← hlength, List.length_append]
          exact Nat.lt_add_of_pos_left s.length_text_pos
        obtain ⟨slices, hslices, hranges⟩ := ih rest.length hrest rest rfl
        exact ⟨s :: slices, splits_cons.mpr ⟨hs, hslices⟩, by rw [hparse, hranges, List.map_cons]⟩

/-! ## Signs that stand for themselves -/

/-- A `^` stands for itself where it is the last character that is left. -/
theorem taken_caret {left : List Char} :
    (Slice.literal '^').Taken left ↔ left = ['^'] := by
  constructor
  · intro h
    obtain ⟨rest, rfl⟩ := h.fits
    cases rest with
    | nil => rfl
    | cons c more => exact ((Slice.taken_literal.mp h).2 c more rfl rfl).elim
  · rintro rfl
    exact Slice.taken_literal.mpr ⟨fun _ _ h => (nomatch h), fun _ _ _ h => (nomatch h)⟩

/-- A `-` stands for itself unless it starts a join, with a `-` and a character behind it. -/
theorem taken_dash {left : List Char} :
    (Slice.literal '-').Taken left
      ↔ left[0]? = some '-' ∧ ¬ (left[1]? = some '-' ∧ 2 < left.length) := by
  constructor
  · intro h
    obtain ⟨rest, rfl⟩ := h.fits
    refine ⟨rfl, ?_⟩
    rintro ⟨hnext, hlength⟩
    match rest with
    | [] => exact absurd hlength (by decide)
    | [c] => exact absurd hlength (Nat.lt_irrefl 2)
    | c :: e :: rest =>
        cases hnext
        exact (Slice.taken_literal.mp h).1 e rest rfl
  · rintro ⟨hfirst, hnext⟩
    cases left with
    | nil => exact nomatch hfirst
    | cons a rest =>
        cases hfirst
        refine Slice.taken_literal.mpr ⟨?_, fun _ _ h => absurd h (by decide)⟩
        rintro c more rfl
        exact hnext ⟨rfl, by simp⟩

/-- Where some slice stands, it is the one that is taken there. -/
theorem Splits.standsAt_iff {d : List Char} {slices : List Slice} (h : Splits d slices)
    {place : Nat} {s : Slice} :
    StandsAt slices place s ↔ (∃ t, StandsAt slices place t) ∧ s.Taken (d.drop place) := by
  constructor
  · intro hs
    exact ⟨⟨s, hs⟩, h.taken place s hs⟩
  · rintro ⟨⟨t, ht⟩, hs⟩
    rwa [hs.unique (h.taken place t ht)]

theorem Splits.caret_iff {d : List Char} {slices : List Slice} (h : Splits d slices)
    (place : Nat) :
    StandsAt slices place (.literal '^')
      ↔ (∃ s, StandsAt slices place s) ∧ d[place]? = some '^' ∧ place + 1 = d.length := by
  rw [h.standsAt_iff, taken_caret]
  refine and_congr_right fun _ => ?_
  constructor
  · intro hleft
    have hfirst : (d.drop place)[0]? = some '^' := by rw [hleft]; rfl
    have hlength : d.length - place = 1 := by rw [← List.length_drop, hleft]; rfl
    rw [List.getElem?_drop] at hfirst
    exact ⟨hfirst, by omega⟩
  · rintro ⟨hfirst, hlength⟩
    obtain ⟨hplace, hfirst⟩ := List.getElem?_eq_some_iff.mp hfirst
    rw [List.drop_eq_getElem_cons hplace, hfirst, hlength, List.drop_length]

theorem Splits.dash_iff {d : List Char} {slices : List Slice} (h : Splits d slices)
    (place : Nat) :
    StandsAt slices place (.literal '-')
      ↔ (∃ s, StandsAt slices place s) ∧ d[place]? = some '-' ∧
        ¬ (d[place + 1]? = some '-' ∧ place + 2 < d.length) := by
  have hlength : 2 < d.length - place ↔ place + 2 < d.length := by omega
  rw [h.standsAt_iff, taken_dash, List.getElem?_drop, List.getElem?_drop, List.length_drop,
    Nat.add_zero, hlength]

/-! ## Reading by places -/

/-- The slice that starts what is left of a definition, by tests in the order of turns.  A
    test asks first whether enough characters are left, and looks up those it needs. -/
def readBy (look : Nat → Option Char) (left : Nat) : Option Slice := do
  if left ≥ 4 then
    if (← look 0) = '^' then
      if (← look 2) = '-' then
        return .negatedJoin (← look 1) (← look 3)
  if left ≥ 3 then
    if (← look 1) = '-' then
      return .join (← look 0) (← look 2)
  if left ≥ 2 then
    if (← look 0) = '^' then
      return .negated (← look 1)
  return .literal (← look 0)

/-- The ranges that a definition names from a place on, with each character looked up by its
    place.  There is no result when a character beyond the end is looked up. -/
def readFrom? (d : List Char) (place : Nat) : Option (List CharRange) := do
  if place < d.length then
    let s ← readBy (d[place + ·]?) (d.length - place)
    let ranges ← readFrom? d (place + s.text.length)
    return s.range :: ranges
  else
    return []
termination_by d.length - place
decreasing_by
  have hlength := s.length_text_pos
  omega

/-- The tests find the slice that is taken, and look up no more than what is left. -/
theorem Slice.Taken.readBy_eq {s : Slice} {left : List Char} (h : s.Taken left) :
    readBy (left[·]?) left.length = some s := by
  obtain ⟨rest, rfl⟩ := h.fits
  -- What is behind the slice counts as far as it decides which tests are made at all.
  cases s with
  | negatedJoin a b => simp [readBy, Slice.text]
  | join a b =>
      cases rest with
      | nil => simp [readBy, Slice.text]
      | cons c rest =>
          have hb : a = '^' → b ≠ '-' := fun ha hb => Slice.taken_join.mp h c rest ha hb rfl
          by_cases ha : a = '^' <;> simp [readBy, Slice.text, ha, hb]
  | negated a =>
      obtain ⟨hnegatedJoin, hjoin⟩ := Slice.taken_negated.mp h
      match rest with
      | [] => simp [readBy, Slice.text]
      | [c] =>
          have ha : a ≠ '-' := fun ha => hjoin c [] ha rfl
          simp [readBy, Slice.text, ha]
      | c :: e :: rest =>
          have ha : a ≠ '-' := fun ha => hjoin c (e :: rest) ha rfl
          have hc : c ≠ '-' := fun hc => hnegatedJoin e rest (congrArg (· :: e :: rest) hc)
          simp [readBy, Slice.text, ha, hc]
  | literal a =>
      obtain ⟨hjoin, hnegated⟩ := Slice.taken_literal.mp h
      match rest with
      | [] => simp [readBy, Slice.text]
      | [c] =>
          have ha : a ≠ '^' := fun ha => hnegated c [] ha rfl
          simp [readBy, Slice.text, ha]
      | c :: e :: rest =>
          have ha : a ≠ '^' := fun ha => hnegated c (e :: rest) ha rfl
          have hc : c ≠ '-' := fun hc => hjoin e rest (congrArg (· :: e :: rest) hc)
          simp [readBy, Slice.text, ha, hc]

/-- **NO CHARACTER BEYOND THE END** is looked up, and what is read is what the definition
    names from the place on. -/
theorem readFrom?_eq (d : List Char) (place : Nat) :
    readFrom? d place = some (parse (d.drop place)) := by
  fun_induction readFrom? d place with
  | case1 place hplace ih =>
      have hleft : d.drop place ≠ [] := by
        rw [ne_eq, List.drop_eq_nil_iff]
        exact Nat.not_le.mpr hplace
      obtain ⟨s, rest, hslice, hs, hparse⟩ := Slice.exists_taken hleft
      -- Places of the definition are looked up, which are places of what is left.
      have hread : readBy (d[place + ·]?) (d.length - place) = some s := by
        simpa only [List.getElem?_drop, List.length_drop] using hs.readBy_eq
      have hrest : d.drop (place + s.text.length) = rest := by
        rw [← List.drop_drop, hslice, List.drop_left]
      rw [hread, hparse, ← hrest]
      show (readFrom? d (place + s.text.length)).bind _ = _
      rw [ih s]
      rfl
  | case2 place hplace =>
      rw [List.drop_eq_nil_of_le (Nat.le_of_not_lt hplace)]
      rfl

/-- **A DEFINITION IS READ SLICE BY SLICE.**  Reading it by places ends and looks up no
    character beyond its end.  There is one way to cut it into slices of which each is the
    first that fits at its place, and it names the ranges of these slices, with their bounds
    in order.  In this cut a `^` stands for itself only at the very end, and a `-` only where
    it belongs to no slice before it and does not stand in front of a `-` and a character. -/
theorem parse_slices (d : List Char) :
    readFrom? d 0 = some (parse d) ∧
    ∃ slices : List Slice,
      Splits d slices ∧ (∀ others, Splits d others → others = slices) ∧
      parse d = slices.map Slice.range ∧
      (∀ s ∈ slices, s.range.first ≤ s.range.last ∧
        ∀ c, s.range.contains c = true ↔ s.Denotes c) ∧
      ∀ place,
        (StandsAt slices place (.literal '^')
          ↔ (∃ s, StandsAt slices place s) ∧ d[place]? = some '^' ∧ place + 1 = d.length) ∧
        (StandsAt slices place (.literal '-')
          ↔ (∃ s, StandsAt slices place s) ∧ d[place]? = some '-' ∧
            ¬ (d[place + 1]? = some '-' ∧ place + 2 < d.length)) := by
  refine ⟨readFrom?_eq d 0, ?_⟩
  obtain ⟨slices, hslices, hranges⟩ := exists_splits d
  refine ⟨slices, hslices, fun others ho => hslices.unique ho, hranges, ?_, ?_⟩
  · intro s _
    exact ⟨s.range.ordered, s.range_contains⟩
  · intro place
    exact ⟨hslices.caret_iff place, hslices.dash_iff place⟩

/-- Signs as bounds and for themselves: all but `-` to `a`, then a `-` and a `^`. -/
example : parse ['^', '-', '-', 'a', '-', '^'] =
    [between '-' 'a' true, single '-' false, single '^' false] := by
  decide

end Likeness.CharRange
