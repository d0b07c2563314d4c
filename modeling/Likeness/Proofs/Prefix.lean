import Likeness.Prefix
import Mathlib.Data.List.Forall2
import Mathlib.Data.List.Infix
import Mathlib.Order.Bounds.Basic

/-! # Shared prefixes

    Two sequences share a prefix of a length when as many leading items are there in
    both and are equal place by place.  The longest such prefix is found by going
    through both until an item differs or one of them ends
    (`sharedLength_isGreatest`).

    Of texts, the prefix itself is looked for: a text is the greatest prefix of several
    when its prefixes are those that they have in common.  Several texts are gone
    through in step with the first shortest of them, so that no place behind the end of
    one is looked at (`exists_commonPrefix?`). -/

namespace Likeness

variable {α : Type} {same : α → α → Bool} {xs ys : List α}

/-- The first `k` items are there in both sequences and are equal place by place. -/
def SharesPrefix (same : α → α → Bool) (xs ys : List α) (k : Nat) : Prop :=
  ∀ i, i < k → ∃ x y, xs[i]? = some x ∧ ys[i]? = some y ∧ same x y = true

theorem sharesPrefix_zero (same : α → α → Bool) (xs ys : List α) : SharesPrefix same xs ys 0 :=
  fun i hi => absurd hi (Nat.not_lt_zero i)

theorem SharesPrefix.le_length {k : Nat} (h : SharesPrefix same xs ys k) :
    k ≤ xs.length ∧ k ≤ ys.length := by
  cases k with
  | zero => exact ⟨Nat.zero_le _, Nat.zero_le _⟩
  | succ k =>
      obtain ⟨x, y, hx, hy, -⟩ := h k (Nat.lt_succ_self k)
      obtain ⟨hxs, -⟩ := List.getElem?_eq_some_iff.mp hx
      obtain ⟨hys, -⟩ := List.getElem?_eq_some_iff.mp hy
      exact ⟨hxs, hys⟩

theorem sharesPrefix_cons {x y : α} {k : Nat} :
    SharesPrefix same (x :: xs) (y :: ys) (k + 1)
      ↔ same x y = true ∧ SharesPrefix same xs ys k := by
  constructor
  · intro h
    obtain ⟨u, v, hu, hv, hsame⟩ := h 0 (Nat.succ_pos k)
    cases hu
    cases hv
    exact ⟨hsame, fun i hi => h (i + 1) (Nat.succ_lt_succ hi)⟩
  · rintro ⟨hsame, h⟩ i hi
    cases i with
    | zero => exact ⟨x, y, rfl, rfl, hsame⟩
    | succ i => exact h i (Nat.lt_of_succ_lt_succ hi)

/-- Sequences that are equal item by item are as long, and share all of that. -/
theorem forall₂_iff_sharesPrefix :
    xs.Forall₂ (fun x y => same x y = true) ys
      ↔ xs.length = ys.length ∧ SharesPrefix same xs ys xs.length := by
  induction xs generalizing ys with
  | nil =>
      rw [List.forall₂_nil_left_iff]
      constructor
      · rintro rfl
        exact ⟨rfl, sharesPrefix_zero same [] []⟩
      · rintro ⟨hlength, -⟩
        exact List.length_eq_zero_iff.mp hlength.symm
  | cons x xs ih =>
      cases ys with
      | nil => exact ⟨fun h => (nomatch h), fun h => nomatch h.1⟩
      | cons y ys =>
          rw [List.forall₂_cons, ih, List.length_cons, List.length_cons, Nat.succ_inj,
            sharesPrefix_cons]
          exact and_left_comm

/-! ## The longest one -/

/-- **THE LONGEST SHARED PREFIX** is found. -/
theorem sharedLength_isGreatest (same : α → α → Bool) (xs ys : List α) :
    IsGreatest {k | SharesPrefix same xs ys k} (sharedLength same xs ys) := by
  fun_induction sharedLength same xs ys with
  | case1 x xs y ys hsame ih =>
      refine ⟨sharesPrefix_cons.mpr ⟨hsame, ih.1⟩, ?_⟩
      intro k hk
      cases k with
      | zero => exact Nat.zero_le _
      | succ k => exact Nat.succ_le_succ (ih.2 (sharesPrefix_cons.mp hk).2)
  | case2 x xs y ys hdiffer =>
      refine ⟨sharesPrefix_zero same _ _, ?_⟩
      intro k hk
      cases k with
      | zero => exact Nat.le_refl 0
      | succ k => exact absurd (sharesPrefix_cons.mp hk).1 hdiffer
  | case3 us vs hne =>
      refine ⟨sharesPrefix_zero same _ _, ?_⟩
      intro k hk
      cases us with
      | nil => exact hk.le_length.1
      | cons u us =>
          cases vs with
          | nil => exact hk.le_length.2
          | cons v vs => exact (hne u us v vs rfl rfl).elim

theorem sharedLength_le (same : α → α → Bool) (xs ys : List α) :
    sharedLength same xs ys ≤ xs.length :=
  (sharedLength_isGreatest same xs ys).1.le_length.1

/-- Of sequences that are cut off, what they share is cut off. -/
theorem sharedLength_take (same : α → α → Bool) (xs ys : List α) (k : Nat) :
    sharedLength same (xs.take k) (ys.take k) = min k (sharedLength same xs ys) := by
  induction k generalizing xs ys with
  | zero => exact (Nat.zero_min _).symm
  | succ k ih =>
      cases xs with
      | nil => exact (Nat.min_zero _).symm
      | cons x xs =>
          cases ys with
          | nil => exact (Nat.min_zero _).symm
          | cons y ys =>
              rw [List.take_succ_cons, List.take_succ_cons, sharedLength, sharedLength, ih]
              split_ifs
              · exact (Nat.succ_min_succ _ _).symm
              · exact (Nat.min_zero _).symm

theorem SharesPrefix.swap {k : Nat} (hsym : ∀ x ∈ xs, ∀ y ∈ ys, same x y = same y x)
    (h : SharesPrefix same xs ys k) : SharesPrefix same ys xs k := by
  intro i hi
  obtain ⟨x, y, hx, hy, hsame⟩ := h i hi
  rw [hsym x (List.mem_of_getElem? hx) y (List.mem_of_getElem? hy)] at hsame
  exact ⟨y, x, hy, hx, hsame⟩

/-- It is shared from both sides. -/
theorem sharedLength_comm (hsym : ∀ x ∈ xs, ∀ y ∈ ys, same x y = same y x) :
    sharedLength same xs ys = sharedLength same ys xs := by
  have hsym' : ∀ y ∈ ys, ∀ x ∈ xs, same y x = same x y := fun y hy x hx => (hsym x hx y hy).symm
  obtain ⟨hshared, hgreatest⟩ := sharedLength_isGreatest same xs ys
  obtain ⟨hshared', hgreatest'⟩ := sharedLength_isGreatest same ys xs
  exact Nat.le_antisymm (hgreatest' (hshared.swap hsym)) (hgreatest (hshared'.swap hsym'))

/-! ## Greatest prefixes -/

/-- The prefixes of one text are those that some texts have in common. -/
def IsGreatestPrefix (texts : List (List α)) (p : List α) : Prop :=
  ∀ q, q <+: p ↔ ∀ s ∈ texts, q <+: s

namespace IsGreatestPrefix

variable {texts texts' : List (List α)} {p p' q s t : List α}

theorem le (h : IsGreatestPrefix texts p) (hs : s ∈ texts) : p <+: s :=
  (h p).mp (List.prefix_refl p) s hs

theorem unique (h : IsGreatestPrefix texts p) (h' : IsGreatestPrefix texts p') : p = p' := by
  have hp : p <+: p' := (h' p).mpr ((h p).mp (List.prefix_refl p))
  have hp' : p' <+: p := (h p').mpr ((h' p').mp (List.prefix_refl p'))
  exact hp.eq_of_length_le hp'.length_le

/-- Only which texts there are matters, not how often or in which order. -/
theorem congr (h : IsGreatestPrefix texts p) (hmem : ∀ s, s ∈ texts ↔ s ∈ texts') :
    IsGreatestPrefix texts' p := by
  intro q
  rw [h q]
  exact forall_congr' fun s => by rw [hmem s]

theorem single (s : List α) : IsGreatestPrefix [s] s := by
  intro q
  rw [List.forall_mem_singleton]

/-- The greatest prefix of one more text is that of the text and the one before. -/
theorem step (h : IsGreatestPrefix texts p) (hnext : IsGreatestPrefix [p, t] q) :
    IsGreatestPrefix (texts ++ [t]) q := by
  intro r
  rw [hnext r, List.forall_mem_cons, List.forall_mem_append, h r]

/-- An empty text among others leaves nothing in common. -/
theorem of_empty (h : [] ∈ texts) : IsGreatestPrefix texts [] := by
  intro q
  constructor
  · rintro hq s -
    exact hq.trans (List.nil_prefix)
  · intro hq
    exact hq [] h

end IsGreatestPrefix

/-- A prefix of what is behind a place begins with the character there. -/
theorem cons_prefix_drop {s q : List α} {i : Nat} {d : α} :
    d :: q <+: s.drop i ↔ s[i]? = some d ∧ q <+: s.drop (i + 1) := by
  by_cases hi : i < s.length
  · rw [List.drop_eq_getElem_cons hi, List.cons_prefix_cons, List.getElem?_eq_getElem hi,
      Option.some_inj]
    exact and_congr_left fun _ => eq_comm
  · have hend := Nat.le_of_not_lt hi
    rw [List.drop_eq_nil_of_le hend, List.getElem?_eq_none hend]
    exact iff_of_false (fun h => nomatch List.prefix_nil.mp h) fun h => nomatch h.1

namespace IsGreatestPrefix

variable {texts : List (List α)} {rest p : List α} {c : α} {i : Nat}

/-- Nothing is in common from a place on where a text has another character. -/
theorem of_differing (h : ¬∀ s ∈ texts, s[i]? = some c) :
    IsGreatestPrefix ((c :: rest) :: texts.map (·.drop i)) [] := by
  intro q
  rw [List.prefix_nil, List.forall_mem_cons, List.forall_mem_map]
  constructor
  · rintro rfl
    exact ⟨List.nil_prefix, fun s _ => List.nil_prefix⟩
  · rintro ⟨hq, htexts⟩
    -- a longer prefix would have the character in all texts
    rcases List.prefix_cons_iff.mp hq with rfl | ⟨r, rfl, -⟩
    · rfl
    · exact absurd (fun s hs => (cons_prefix_drop.mp (htexts s hs)).1) h

/-- A character that is the same in all texts is in front of what they have in common from
    the next place on. -/
theorem cons (h : IsGreatestPrefix (rest :: texts.map (·.drop (i + 1))) p)
    (hsame : ∀ s ∈ texts, s[i]? = some c) :
    IsGreatestPrefix ((c :: rest) :: texts.map (·.drop i)) (c :: p) := by
  intro q
  rw [List.forall_mem_cons, List.forall_mem_map]
  cases q with
  | nil => exact iff_of_true List.nil_prefix ⟨List.nil_prefix, fun s _ => List.nil_prefix⟩
  | cons d q =>
      have htail := h q
      rw [List.forall_mem_cons, List.forall_mem_map] at htail
      rw [List.cons_prefix_cons, List.cons_prefix_cons, htail]
      constructor
      · rintro ⟨rfl, hrest, htexts⟩
        exact ⟨⟨rfl, hrest⟩, fun s hs => cons_prefix_drop.mpr ⟨hsame s hs, htexts s hs⟩⟩
      · rintro ⟨⟨rfl, hrest⟩, htexts⟩
        exact ⟨rfl, hrest, fun s hs => (cons_prefix_drop.mp (htexts s hs)).2⟩

end IsGreatestPrefix

/-! ## What is gone through -/

theorem shortestOf_mem (first : List α) (rest : List (List α)) :
    shortestOf first rest ∈ first :: rest := by
  induction rest generalizing first with
  | nil => exact List.mem_cons_self
  | cons s rest ih =>
      rw [shortestOf]
      split_ifs
      · exact List.mem_cons_of_mem first (ih s)
      · rcases List.mem_cons.mp (ih first) with h | h
        · rw [h]
          exact List.mem_cons_self
        · exact List.mem_cons_of_mem first (List.mem_cons_of_mem s h)

theorem length_shortestOf_le (first : List α) (rest : List (List α)) :
    ∀ s ∈ first :: rest, (shortestOf first rest).length ≤ s.length := by
  induction rest generalizing first with
  | nil =>
      rw [List.forall_mem_singleton]
      exact Nat.le_refl _
  | cons t rest ih =>
      rw [shortestOf]
      obtain ⟨hbest, hrest⟩ := List.forall_mem_cons.mp
        (ih (if t.length < first.length then t else first))
      refine List.forall_mem_cons.mpr ⟨hbest.trans ?_, List.forall_mem_cons.mpr
        ⟨hbest.trans ?_, hrest⟩⟩
      · split_ifs with h
        · exact Nat.le_of_lt h
        · exact Nat.le_refl _
      · split_ifs with h
        · exact Nat.le_refl _
        · exact Nat.le_of_not_lt h

/-- Texts of which none is empty are all gone through. -/
theorem mapM_nonempty {texts : List (List α)} (h : [] ∉ texts) :
    (texts.map some).mapM (·.filter (· ≠ [])) = some texts := by
  induction texts with
  | nil => rfl
  | cons s texts ih =>
      obtain ⟨hs, htexts⟩ := not_or.mp fun hor => h (List.mem_cons.mpr hor)
      have hkeep : (some s).filter (· ≠ []) = some s := by simp [Ne.symm hs]
      rw [List.map_cons, List.mapM_cons, ih htexts, hkeep]
      rfl

/-- One that is empty stops that. -/
theorem mapM_empty {texts : List (List α)} (h : [] ∈ texts) :
    (texts.map some).mapM (·.filter (· ≠ [])) = none := by
  induction texts with
  | nil => exact nomatch h
  | cons s texts ih =>
      rw [List.map_cons, List.mapM_cons]
      by_cases hs : s = []
      · rw [hs]
        rfl
      · rw [ih ((List.mem_cons.mp h).resolve_left (Ne.symm hs))]
        cases Option.filter _ (some s) with
        | none => rfl
        | some s => rfl

/-! ## Two texts -/

section Texts

variable [DecidableEq α]

/-- What two texts share, as the first characters of the first of them. -/
def sharedPrefix (s t : List α) : List α :=
  s.take (sharedLength (· == ·) s t)

theorem take_sharedLength (s t : List α) :
    t.take (sharedLength (· == ·) s t) = sharedPrefix s t := by
  rw [sharedPrefix]
  fun_induction sharedLength (· == ·) s t with
  | case1 x xs y ys hsame ih =>
      rw [List.take_succ_cons, List.take_succ_cons, ih, eq_of_beq hsame]
  | case2 x xs y ys hdiffer => rfl
  | case3 us vs hne => rfl

theorem sharedPrefix_comm (s t : List α) : sharedPrefix s t = sharedPrefix t s := by
  have hlength : sharedLength (· == ·) s t = sharedLength (· == ·) t s :=
    sharedLength_comm fun x _ y _ => BEq.comm
  rw [← take_sharedLength s t, hlength, sharedPrefix]

theorem length_sharedPrefix (s t : List α) :
    (sharedPrefix s t).length = sharedLength (· == ·) s t := by
  rw [sharedPrefix, List.length_take]
  exact Nat.min_eq_left (sharedLength_le _ s t)

/-- Behind what they share, different texts have different characters, or one of them
    has ended. -/
theorem getElem?_sharedLength_ne {s t : List α} (h : s ≠ t) :
    s[sharedLength (· == ·) s t]? ≠ t[sharedLength (· == ·) s t]? := by
  fun_induction sharedLength (· == ·) s t with
  | case1 x xs y ys hsame ih =>
      rw [List.getElem?_cons_succ, List.getElem?_cons_succ]
      refine ih ?_
      rintro rfl
      exact h (congrArg (· :: xs) (eq_of_beq hsame))
  | case2 x xs y ys hdiffer =>
      intro heq
      exact hdiffer (beq_of_eq (Option.some.inj heq))
  | case3 us vs hne =>
      intro heq
      cases us with
      | nil =>
          cases vs with
          | nil => exact h rfl
          | cons v vs => exact nomatch heq
      | cons u us =>
          cases vs with
          | nil => exact nomatch heq
          | cons v vs => exact hne u us v vs rfl rfl

theorem sharedLength_self (s : List α) : sharedLength (· == ·) s s = s.length := by
  induction s with
  | nil => rfl
  | cons c s ih => rw [sharedLength, if_pos (beq_self_eq_true c), ih, List.length_cons]

theorem length_sharedPrefix_le (s t : List α) :
    (sharedPrefix s t).length ≤ s.length ∧ (sharedPrefix s t).length ≤ t.length := by
  refine ⟨(List.take_prefix _ s).length_le, ?_⟩
  rw [← take_sharedLength]
  exact (List.take_prefix _ t).length_le

/-- Only equal texts share all of themselves. -/
theorem length_sharedPrefix_eq_iff {s t : List α} :
    (sharedPrefix s t).length = s.length ∧ (sharedPrefix s t).length = t.length ↔ s = t := by
  rw [length_sharedPrefix]
  constructor
  · rintro ⟨hs, ht⟩
    have htake := take_sharedLength s t
    rw [sharedPrefix, hs, List.take_length, ← hs, ht, List.take_length] at htake
    exact htake.symm
  · rintro rfl
    exact ⟨sharedLength_self s, sharedLength_self s⟩

/-- Texts differ first behind what they share, if they differ at all. -/
theorem firstDifference?_eq (s t : List α) :
    firstDifference? (· == ·) s t = if s = t then none else some (sharedPrefix s t).length := by
  rw [firstDifference?, ← length_sharedPrefix]
  exact if_congr length_sharedPrefix_eq_iff rfl rfl

/-- The tail of the second text is what is behind the shared part of it. -/
theorem difference_eq (s t : List α) :
    difference (some s) (some t) = some (t.drop (sharedPrefix s t).length) := by
  rw [difference, firstDifference?_eq]
  split_ifs with h
  · rw [h, length_sharedPrefix, sharedLength_self, List.drop_length]
  · rfl

/-- What two texts share, with the tail behind it, is the second text again. -/
theorem sharedPrefix_append_drop (s t : List α) :
    sharedPrefix s t ++ t.drop (sharedPrefix s t).length = t := by
  rw [length_sharedPrefix, ← take_sharedLength, List.take_append_drop]

/-- What two texts share is their greatest prefix. -/
theorem IsGreatestPrefix.pair (s t : List α) : IsGreatestPrefix [s, t] (sharedPrefix s t) := by
  intro q
  rw [List.forall_mem_cons, List.forall_mem_singleton]
  constructor
  · intro hq
    refine ⟨hq.trans (List.take_prefix _ s), hq.trans ?_⟩
    rw [← take_sharedLength]
    exact List.take_prefix _ t
  · rintro ⟨hs, ht⟩
    refine List.prefix_take_iff.mpr ⟨hs, (sharedLength_isGreatest _ s t).2 ?_⟩
    intro i hi
    exact ⟨q[i], q[i], List.prefix_iff_getElem?.mp hs i hi, List.prefix_iff_getElem?.mp ht i hi,
      beq_self_eq_true _⟩

/-- Texts are gone through one after another. -/
theorem IsGreatestPrefix.foldl {texts : List (List α)} {p : List α} (rest : List (List α))
    (h : IsGreatestPrefix texts p) :
    IsGreatestPrefix (texts ++ rest) (rest.foldl sharedPrefix p) := by
  induction rest generalizing texts p with
  | nil => rwa [List.append_nil]
  | cons t rest ih =>
      have hnext := ih (h.step (pair p t))
      rwa [List.append_assoc] at hnext

/-! ## Several texts in step -/

/-- Texts that reach beyond a place are asked for it without failing. -/
theorem exists_differsAt? {texts : List (List α)} {i : Nat} (h : ∀ s ∈ texts, i < s.length)
    (c : α) : ∃ differs, differsAt? i c texts = some differs ∧
      (differs = false ↔ ∀ s ∈ texts, s[i]? = some c) := by
  induction texts with
  | nil => exact ⟨false, rfl, fun _ s hs => (nomatch hs), fun _ => rfl⟩
  | cons s texts ih =>
      obtain ⟨hs, htexts⟩ := List.forall_mem_cons.mp h
      have hread := List.getElem?_eq_getElem hs
      rw [differsAt?, hread]
      by_cases hsame : s[i] = c
      · obtain ⟨differs, hdiffers, hiff⟩ := ih htexts
        refine ⟨differs, ?_, ?_⟩
        · rw [← hdiffers]
          exact if_pos hsame
        · rw [hiff, List.forall_mem_cons, hread, hsame]
          exact (and_iff_right rfl).symm
      · refine ⟨true, if_neg hsame, ?_⟩
        rw [List.forall_mem_cons, hread, Option.some_inj]
        exact iff_of_false Bool.noConfusion fun hall => hsame hall.1

/-- Texts that reach as far as the rest of one are gone through in step with it, without
    failing, up to where one of them differs. -/
theorem exists_agreeing? {texts : List (List α)} (rest : List α) :
    ∀ i, (∀ s ∈ texts, i + rest.length ≤ s.length) →
      ∃ p, agreeing? texts i rest = some p ∧
        IsGreatestPrefix (rest :: texts.map (·.drop i)) p := by
  induction rest with
  | nil => exact fun i _ => ⟨[], rfl, .of_empty List.mem_cons_self⟩
  | cons c rest ih =>
      intro i hreach
      have hplace : ∀ s ∈ texts, i < s.length := by
        intro s hs
        have hle := hreach s hs
        rw [List.length_cons] at hle
        omega
      obtain ⟨differs, hdiffers, hiff⟩ := exists_differsAt? hplace c
      rw [agreeing?, hdiffers]
      cases differs with
      | true =>
          refine ⟨[], rfl, .of_differing fun hsame => ?_⟩
          exact nomatch hiff.mpr hsame
      | false =>
          have hnext : ∀ s ∈ texts, i + 1 + rest.length ≤ s.length := by
            intro s hs
            have hle := hreach s hs
            rw [List.length_cons] at hle
            omega
          obtain ⟨p, hp, hgreatest⟩ := ih (i + 1) hnext
          refine ⟨c :: p, ?_, hgreatest.cons (hiff.mp rfl)⟩
          rw [hp]
          rfl

/-- **SEVERAL TEXTS HAVE A GREATEST PREFIX**, and it is found without looking behind the
    end of any of them. -/
theorem exists_commonPrefix? {texts : List (List α)} (h : texts ≠ []) :
    ∃ p, commonPrefix? (texts.map some) = some p ∧ IsGreatestPrefix texts p := by
  by_cases hempty : [] ∈ texts
  · refine ⟨[], ?_, .of_empty hempty⟩
    rw [commonPrefix?, mapM_empty hempty]
  · obtain ⟨first, rest, rfl⟩ := List.exists_cons_of_ne_nil h
    have hreach : ∀ s ∈ first :: rest, 0 + (shortestOf first rest).length ≤ s.length := by
      intro s hs
      rw [Nat.zero_add]
      exact length_shortestOf_le first rest s hs
    obtain ⟨p, hp, hgreatest⟩ := exists_agreeing? (shortestOf first rest) 0 hreach
    refine ⟨p, ?_, hgreatest.congr ?_⟩
    · rw [commonPrefix?, mapM_nonempty hempty]
      exact hp
    · -- the shortest text is one of them
      intro s
      simp only [List.drop_zero, List.map_id']
      rw [List.mem_cons]
      exact or_iff_right_of_imp fun hs => hs ▸ shortestOf_mem first rest

end Texts

end Likeness
