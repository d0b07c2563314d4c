import Likeness.Proofs.Match.Greedy
import Mathlib.Algebra.Order.Ring.Abs
import Mathlib.Algebra.Order.Ring.Int
import Mathlib.Data.Finset.Card
import Mathlib.Order.Bounds.Basic
import Mathlib.Tactic.Push

/-! # No pairing has more pairs than the greedy matching

    A first fit may take a place that another choice would have needed.  It loses no
    pair by that, since all windows are equally wide: if the first place fits an
    earlier and a later partner, and the earlier partner fits another place too, then
    that place fits the later partner (`Exchangeable`).  So whatever a competing
    pairing does with the first place and its partner, all but one of its pairs can be
    kept without them (`OneToOne.exists_rest`), and the pass has that one pair.

    The main result is `greedy_isGreatest`. -/

namespace Likeness.Match

variable {α : Type}

/-! ## Exchanging partners -/

/-- Pairs of places that fit, no place in two of them. -/
structure OneToOne (fits : Nat → Nat → Prop) (N : Finset (Nat × Nat)) : Prop where
  fits : ∀ {i j}, (i, j) ∈ N → fits i j
  left : ∀ {i j l}, (i, j) ∈ N → (i, l) ∈ N → j = l
  right : ∀ {i j k}, (i, j) ∈ N → (k, j) ∈ N → i = k

/-- Where two places fit each other crosswise and the earlier ones fit, the later ones do. -/
def Exchangeable (fits : Nat → Nat → Prop) : Prop :=
  ∀ {i i' j j'}, i < i' → j < j' → fits i j → fits i j' → fits i' j → fits i' j'

theorem OneToOne.mono {fits fits' : Nat → Nat → Prop} {N : Finset (Nat × Nat)}
    (h : OneToOne fits N) (hfits : ∀ i j, fits i j → fits' i j) : OneToOne fits' N :=
  ⟨fun hij => hfits _ _ (h.fits hij), h.left, h.right⟩

section Exchange

variable {fits : Nat → Nat → Prop} {N : Finset (Nat × Nat)} {i₀ j₀ : Nat}

/-- The pairs that neither of two places is in. -/
def without (i₀ j₀ : Nat) (N : Finset (Nat × Nat)) : Finset (Nat × Nat) :=
  N.filter fun p => p.1 ≠ i₀ ∧ p.2 ≠ j₀

theorem mem_without {p : Nat × Nat} : p ∈ without i₀ j₀ N ↔ p ∈ N ∧ p.1 ≠ i₀ ∧ p.2 ≠ j₀ :=
  Finset.mem_filter

theorem OneToOne.without (h : OneToOne fits N) :
    OneToOne (fun i j => fits i j ∧ i ≠ i₀ ∧ j ≠ j₀) (without i₀ j₀ N) := by
  refine ⟨?_, ?_, ?_⟩
  · intro i j hij
    obtain ⟨hN, hne⟩ := mem_without.mp hij
    exact ⟨h.fits hN, hne⟩
  · intro i j l hij hil
    exact h.left (mem_without.mp hij).1 (mem_without.mp hil).1
  · intro i j k hij hkj
    exact h.right (mem_without.mp hij).1 (mem_without.mp hkj).1

/-- If the two places are in one pair at most, no more than that is lost. -/
theorem card_le_without (p : Nat × Nat) (h : ∀ q ∈ N, q.1 = i₀ ∨ q.2 = j₀ → q = p) :
    N.card ≤ (without i₀ j₀ N).card + 1 := by
  have hsub : N ⊆ insert p (without i₀ j₀ N) := by
    intro q hq
    by_cases hhit : q.1 = i₀ ∨ q.2 = j₀
    · exact h q hq hhit ▸ Finset.mem_insert_self q _
    · push Not at hhit
      exact Finset.mem_insert_of_mem (mem_without.mpr ⟨hq, hhit⟩)
  exact (Finset.card_le_card hsub).trans (Finset.card_insert_le p _)

/-- If the two places are in two pairs, their partners make up for one of these. -/
theorem OneToOne.exchanged (h : OneToOne fits N) {i' j' : Nat} (hrow : (i₀, j') ∈ N)
    (hcol : (i', j₀) ∈ N) (hi : i' ≠ i₀) (hj : j' ≠ j₀) (hfit : fits i' j') :
    OneToOne (fun i j => fits i j ∧ i ≠ i₀ ∧ j ≠ j₀) (insert (i', j') (Match.without i₀ j₀ N)) ∧
      N.card ≤ (insert (i', j') (Match.without i₀ j₀ N)).card + 1 := by
  have hrest : OneToOne (fun i j => fits i j ∧ i ≠ i₀ ∧ j ≠ j₀) (Match.without i₀ j₀ N) :=
    h.without
  -- in the given pairs both partners were taken, so neither occurs in the rest
  have hleft : ∀ j, (i', j) ∉ Match.without i₀ j₀ N := by
    intro j hmem
    obtain ⟨hN, -, hne⟩ := mem_without.mp hmem
    exact hne (h.left hN hcol)
  have hright : ∀ i, (i, j') ∉ Match.without i₀ j₀ N := by
    intro i hmem
    obtain ⟨hN, hne, -⟩ := mem_without.mp hmem
    exact hne (h.right hN hrow)
  refine ⟨⟨?_, ?_, ?_⟩, ?_⟩
  · intro i j hij
    rcases Finset.mem_insert.mp hij with heq | hij
    · cases heq
      exact ⟨hfit, hi, hj⟩
    · exact hrest.fits hij
  · intro i j l hij hil
    rcases Finset.mem_insert.mp hij with heq | hij
    · cases heq
      rcases Finset.mem_insert.mp hil with heq | hil
      · cases heq
        rfl
      · exact absurd hil (hleft l)
    · rcases Finset.mem_insert.mp hil with heq | hil
      · cases heq
        exact absurd hij (hleft j)
      · exact hrest.left hij hil
  · intro i j k hij hkj
    rcases Finset.mem_insert.mp hij with heq | hij
    · cases heq
      rcases Finset.mem_insert.mp hkj with heq | hkj
      · cases heq
        rfl
      · exact absurd hkj (hright k)
    · rcases Finset.mem_insert.mp hkj with heq | hkj
      · cases heq
        exact absurd hij (hright i)
      · exact hrest.right hij hkj
  · have hsub : N ⊆ insert (i₀, j') (insert (i', j₀) (Match.without i₀ j₀ N)) := by
      rintro ⟨i, j⟩ hij
      by_cases hfirst : i = i₀
      · subst hfirst
        rw [h.left hij hrow]
        exact Finset.mem_insert_self _ _
      · by_cases hsecond : j = j₀
        · subst hsecond
          rw [h.right hij hcol]
          exact Finset.mem_insert_of_mem (Finset.mem_insert_self _ _)
        · exact Finset.mem_insert_of_mem (Finset.mem_insert_of_mem
            (mem_without.mpr ⟨hij, hfirst, hsecond⟩))
    have hcard := (Finset.card_le_card hsub).trans (Finset.card_insert_le _ _)
    have hcard' := Finset.card_insert_le (i', j₀) (Match.without i₀ j₀ N)
    rw [Finset.card_insert_of_notMem (hleft j')]
    omega

/-- **A FIRST FIT COSTS ONE PAIR**: from pairs of places all but one can be kept, some with
    other partners, so that they do without the first place and the first that fits it. -/
theorem OneToOne.exists_rest (h : OneToOne fits N) (hswap : Exchangeable fits)
    (hfit : fits i₀ j₀) (hearlier : ∀ l, l < j₀ → ¬ fits i₀ l) (hfirst : ∀ i j, fits i j → i₀ ≤ i) :
    ∃ N', OneToOne (fun i j => fits i j ∧ i ≠ i₀ ∧ j ≠ j₀) N' ∧ N.card ≤ N'.card + 1 := by
  by_cases hrow : ∃ j', (i₀, j') ∈ N
  · obtain ⟨j', hrow⟩ := hrow
    by_cases hcol : ∃ i', (i', j₀) ∈ N
    · obtain ⟨i', hcol⟩ := hcol
      by_cases hj : j' = j₀
      · subst hj
        refine ⟨_, h.without, card_le_without (i₀, j') ?_⟩
        rintro ⟨i, j⟩ hij (rfl | rfl)
        · rw [h.left hij hrow]
        · rw [h.right hij hrow]
      · have hi : i' ≠ i₀ := by
          rintro rfl
          exact hj (h.left hrow hcol)
        have hlt : i₀ < i' := lt_of_le_of_ne (hfirst i' j₀ (h.fits hcol)) (Ne.symm hi)
        have hlt' : j₀ < j' := by
          rcases Nat.lt_trichotomy j' j₀ with hless | heq | hmore
          · exact absurd (h.fits hrow) (hearlier j' hless)
          · exact absurd heq hj
          · exact hmore
        have hcross := hswap hlt hlt' hfit (h.fits hrow) (h.fits hcol)
        exact ⟨_, h.exchanged hrow hcol hi hj hcross⟩
    · refine ⟨_, h.without, card_le_without (i₀, j') ?_⟩
      rintro ⟨i, j⟩ hij (rfl | rfl)
      · rw [h.left hij hrow]
      · exact absurd ⟨i, hij⟩ hcol
  · by_cases hcol : ∃ i', (i', j₀) ∈ N
    · obtain ⟨i', hcol⟩ := hcol
      refine ⟨_, h.without, card_le_without (i', j₀) ?_⟩
      rintro ⟨i, j⟩ hij (rfl | rfl)
      · exact absurd ⟨j, hij⟩ hrow
      · rw [h.right hij hcol]
    · refine ⟨_, h.without, card_le_without (i₀, j₀) ?_⟩
      rintro ⟨i, j⟩ hij (rfl | rfl)
      · exact absurd ⟨j, hij⟩ hrow
      · exact absurd ⟨i, hij⟩ hcol

end Exchange

/-! ## The pass -/

/-- On some items, the test is symmetric and transitive. -/
structure Consistent (same : α → α → Bool) (items : List α) : Prop where
  symm : ∀ x ∈ items, ∀ y ∈ items, same x y = true → same y x = true
  trans : ∀ x ∈ items, ∀ y ∈ items, ∀ z ∈ items,
    same x y = true → same y z = true → same x z = true

variable {same : α → α → Bool} {a b : List α} {reach : Nat}

theorem consistent_beq [BEq α] [LawfulBEq α] (items : List α) :
    Consistent (fun x y => x == y) items where
  symm _ _ _ _ h := BEq.symm h
  trans _ _ _ _ _ _ h h' := BEq.trans h h'

theorem Consistent.mono {items items' : List α} (h : Consistent same items)
    (hsub : items' ⊆ items) : Consistent same items' where
  symm x hx y hy := h.symm x (hsub hx) y (hsub hy)
  trans x hx y hy z hz := h.trans x (hsub hx) y (hsub hy) z (hsub hz)

theorem Consistent.comm (h : Consistent same (a ++ b)) :
    ∀ x ∈ a, ∀ y ∈ b, same x y = same y x := by
  intro x hx y hy
  have hxab := List.mem_append_left b hx
  have hyab := List.mem_append_right a hy
  exact Bool.eq_iff_iff.mpr ⟨h.symm x hxab y hyab, h.symm y hyab x hxab⟩

/-- Windows of one width, and items that are equal to one another. -/
theorem exchangeable_fits (h : Consistent same (a ++ b)) :
    Exchangeable (Fits same a b reach) := by
  rintro i i' j j' hi hj ⟨hnear, x, y, hx, hy, hyx⟩ ⟨hnear', z, y', hz, hy', hyx'⟩
    ⟨hnear'', x', w, hx'', hw, hyx''⟩
  cases hx.symm.trans hz
  cases hy.symm.trans hw
  have hxab := List.mem_append_left b (List.mem_of_getElem? hx)
  have hxab' := List.mem_append_left b (List.mem_of_getElem? hx'')
  have hyab := List.mem_append_right a (List.mem_of_getElem? hy)
  have hyab' := List.mem_append_right a (List.mem_of_getElem? hy')
  have hxy := h.symm y hyab x hxab hyx
  have hyy := h.trans y' hyab' x hxab y hyab hyx' hxy
  exact ⟨by omega, x', y', hx'', hy', h.trans y' hyab' y hyab x' hxab' hyy hyx''⟩

theorem exchangeable_remaining (h : Consistent same (a ++ b)) {i : Nat} {taken : List Bool} :
    Exchangeable (Remaining same a b reach i taken) := by
  rintro k k' j j' hk hj ⟨hi, hfits, -⟩ ⟨-, hfits', hfree'⟩ ⟨hi', hfits'', -⟩
  exact ⟨hi', exchangeable_fits h hk hj hfits hfits' hfits'', hfree'⟩

/-- **THE PASS LOSES NO PAIR**: from any place on, no pairs of places that are left are more
    than the pass finds. -/
theorem card_le_matchFrom (h : Consistent same (a ++ b)) :
    ∀ (xs : List α) (i : Nat) (taken : List Bool), a.drop i = xs →
      ∀ N, OneToOne (Remaining same a b reach i taken) N →
        N.card ≤ (matchFrom same b reach i xs taken).pairs.length := by
  intro xs
  induction xs with
  | nil =>
      intro i taken hdrop N hN
      have hlen : a.length ≤ i := List.drop_eq_nil_iff.mp hdrop
      have hempty : N = ∅ := by
        refine Finset.eq_empty_of_forall_notMem ?_
        rintro ⟨k, j⟩ hkj
        obtain ⟨hk, ⟨-, x, y, hx, -⟩, -⟩ := hN.fits hkj
        obtain ⟨hlt, -⟩ := List.getElem?_eq_some_iff.mp hx
        omega
      rw [hempty]
      exact Nat.zero_le _
  | cons x xs ih =>
      intro i taken hdrop N hN
      obtain ⟨hx, hrest⟩ := drop_eq_cons hdrop
      obtain ⟨hnone, hsome⟩ := firstFree?_spec (same · x) (i - reach)
        (min b.length (i + reach + 1)) b 0 taken
      rw [matchFrom]
      cases hfind : firstFree? (same · x) (i - reach) (min b.length (i + reach + 1)) 0 b taken with
      | none =>
          exact ih (i + 1) taken hrest N
            (hN.mono fun k j => (remaining_of_none hx (hnone hfind)).mp)
      | some j₀ =>
          obtain ⟨hadm, hfirst⟩ := hsome j₀ hfind
          obtain ⟨N', hN', hcard⟩ := hN.exists_rest (exchangeable_remaining h)
            ((admits_iff hx).mp hadm)
            (fun l hl hrem => hfirst l hl ((admits_iff hx).mpr hrem)) (fun k j hrem => hrem.1)
          have hle := ih (i + 1) (taken.set j₀ true) hrest N'
            (hN'.mono fun k j => remaining_of_some.mp)
          show N.card ≤ (matchFrom same b reach (i + 1) xs (taken.set j₀ true)).pairs.length + 1
          omega

/-! ## The greedy matching -/

/-- Places of two sequences paired one to one: their items are equal, and they lie at most
    half the longer length, less one, apart. -/
structure Pairing (same : α → α → Bool) (a b : List α) (N : Finset (Nat × Nat)) : Prop where
  equal : ∀ p ∈ N, ∃ x y, a[p.1]? = some x ∧ b[p.2]? = some y ∧ same x y = true
  near : ∀ p ∈ N, |(p.1 : Int) - p.2| ≤ max 0 ((max a.length b.length : Int) / 2 - 1)
  left : Set.InjOn Prod.fst (N : Set (Nat × Nat))
  right : Set.InjOn Prod.snd (N : Set (Nat × Nat))

theorem near_iff {i j m n : Nat} :
    |(i : Int) - j| ≤ max 0 ((max m n : Int) / 2 - 1)
      ↔ i ≤ j + window m n ∧ j ≤ i + window m n := by
  rw [window, abs_le]
  omega

/-- Two places fit when they lie near each other and hold items that are equal. -/
theorem fits_iff (hsym : ∀ x ∈ a, ∀ y ∈ b, same x y = same y x) {i j : Nat} :
    Fits same a b (window a.length b.length) i j
      ↔ (∃ x y, a[i]? = some x ∧ b[j]? = some y ∧ same x y = true) ∧
        |(i : Int) - j| ≤ max 0 ((max a.length b.length : Int) / 2 - 1) := by
  constructor
  · rintro ⟨hnear, x, y, hx, hy, heq⟩
    rw [← hsym x (List.mem_of_getElem? hx) y (List.mem_of_getElem? hy)] at heq
    exact ⟨⟨x, y, hx, hy, heq⟩, near_iff.mpr hnear⟩
  · rintro ⟨⟨x, y, hx, hy, heq⟩, hnear⟩
    rw [hsym x (List.mem_of_getElem? hx) y (List.mem_of_getElem? hy)] at heq
    exact ⟨near_iff.mp hnear, x, y, hx, hy, heq⟩

theorem pairing_iff (hsym : ∀ x ∈ a, ∀ y ∈ b, same x y = same y x) {N : Finset (Nat × Nat)} :
    Pairing same a b N ↔ OneToOne (Fits same a b (window a.length b.length)) N := by
  constructor
  · intro h
    refine ⟨?_, ?_, ?_⟩
    · exact fun hij => (fits_iff hsym).mpr ⟨h.equal _ hij, h.near _ hij⟩
    · intro i j l hij hil
      exact congrArg Prod.snd (h.left hij hil rfl)
    · intro i j k hij hkj
      exact congrArg Prod.fst (h.right hij hkj rfl)
  · intro h
    refine ⟨?_, ?_, ?_, ?_⟩
    · exact fun p hp => ((fits_iff hsym).mp (h.fits hp)).1
    · exact fun p hp => ((fits_iff hsym).mp (h.fits hp)).2
    · rintro ⟨i, j⟩ hij ⟨k, l⟩ hkl (rfl : i = k)
      rw [h.left hij hkl]
    · rintro ⟨i, j⟩ hij ⟨k, l⟩ hkl (rfl : j = l)
      rw [h.right hij hkl]

/-- The greedy matching is one to one. -/
theorem greedy_oneToOne (same : α → α → Bool) (a b : List α) :
    OneToOne (Fits same a b (window a.length b.length)) (greedy same a b).pairs.toFinset := by
  have hrule := greedy_firstCome same a b
  refine ⟨?_, ?_, ?_⟩
  · intro i j hij
    exact ((hrule i j).mp (List.mem_toFinset.mp hij)).1
  · intro i j l hij hil
    obtain ⟨-, -, hrow⟩ := (hrule i j).mp (List.mem_toFinset.mp hij)
    obtain ⟨-, -, hrow'⟩ := (hrule i l).mp (List.mem_toFinset.mp hil)
    rcases Nat.lt_trichotomy j l with hlt | heq | hgt
    · exact absurd (List.mem_toFinset.mp hij) (hrow' j hlt)
    · exact heq
    · exact absurd (List.mem_toFinset.mp hil) (hrow l hgt)
  · intro i j k hij hkj
    obtain ⟨-, hcol, -⟩ := (hrule i j).mp (List.mem_toFinset.mp hij)
    obtain ⟨-, hcol', -⟩ := (hrule k j).mp (List.mem_toFinset.mp hkj)
    rcases Nat.lt_trichotomy i k with hlt | heq | hgt
    · exact absurd (List.mem_toFinset.mp hij) (hcol' i hlt)
    · exact heq
    · exact absurd (List.mem_toFinset.mp hkj) (hcol k hgt)

/-- **FIRST FIT LOSES NO MATCH**: the number of matches is the greatest number of pairs that
    places of the two sequences can be paired into one to one, equal items within the
    window of each other. -/
theorem greedy_isGreatest (h : Consistent same (a ++ b)) :
    IsGreatest {n | ∃ N, Pairing same a b N ∧ N.card = n} (greedy same a b).pairs.length := by
  constructor
  · exact ⟨_, (pairing_iff h.comm).mpr (greedy_oneToOne same a b),
      List.toFinset_card_of_nodup (greedy_nodup same a b)⟩
  · rintro n ⟨N, hN, rfl⟩
    refine card_le_matchFrom h a 0 (List.replicate b.length false) rfl N ?_
    refine ((pairing_iff h.comm).mp hN).mono ?_
    intro i j hfits
    obtain ⟨x, y, -, hy, -⟩ := hfits.equal
    obtain ⟨hj, -⟩ := List.getElem?_eq_some_iff.mp hy
    exact ⟨Nat.zero_le _, hfits, by rw [List.getElem?_replicate, if_pos hj]⟩

/-- Repeated items, where the first fit takes a place that a later item fits too. -/
theorem greedy_isGreatest_repeated :
    Consistent (fun x y => x == y) ([1, 1, 2, 1, 2, 3] ++ [2, 1, 1, 1, 2, (2 : Nat)]) ∧
    IsGreatest {n | ∃ N, Pairing (fun x y => x == y) [1, 1, 2, 1, 2, 3] [2, 1, 1, 1, 2, (2 : Nat)] N
      ∧ N.card = n} 5 := by
  have h := consistent_beq ([1, 1, 2, 1, 2, 3] ++ [2, 1, 1, 1, 2, (2 : Nat)])
  have hcount : (greedy (fun x y => x == y) [1, 1, 2, 1, 2, 3]
      [2, 1, 1, 1, 2, (2 : Nat)]).pairs.length = 5 := by decide
  exact ⟨h, hcount ▸ greedy_isGreatest h⟩

end Likeness.Match
