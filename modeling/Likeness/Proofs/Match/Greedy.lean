import Likeness.Match.Jaro
import Mathlib.Data.List.Zip

/-! # The greedy matching looks the same from both sides

    Each item of the first sequence takes the first free item that fits, in the
    order of the first sequence.  Only one side is ever scanned, and yet the
    pairs do not depend on which: a place is matched with another one exactly
    when the two fit and neither has an earlier partner (`FirstCome`).  This
    says the same of both sequences and leaves no choice, so the matching of
    the swapped sequences is the swapped matching.

    The main result is `greedy_swap`; the number of items out of order
    (`disorder_swap`) and the similarity (`jaro_comm`) follow. -/

namespace Likeness.Match

variable {α : Type}

/-! ## First come, first served, as a fixed point -/

/-- Places are matched when they fit and neither is matched with an earlier one. -/
def FirstCome (fits M : Nat → Nat → Prop) : Prop :=
  ∀ i j, M i j ↔ fits i j ∧ (∀ k, k < i → ¬ M k j) ∧ ∀ l, l < j → ¬ M i l

/-- There is at most one such matching. -/
theorem FirstCome.unique {fits M N : Nat → Nat → Prop} (hM : FirstCome fits M)
    (hN : FirstCome fits N) : ∀ i j, M i j ↔ N i j := by
  intro i
  induction i using Nat.strongRecOn with
  | ind i ihi =>
      intro j
      induction j using Nat.strongRecOn with
      | ind j ihj =>
          rw [hM i j, hN i j]
          constructor
          · rintro ⟨hfit, hcol, hrow⟩
            exact ⟨hfit, fun k hk hkj => hcol k hk ((ihi k hk j).mpr hkj),
              fun l hl hil => hrow l hl ((ihj l hl).mpr hil)⟩
          · rintro ⟨hfit, hcol, hrow⟩
            exact ⟨hfit, fun k hk hkj => hcol k hk ((ihi k hk j).mp hkj),
              fun l hl hil => hrow l hl ((ihj l hl).mp hil)⟩

/-- The rule reads the same from the other side. -/
theorem FirstCome.swap {fits M : Nat → Nat → Prop} (h : FirstCome fits M) :
    FirstCome (fun i j => fits j i) (fun i j => M j i) := by
  intro i j
  show M j i ↔ fits j i ∧ (∀ k, k < i → ¬ M j k) ∧ ∀ l, l < j → ¬ M l i
  rw [h j i]
  constructor
  · rintro ⟨hfit, hcol, hrow⟩
    exact ⟨hfit, hrow, hcol⟩
  · rintro ⟨hfit, hrow, hcol⟩
    exact ⟨hfit, hcol, hrow⟩

theorem FirstCome.congr {fits fits' M M' : Nat → Nat → Prop} (h : FirstCome fits M)
    (hfits : ∀ i j, fits i j ↔ fits' i j) (hM : ∀ i j, M i j ↔ M' i j) :
    FirstCome fits' M' := by
  intro i j
  rw [← hM i j, ← hfits i j, h i j]
  simp only [hM]

/-- Where each place fits the same place of the other side, no place is served elsewhere
    before it is. -/
theorem FirstCome.diagonal {fits M : Nat → Nat → Prop} (h : FirstCome fits M) {k : Nat}
    (hfits : ∀ i, i < k → fits i i) : ∀ i, i < k → M i i := by
  intro i
  induction i using Nat.strongRecOn with
  | ind i ih =>
      intro hi
      refine (h i i).mpr ⟨hfits i hi, ?_, ?_⟩
      · intro l hl hli
        exact ((h l i).mp hli).2.2 l hl (ih l hl (Nat.lt_trans hl hi))
      · intro l hl hil
        exact ((h i l).mp hil).2.1 l hl (ih l hl (Nat.lt_trans hl hi))

/-- Places that are matched with themselves are not matched with each other. -/
theorem FirstCome.eq_of_diagonal {fits M : Nat → Nat → Prop} (h : FirstCome fits M) {i j : Nat}
    (hi : M i i) (hj : M j j) (hij : M i j) : i = j := by
  obtain ⟨-, hcol, hrow⟩ := (h i j).mp hij
  rcases Nat.lt_trichotomy i j with hlt | heq | hgt
  · exact absurd hi (hrow i hlt)
  · exact heq
  · exact absurd hj (hcol j hgt)

/-- Nobody is served only where nothing fits. -/
theorem FirstCome.empty_iff {fits M : Nat → Nat → Prop} (h : FirstCome fits M) :
    (∀ i j, ¬ M i j) ↔ ∀ i j, ¬ fits i j := by
  constructor
  · intro hM i j hfit
    exact hM i j ((h i j).mpr ⟨hfit, fun k _ => hM k j, fun l _ => hM i l⟩)
  · intro hfits i j hM
    exact hfits i j ((h i j).mp hM).1

/-- Serving the first place by its first fit, and the others by the rule among what
    is left, is serving all by the rule. -/
theorem FirstCome.cons {fits M : Nat → Nat → Prop} {i₀ j₀ : Nat} (hfit : fits i₀ j₀)
    (hearlier : ∀ l, l < j₀ → ¬ fits i₀ l) (hfirst : ∀ i j, fits i j → i₀ ≤ i)
    (h : FirstCome (fun i j => fits i j ∧ i ≠ i₀ ∧ j ≠ j₀) M) :
    FirstCome fits (fun i j => (i = i₀ ∧ j = j₀) ∨ M i j) := by
  have hleft : ∀ {i j}, M i j → fits i j ∧ i ≠ i₀ ∧ j ≠ j₀ := fun hM => ((h _ _).mp hM).1
  intro i j
  constructor
  · rintro (⟨rfl, rfl⟩ | hM)
    · refine ⟨hfit, ?_, ?_⟩
      · rintro k hk (⟨rfl, _⟩ | hM)
        · exact Nat.lt_irrefl _ hk
        · exact (hleft hM).2.2 rfl
      · rintro l hl (⟨_, rfl⟩ | hM)
        · exact Nat.lt_irrefl _ hl
        · exact (hleft hM).2.1 rfl
    · obtain ⟨⟨hij, hi, hj⟩, hcol, hrow⟩ := (h i j).mp hM
      refine ⟨hij, ?_, ?_⟩
      · rintro k hk (⟨_, heq⟩ | hM)
        · exact hj heq
        · exact hcol k hk hM
      · rintro l hl (⟨heq, _⟩ | hM)
        · exact hi heq
        · exact hrow l hl hM
  · rintro ⟨hij, hcol, hrow⟩
    -- in the first row only the first fit is served; in later rows its column is closed
    by_cases hi : i = i₀
    · subst hi
      rcases Nat.lt_trichotomy j j₀ with hlt | heq | hgt
      · exact absurd hij (hearlier j hlt)
      · exact Or.inl ⟨rfl, heq⟩
      · exact absurd (Or.inl ⟨rfl, rfl⟩) (hrow j₀ hgt)
    · have hlt : i₀ < i := Nat.lt_of_le_of_ne (hfirst i j hij) (Ne.symm hi)
      by_cases hj : j = j₀
      · subst hj
        exact absurd (Or.inl ⟨rfl, rfl⟩) (hcol i₀ hlt)
      · exact Or.inr ((h i j).mpr ⟨⟨hij, hi, hj⟩, fun k hk hM => hcol k hk (Or.inr hM),
          fun l hl hM => hrow l hl (Or.inr hM)⟩)

/-! ## The search for a free place -/

/-- A place from `start` on lies within the window, is free and holds an item with
    the property. -/
structure Admits (p : α → Bool) (low high start : Nat) (ys : List α) (flags : List Bool)
    (j : Nat) : Prop where
  start_le : start ≤ j
  low_le : low ≤ j
  lt_high : j < high
  free : flags[j - start]? = some false
  holds : ∃ y, ys[j - start]? = some y ∧ p y = true

theorem admits_cons {p : α → Bool} {low high start : Nat} {y : α} {ys : List α}
    {taken : Bool} {flags : List Bool} {j : Nat} :
    Admits p low high start (y :: ys) (taken :: flags) j
      ↔ (j = start ∧ low ≤ j ∧ j < high ∧ taken = false ∧ p y = true) ∨
        Admits p low high (start + 1) ys flags j := by
  constructor
  · rintro ⟨hstart, hlow, hhigh, hfree, z, hz, hp⟩
    by_cases heq : j = start
    · subst heq
      rw [Nat.sub_self] at hfree hz
      have htaken := Option.some.inj hfree
      have hy := Option.some.inj hz
      subst hy
      exact Or.inl ⟨rfl, hlow, hhigh, htaken, hp⟩
    · have hsub : j - start = j - (start + 1) + 1 := by omega
      rw [hsub, List.getElem?_cons_succ] at hfree hz
      exact Or.inr ⟨by omega, hlow, hhigh, hfree, z, hz, hp⟩
  · rintro (⟨rfl, hlow, hhigh, rfl, hp⟩ | ⟨hstart, hlow, hhigh, hfree, z, hz, hp⟩)
    · refine ⟨Nat.le_refl _, hlow, hhigh, ?_, y, ?_, hp⟩
      · rw [Nat.sub_self, List.getElem?_cons_zero]
      · rw [Nat.sub_self, List.getElem?_cons_zero]
    · have hsub : j - start = j - (start + 1) + 1 := by omega
      refine ⟨by omega, hlow, hhigh, ?_, z, ?_, hp⟩
      · rw [hsub, List.getElem?_cons_succ]
        exact hfree
      · rw [hsub, List.getElem?_cons_succ]
        exact hz

private theorem hit_iff {p : α → Bool} {low high start : Nat} {taken : Bool} {y : α} :
    (decide (low ≤ start) && decide (start < high) && !taken && p y) = true
      ↔ low ≤ start ∧ start < high ∧ taken = false ∧ p y = true := by
  simp only [Bool.and_eq_true, decide_eq_true_eq, Bool.not_eq_true', and_assoc]

/-- The search finds the first place that admits the item, or none does. -/
theorem firstFree?_spec (p : α → Bool) (low high : Nat) :
    ∀ (ys : List α) (start : Nat) (flags : List Bool),
      (firstFree? p low high start ys flags = none →
        ∀ j, ¬ Admits p low high start ys flags j) ∧
      ∀ j, firstFree? p low high start ys flags = some j →
        Admits p low high start ys flags j ∧
          ∀ l, l < j → ¬ Admits p low high start ys flags l := by
  intro ys
  induction ys with
  | nil =>
      intro start flags
      refine ⟨?_, fun j h => (nomatch (show none = some j from h))⟩
      rintro _ j ⟨_, _, _, _, y, hy, _⟩
      exact nomatch hy
  | cons y ys ih =>
      intro start flags
      cases flags with
      | nil =>
          refine ⟨?_, fun j h => (nomatch (show none = some j from h))⟩
          rintro _ j ⟨_, _, _, hfree, _⟩
          exact nomatch hfree
      | cons taken flags =>
          obtain ⟨hnone, hsome⟩ := ih (start + 1) flags
          have hlater : ∀ l, l ≤ start → ¬ Admits p low high (start + 1) ys flags l := by
            intro l hl hadm
            have := hadm.start_le
            omega
          rw [firstFree?]
          by_cases hhit : (decide (low ≤ start) && decide (start < high) && !taken && p y) = true
          · rw [if_pos hhit]
            obtain ⟨hlow, hhigh, hfree, hp⟩ := hit_iff.mp hhit
            refine ⟨fun h => (nomatch h), ?_⟩
            intro j hj
            have heq := Option.some.inj hj
            subst heq
            refine ⟨admits_cons.mpr (Or.inl ⟨rfl, hlow, hhigh, hfree, hp⟩), ?_⟩
            intro l hl hadm
            rcases admits_cons.mp hadm with ⟨heq, _⟩ | hadm
            · omega
            · exact hlater l (by omega) hadm
          · rw [if_neg hhit]
            have hmiss : ∀ l, Admits p low high start (y :: ys) (taken :: flags) l →
                Admits p low high (start + 1) ys flags l := by
              intro l hadm
              rcases admits_cons.mp hadm with ⟨rfl, hlow, hhigh, hfree, hp⟩ | hadm
              · exact absurd (hit_iff.mpr ⟨hlow, hhigh, hfree, hp⟩) hhit
              · exact hadm
            refine ⟨fun h j hadm => hnone h j (hmiss j hadm), ?_⟩
            intro j hj
            obtain ⟨hadm, hfirst⟩ := hsome j hj
            exact ⟨admits_cons.mpr (Or.inr hadm), fun l hl hl' => hfirst l hl (hmiss l hl')⟩

/-! ## The pass over the first sequence -/

theorem drop_eq_cons {a xs : List α} {x : α} {i : Nat} (h : a.drop i = x :: xs) :
    a[i]? = some x ∧ a.drop (i + 1) = xs := by
  constructor
  · rw [← List.head?_drop, h]
    rfl
  · rw [← List.tail_drop, h]
    rfl

/-- Two places are within reach of each other and hold equal items. -/
structure Fits (same : α → α → Bool) (a b : List α) (reach i j : Nat) : Prop where
  near : i ≤ j + reach ∧ j ≤ i + reach
  equal : ∃ x y, a[i]? = some x ∧ b[j]? = some y ∧ same y x = true

/-- Two places that fit, the first from `i` on and the second not taken yet. -/
def Remaining (same : α → α → Bool) (a b : List α) (reach i : Nat) (taken : List Bool)
    (k j : Nat) : Prop :=
  i ≤ k ∧ Fits same a b reach k j ∧ taken[j]? = some false

variable {same : α → α → Bool} {a b : List α} {reach : Nat}

/-- The window of a place holds the places within reach. -/
theorem admits_iff {x : α} {i j : Nat} {taken : List Bool} (hx : a[i]? = some x) :
    Admits (same · x) (i - reach) (min b.length (i + reach + 1)) 0 b taken j
      ↔ Remaining same a b reach i taken i j := by
  constructor
  · rintro ⟨_, hlow, hhigh, hfree, y, hy, hp⟩
    exact ⟨Nat.le_refl _, ⟨by omega, x, y, hx, hy, hp⟩, hfree⟩
  · rintro ⟨_, ⟨hnear, z, y, hz, hy, hp⟩, hfree⟩
    have hzx : z = x := Option.some.inj (hz.symm.trans hx)
    subst hzx
    obtain ⟨hj, _⟩ := List.getElem?_eq_some_iff.mp hy
    exact ⟨Nat.zero_le _, by omega, by omega, hfree, y, hy, hp⟩

/-- Taking a place leaves the others as they are. -/
theorem free_set_iff {flags : List Bool} {j₀ j : Nat} :
    (flags.set j₀ true)[j]? = some false ↔ flags[j]? = some false ∧ j ≠ j₀ := by
  by_cases hj : j₀ = j
  · subst hj
    rw [List.getElem?_set_self']
    constructor
    · intro h
      cases hflag : flags[j₀]? with
      | none => rw [hflag] at h; exact nomatch h
      | some flag => rw [hflag] at h; exact nomatch h
    · rintro ⟨_, hne⟩
      exact absurd rfl hne
  · rw [List.getElem?_set_ne hj]
    exact ⟨fun h => ⟨h, Ne.symm hj⟩, fun h => h.1⟩

/-- A place that nothing is left for is passed over. -/
theorem remaining_of_none {x : α} {i : Nat} {taken : List Bool} (hx : a[i]? = some x)
    (hnone : ∀ j, ¬ Admits (same · x) (i - reach) (min b.length (i + reach + 1)) 0 b taken j)
    {k j : Nat} :
    Remaining same a b reach i taken k j ↔ Remaining same a b reach (i + 1) taken k j := by
  constructor
  · rintro ⟨hk, hfits⟩
    refine ⟨Nat.lt_of_le_of_ne hk ?_, hfits⟩
    intro heq
    subst heq
    exact hnone j ((admits_iff hx).mpr ⟨hk, hfits⟩)
  · rintro ⟨hk, hfits⟩
    exact ⟨by omega, hfits⟩

/-- What a place and its partner leave for the later places. -/
theorem remaining_of_some {i j₀ : Nat} {taken : List Bool} {k j : Nat} :
    Remaining same a b reach i taken k j ∧ k ≠ i ∧ j ≠ j₀
      ↔ Remaining same a b reach (i + 1) (taken.set j₀ true) k j := by
  constructor
  · rintro ⟨⟨hk, hfits, hfree⟩, hne, hj⟩
    exact ⟨by omega, hfits, free_set_iff.mpr ⟨hfree, hj⟩⟩
  · rintro ⟨hk, hfits, hfree⟩
    obtain ⟨hfree, hj⟩ := free_set_iff.mp hfree
    exact ⟨⟨by omega, hfits, hfree⟩, by omega, hj⟩

/-- **THE PASS SERVES FIRST COME, FIRST SERVED**: the pairs of the pass from place `i`
    on are those of the rule among what remains. -/
theorem matchFrom_firstCome :
    ∀ (xs : List α) (i : Nat) (taken : List Bool), a.drop i = xs →
      FirstCome (Remaining same a b reach i taken)
        (fun k j => (k, j) ∈ (matchFrom same b reach i xs taken).pairs) := by
  intro xs
  induction xs with
  | nil =>
      intro i taken hdrop k j
      have hlen : a.length ≤ i := List.drop_eq_nil_iff.mp hdrop
      constructor
      · intro hmem
        exact nomatch hmem
      · rintro ⟨⟨hk, ⟨_, x, y, hx, _⟩, _⟩, _⟩
        obtain ⟨hlt, _⟩ := List.getElem?_eq_some_iff.mp hx
        omega
  | cons x xs ih =>
      intro i taken hdrop
      obtain ⟨hx, hrest⟩ := drop_eq_cons hdrop
      obtain ⟨hnone, hsome⟩ := firstFree?_spec (same · x) (i - reach)
        (min b.length (i + reach + 1)) b 0 taken
      rw [matchFrom]
      cases hfind : firstFree? (same · x) (i - reach) (min b.length (i + reach + 1)) 0 b taken with
      | none =>
          -- nothing that is left fits place `i`, so the rule never meets it
          exact (ih (i + 1) taken hrest).congr
            (fun k j => (remaining_of_none hx (hnone hfind)).symm) (fun k j => Iff.rfl)
      | some j₀ =>
          -- place `i` is served first, the later ones from what it leaves
          obtain ⟨hadm, hfirst⟩ := hsome j₀ hfind
          have hfit := (admits_iff hx).mp hadm
          have hcons : FirstCome (Remaining same a b reach i taken)
              (fun k j => (k = i ∧ j = j₀) ∨
                (k, j) ∈ (matchFrom same b reach (i + 1) xs (taken.set j₀ true)).pairs) := by
            refine FirstCome.cons hfit ?_ (fun k j h => h.1) ?_
            · intro l hl hrem
              exact hfirst l hl ((admits_iff hx).mpr hrem)
            · exact (ih (i + 1) (taken.set j₀ true) hrest).congr
                (fun k j => remaining_of_some.symm) (fun k j => Iff.rfl)
          refine hcons.congr (fun k j => Iff.rfl) ?_
          intro k j
          show _ ↔ (k, j) ∈ (i, j₀) :: _
          rw [List.mem_cons, Prod.mk.injEq]

/-- Which places the pass has taken in the end. -/
theorem matchFrom_taken (same : α → α → Bool) (b : List α) (reach : Nat) :
    ∀ (xs : List α) (i : Nat) (taken : List Bool),
      (matchFrom same b reach i xs taken).taken.length = taken.length ∧
      ∀ j, (matchFrom same b reach i xs taken).taken[j]? = some true
        ↔ taken[j]? = some true ∨
          ∃ k, (k, j) ∈ (matchFrom same b reach i xs taken).pairs := by
  intro xs
  induction xs with
  | nil =>
      intro i taken
      refine ⟨rfl, ?_⟩
      intro j
      constructor
      · exact fun h => Or.inl h
      · rintro (h | ⟨k, h⟩)
        · exact h
        · exact nomatch h
  | cons x xs ih =>
      intro i taken
      rw [matchFrom]
      cases hfind : firstFree? (same · x) (i - reach) (min b.length (i + reach + 1)) 0 b taken with
      | none => exact ih (i + 1) taken
      | some j₀ =>
          have hfree := (((firstFree?_spec _ _ _ b 0 taken).2 j₀ hfind).1).free
          rw [Nat.sub_zero] at hfree
          obtain ⟨hlen, hset⟩ := ih (i + 1) (taken.set j₀ true)
          refine ⟨hlen.trans List.length_set, ?_⟩
          intro j
          show (matchFrom same b reach (i + 1) xs (taken.set j₀ true)).taken[j]? = some true
            ↔ _ ∨ ∃ k, (k, j) ∈ (i, j₀) :: _
          rw [hset]
          by_cases hj : j₀ = j
          · subst hj
            obtain ⟨hlt, _⟩ := List.getElem?_eq_some_iff.mp hfree
            exact ⟨fun _ => Or.inr ⟨i, List.mem_cons_self⟩,
              fun _ => Or.inl (List.getElem?_set_self hlt)⟩
          · rw [List.getElem?_set_ne hj]
            constructor
            · rintro (h | ⟨k, h⟩)
              · exact Or.inl h
              · exact Or.inr ⟨k, List.mem_cons_of_mem _ h⟩
            · rintro (h | ⟨k, h⟩)
              · exact Or.inl h
              · rcases List.mem_cons.mp h with heq | h
                · exact absurd (congrArg Prod.snd heq).symm hj
                · exact Or.inr ⟨k, h⟩

/-- The pass from a place on matches no earlier place. -/
theorem le_of_mem_matchFrom {xs : List α} {i : Nat} {taken : List Bool} (hdrop : a.drop i = xs)
    {k j : Nat} (h : (k, j) ∈ (matchFrom same b reach i xs taken).pairs) : i ≤ k :=
  ((matchFrom_firstCome xs i taken hdrop k j).mp h).1.1

theorem matchFrom_nodup :
    ∀ (xs : List α) (i : Nat) (taken : List Bool), a.drop i = xs →
      (matchFrom same b reach i xs taken).pairs.Nodup := by
  intro xs
  induction xs with
  | nil =>
      intro i taken _
      exact List.nodup_nil
  | cons x xs ih =>
      intro i taken hdrop
      obtain ⟨_, hrest⟩ := drop_eq_cons hdrop
      rw [matchFrom]
      cases hfind : firstFree? (same · x) (i - reach) (min b.length (i + reach + 1)) 0 b taken with
      | none => exact ih (i + 1) taken hrest
      | some j₀ =>
          refine List.nodup_cons.mpr ⟨?_, ih (i + 1) (taken.set j₀ true) hrest⟩
          intro hmem
          have := le_of_mem_matchFrom hrest hmem
          omega

/-! ## The matched items, in order -/

/-- The items of a list that are flagged. -/
def flagged (xs : List α) (flags : List Bool) : List α :=
  (xs.zip flags).filterMap fun p => if p.2 then some p.1 else none

/-- The matched items of the first sequence are those at the matched places. -/
theorem matchFrom_firstItems :
    ∀ (xs : List α) (i : Nat) (taken flags : List Bool), a.drop i = xs →
      flags.length = xs.length →
      (∀ k, flags[k]? = some true
        ↔ ∃ j, (i + k, j) ∈ (matchFrom same b reach i xs taken).pairs) →
      (matchFrom same b reach i xs taken).firstItems a = flagged xs flags := by
  intro xs
  induction xs with
  | nil =>
      intro i taken flags _ _ _
      rfl
  | cons x xs ih =>
      intro i taken flags hdrop hlen hflags
      obtain ⟨hx, hrest⟩ := drop_eq_cons hdrop
      cases flags with
      | nil => exact nomatch hlen
      | cons flag flags =>
          have hlength : flags.length = xs.length := Nat.succ.inj hlen
          rw [matchFrom] at hflags ⊢
          cases hfind : firstFree? (same · x) (i - reach) (min b.length (i + reach + 1)) 0 b
              taken with
          | none =>
              rw [hfind] at hflags
              -- a pair at place `i` would come from the rest of the pass
              have hflag : flag = false := by
                rw [Bool.eq_false_iff]
                intro htrue
                obtain ⟨j, hmem⟩ := (hflags 0).mp (congrArg some htrue)
                have := le_of_mem_matchFrom hrest hmem
                omega
              subst hflag
              refine ih (i + 1) taken flags hrest hlength ?_
              intro k
              rw [Nat.add_assoc, Nat.add_comm 1 k]
              exact hflags (k + 1)
          | some j₀ =>
              rw [hfind] at hflags
              have hflag : flag = true :=
                Option.some.inj ((hflags 0).mpr ⟨j₀, List.mem_cons_self⟩)
              subst hflag
              have htail := ih (i + 1) (taken.set j₀ true) flags hrest hlength (fun k => by
                rw [Nat.add_assoc, Nat.add_comm 1 k]
                refine (hflags (k + 1)).trans ?_
                constructor
                · rintro ⟨j, hmem⟩
                  rcases List.mem_cons.mp hmem with heq | hmem
                  · have := congrArg Prod.fst heq
                    exact absurd this (by show ¬ i + (k + 1) = i; omega)
                  · exact ⟨j, hmem⟩
                · rintro ⟨j, hmem⟩
                  exact ⟨j, List.mem_cons_of_mem _ hmem⟩)
              show List.filterMap (fun p => a[p.1]?) ((i, j₀) :: _) = x :: flagged xs flags
              rw [List.filterMap_cons, hx, ← htail]
              rfl

theorem Matching.firstItems_subset (m : Matching) (a : List α) : m.firstItems a ⊆ a := by
  intro x hx
  obtain ⟨p, -, hp⟩ := List.mem_filterMap.mp hx
  exact List.mem_of_getElem? hp

theorem flagged_sublist (xs : List α) (flags : List Bool) : (flagged xs flags).Sublist xs := by
  induction xs generalizing flags with
  | nil => exact List.Sublist.refl []
  | cons x xs ih =>
      cases flags with
      | nil => exact List.nil_sublist _
      | cons flag flags =>
          cases flag with
          | false => exact (ih flags).cons x
          | true => exact (ih flags).cons_cons x

theorem Matching.secondItems_subset (m : Matching) (b : List α) : m.secondItems b ⊆ b :=
  (flagged_sublist b m.taken).subset

/-! ## Both sides -/

/-- **FIRST COME, FIRST SERVED**: the pairs of the greedy matching are those of the
    rule for the places that fit. -/
theorem greedy_firstCome (same : α → α → Bool) (a b : List α) :
    FirstCome (Fits same a b (window a.length b.length))
      (fun i j => (i, j) ∈ (greedy same a b).pairs) := by
  refine (matchFrom_firstCome a 0 (List.replicate b.length false) rfl).congr ?_
    (fun i j => Iff.rfl)
  intro i j
  constructor
  · rintro ⟨_, hfits, _⟩
    exact hfits
  · intro hfits
    obtain ⟨x, y, _, hy, _⟩ := hfits.equal
    obtain ⟨hj, _⟩ := List.getElem?_eq_some_iff.mp hy
    refine ⟨Nat.zero_le _, hfits, ?_⟩
    rw [List.getElem?_replicate, if_pos hj]

theorem fits_swap (hsym : ∀ x ∈ a, ∀ y ∈ b, same x y = same y x) {i j : Nat} :
    Fits same a b reach i j ↔ Fits same b a reach j i := by
  constructor
  · rintro ⟨⟨h1, h2⟩, x, y, hx, hy, heq⟩
    refine ⟨⟨h2, h1⟩, y, x, hy, hx, ?_⟩
    rw [hsym x (List.mem_of_getElem? hx) y (List.mem_of_getElem? hy)]
    exact heq
  · rintro ⟨⟨h1, h2⟩, y, x, hy, hx, heq⟩
    refine ⟨⟨h2, h1⟩, x, y, hx, hy, ?_⟩
    rw [← hsym x (List.mem_of_getElem? hx) y (List.mem_of_getElem? hy)]
    exact heq

/-- **THE MATCHING LOOKS THE SAME FROM BOTH SIDES**: two places are matched in one
    order of the sequences exactly when they are in the other. -/
theorem greedy_swap (hsym : ∀ x ∈ a, ∀ y ∈ b, same x y = same y x) (i j : Nat) :
    (i, j) ∈ (greedy same a b).pairs ↔ (j, i) ∈ (greedy same b a).pairs := by
  refine (greedy_firstCome same a b).unique ((greedy_firstCome same b a).swap.congr ?_
    (fun i j => Iff.rfl)) i j
  intro i j
  have hwindow : window a.length b.length = window b.length a.length := by
    rw [window, window, Nat.max_comm]
  rw [hwindow]
  exact (fits_swap hsym).symm

theorem greedy_nodup (same : α → α → Bool) (a b : List α) : (greedy same a b).pairs.Nodup :=
  matchFrom_nodup a 0 _ rfl

theorem greedy_pairs_perm (hsym : ∀ x ∈ a, ∀ y ∈ b, same x y = same y x) :
    (greedy same b a).pairs.Perm ((greedy same a b).pairs.map Prod.swap) := by
  have hnodup : ((greedy same a b).pairs.map Prod.swap).Nodup :=
    List.Pairwise.map _ (fun p q hne heq => hne (congrArg Prod.swap heq)) (greedy_nodup same a b)
  refine (List.perm_ext_iff_of_nodup (greedy_nodup same b a) hnodup).mpr ?_
  rintro ⟨j, i⟩
  rw [← greedy_swap hsym i j, List.mem_map]
  constructor
  · intro hmem
    exact ⟨(i, j), hmem, rfl⟩
  · rintro ⟨⟨k, l⟩, hmem, heq⟩
    cases heq
    exact hmem

/-- The matched items of the first sequence are the matched items of the second in
    the other order. -/
theorem greedy_firstItems (hsym : ∀ x ∈ a, ∀ y ∈ b, same x y = same y x) :
    (greedy same a b).firstItems a = (greedy same b a).secondItems a := by
  obtain ⟨hlen, htaken⟩ := matchFrom_taken same a (window b.length a.length) b 0
    (List.replicate a.length false)
  refine matchFrom_firstItems a 0 _ (greedy same b a).taken rfl
    (hlen.trans List.length_replicate) ?_
  intro k
  rw [Nat.zero_add]
  refine (htaken k).trans ?_
  constructor
  · rintro (h | ⟨j, h⟩)
    · rw [List.getElem?_replicate] at h
      split at h
      · exact nomatch h
      · exact nomatch h
    · exact ⟨j, (greedy_swap hsym k j).mpr h⟩
  · rintro ⟨j, h⟩
    exact Or.inr ⟨j, (greedy_swap hsym k j).mp h⟩

/-- As many pairs are matched from both sides. -/
theorem greedy_length (hsym : ∀ x ∈ a, ∀ y ∈ b, same x y = same y x) :
    (greedy same b a).pairs.length = (greedy same a b).pairs.length := by
  rw [(greedy_pairs_perm hsym).length_eq, List.length_map]

/-- As many items are out of order from both sides. -/
theorem disorder_swap (hsym : ∀ x ∈ a, ∀ y ∈ b, same x y = same y x) :
    (greedy same b a).disorder same b a = (greedy same a b).disorder same a b := by
  have hsym' : ∀ y ∈ b, ∀ x ∈ a, same y x = same x y := fun y hy x hx => (hsym x hx y hy).symm
  rw [Matching.disorder, Matching.disorder, greedy_firstItems hsym', ← greedy_firstItems hsym,
    ← List.zip_swap, List.countP_map]
  refine List.countP_congr ?_
  rintro ⟨x, y⟩ hmem
  obtain ⟨hx, hy⟩ := List.of_mem_zip hmem
  have hxa : x ∈ a := Matching.firstItems_subset _ a hx
  have hyb : y ∈ b := Matching.secondItems_subset _ b hy
  show (!same y x) = true ↔ (!same x y) = true
  rw [hsym x hxa y hyb]

/-! ## The similarity -/

/-- **THE SIMILARITY IS SYMMETRIC** in any arithmetic in which sums do not depend on
    the order of their terms. -/
theorem jaro_comm {K : Type} [Scalar K] (hadd : ∀ x y : K, x + y = y + x)
    (hsym : ∀ x ∈ a, ∀ y ∈ b, same x y = same y x) :
    (jaro same b a : K) = jaro same a b := by
  rw [jaro, jaro, Bool.and_comm, Bool.or_comm]
  rw [jaroOfMatching, jaroOfMatching, greedy_length hsym, disorder_swap hsym]
  rw [jaroFormula, jaroFormula, hadd (Scalar.ofNat _ / Scalar.ofNat b.length)]

end Likeness.Match
