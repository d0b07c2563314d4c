import Likeness.Proofs.Match.Maximum
import Likeness.Proofs.Match.Similarity

/-! # The matched items of both sides are the same ones

    Partners are equal, so the matched items of one sequence are those of the other in
    another order, up to equality: each item has as many equals among the one as among
    the other (`countP_matched`).  A single item out of order would leave a class of
    equal items one short on one side, so there is never exactly one
    (`mismatched_ne_one`). -/

namespace Likeness.Match

variable {α : Type} {same : α → α → Bool} {a b : List α}

/-! ## Pairs with one exception -/

/-- If each item has as many equals among the first items of some pairs as among the second
    ones, then there is not exactly one pair of different items. -/
theorem countP_ne_one {pairs : List (α × α)}
    (h : Consistent same (pairs.map Prod.fst ++ pairs.map Prod.snd))
    (hself : ∀ p ∈ pairs, same p.1 p.1 = true)
    (hcount : ∀ c ∈ pairs.map Prod.fst,
      pairs.countP (fun p => same c p.1) = pairs.countP fun p => same c p.2) :
    pairs.countP (fun p => !same p.1 p.2) ≠ 1 := by
  intro hsingle
  obtain ⟨⟨c, d⟩, hmem, hdiffer⟩ := List.countP_pos_iff.mp (hsingle ▸ Nat.one_pos)
  obtain ⟨front, back, rfl⟩ := List.append_of_mem hmem
  have hfirst : ∀ p ∈ front ++ (c, d) :: back, p.1 ∈ (front ++ (c, d) :: back).map Prod.fst ++
      (front ++ (c, d) :: back).map Prod.snd :=
    fun p hp => List.mem_append_left _ (List.mem_map_of_mem hp)
  have hsecond : ∀ p ∈ front ++ (c, d) :: back, p.2 ∈ (front ++ (c, d) :: back).map Prod.fst ++
      (front ++ (c, d) :: back).map Prod.snd :=
    fun p hp => List.mem_append_right _ (List.mem_map_of_mem hp)
  -- In all other pairs the items are equal, and both or neither of them are equal to `c`.
  have hothers : ∀ part : List (α × α), part ⊆ front ++ (c, d) :: back →
      part.countP (fun p => !same p.1 p.2) = 0 →
      part.countP (fun p => same c p.1) = part.countP fun p => same c p.2 := by
    intro part hpart hnone
    refine List.countP_congr fun p hp => ?_
    have hequal : same p.1 p.2 = true := by
      simpa using List.countP_eq_zero.mp hnone p hp
    have hc := hfirst _ hmem
    have hp1 := hfirst p (hpart hp)
    have hp2 := hsecond p (hpart hp)
    exact ⟨fun hcp => h.trans c hc p.1 hp1 p.2 hp2 hcp hequal,
      fun hcp => h.trans c hc p.2 hp2 p.1 hp1 hcp (h.symm p.1 hp1 p.2 hp2 hequal)⟩
  have hc := hcount c (List.mem_map_of_mem hmem)
  have hcc : same c c = true := hself (c, d) hmem
  have hcd : same c d = false := by simpa using hdiffer
  simp only [List.countP_append, List.countP_cons, hcc, hcd, Bool.not_false, if_true] at hsingle hc
  have hfront := hothers front (List.subset_append_left _ _) (by omega)
  have hback := hothers back (fun p hp => List.mem_append_right _ (.tail _ hp)) (by omega)
  simp only [Bool.false_eq_true, if_false] at hc
  omega

/-! ## Partners are equal -/

/-- The items of the second sequence whose partners are matched, in the order of these. -/
theorem perm_secondItems (hsym : ∀ x ∈ a, ∀ y ∈ b, same x y = same y x) :
    ((greedy same a b).secondItems b).Perm
      ((greedy same a b).pairs.filterMap fun p => b[p.2]?) := by
  have hsym' : ∀ y ∈ b, ∀ x ∈ a, same y x = same x y := fun y hy x hx => (hsym x hx y hy).symm
  rw [← greedy_firstItems hsym', Matching.firstItems]
  refine ((greedy_pairs_perm hsym).filterMap _).trans (List.Perm.of_eq ?_)
  rw [List.filterMap_map]
  rfl

/-- **EACH ITEM HAS AS MANY EQUALS** among the matched items of one sequence as among those
    of the other. -/
theorem countP_matched (h : Consistent same (a ++ b)) {c : α} (hc : c ∈ a ++ b) :
    ((greedy same a b).firstItems a).countP (same c)
      = ((greedy same a b).secondItems b).countP (same c) := by
  rw [(perm_secondItems h.comm).countP_eq, Matching.firstItems, List.countP_filterMap,
    List.countP_filterMap]
  refine List.countP_congr ?_
  rintro ⟨i, j⟩ hij
  obtain ⟨⟨-, x, y, hx, hy, hyx⟩, -⟩ := (greedy_firstCome same a b i j).mp hij
  have hxab := List.mem_append_left b (List.mem_of_getElem? hx)
  have hyab := List.mem_append_right a (List.mem_of_getElem? hy)
  simp only [hx, hy, Option.map_some, Option.getD_some]
  exact ⟨fun hcx => h.trans c hc x hxab y hyab hcx (h.symm y hyab x hxab hyx),
    fun hcy => h.trans c hc y hyab x hxab hcy hyx⟩

/-- A matched item is equal to itself, for it is equal to its partner. -/
theorem same_self_of_matched (h : Consistent same (a ++ b)) {x : α}
    (hx : x ∈ (greedy same a b).firstItems a) : same x x = true := by
  obtain ⟨⟨i, j⟩, hij, hxi⟩ := List.mem_filterMap.mp hx
  obtain ⟨⟨-, z, y, hz, hy, hyz⟩, -⟩ := (greedy_firstCome same a b i j).mp hij
  obtain rfl : z = x := Option.some.inj (hz.symm.trans hxi)
  have hzab := List.mem_append_left b (List.mem_of_getElem? hz)
  have hyab := List.mem_append_right a (List.mem_of_getElem? hy)
  exact h.trans z hzab y hyab z hzab (h.symm y hyab z hzab hyz) hyz

/-- **NEVER IS EXACTLY ONE ITEM OUT OF ORDER**. -/
theorem mismatched_ne_one (h : Consistent same (a ++ b)) : mismatched same a b ≠ 1 := by
  have hlength : ((greedy same a b).firstItems a).length
      = ((greedy same a b).secondItems b).length :=
    (length_firstItems same a b).trans (length_secondItems h.comm).symm
  have hfirst := List.map_fst_zip hlength.le
  have hsecond := List.map_snd_zip hlength.ge
  have hsub : (greedy same a b).firstItems a ++ (greedy same a b).secondItems b ⊆ a ++ b :=
    List.append_subset.mpr
      ⟨List.subset_append_of_subset_left _ (Matching.firstItems_subset _ a),
        List.subset_append_of_subset_right _ (Matching.secondItems_subset _ b)⟩
  refine countP_ne_one ?_ ?_ ?_
  · rw [hfirst, hsecond]
    exact h.mono hsub
  · intro p hp
    exact same_self_of_matched h (List.of_mem_zip hp).1
  · intro c hc
    rw [hfirst] at hc
    have hcount := countP_matched h (hsub (List.mem_append_left _ hc))
    have hleft := List.countP_map (p := same c) (f := Prod.fst)
      (l := ((greedy same a b).firstItems a).zip ((greedy same a b).secondItems b))
    have hright := List.countP_map (p := same c) (f := Prod.snd)
      (l := ((greedy same a b).firstItems a).zip ((greedy same a b).secondItems b))
    rw [hfirst] at hleft
    rw [hsecond] at hright
    exact hleft.symm.trans (hcount.trans hright)

end Likeness.Match
