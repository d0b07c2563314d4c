import Likeness.Statistics.Order
import Mathlib.Data.List.Basic

/-! # Sorting loses nothing

    Runs are cut off a list, made longer, merged and collapsed; each step takes
    items from one place and puts them at another.  The order may be any: that what
    is sorted is in order is not said here, but that it is the same items.  So what
    stands in the middle of a list is one of its items, as its least and its greatest
    item are. -/

namespace Likeness.Statistics

open scoped List

variable {α : Type}

/-! ## Runs -/

theorem insertSorted_perm (below : α → α → Bool) (run : List α) (x : α) :
    (insertSorted below run x).Perm (x :: run) := by
  refine List.perm_middle.trans (.of_eq ?_)
  rw [List.take_append_drop]

/-- Items that are inserted one after another join those of the run. -/
theorem foldl_insertSorted_perm (below : α → α → Bool) (xs run : List α) :
    (xs.foldl (insertSorted below) run).Perm (run ++ xs) := by
  induction xs generalizing run with
  | nil => exact .of_eq (List.append_nil run).symm
  | cons x xs ih =>
      calc xs.foldl (insertSorted below) (insertSorted below run x)
        _ ~ insertSorted below run x ++ xs := ih _
        _ ~ x :: run ++ xs := (insertSorted_perm below run x).append_right xs
        _ ~ run ++ x :: xs := List.perm_middle.symm

/-- A list begins with its leading run, which may be turned round. -/
theorem leadingRun_perm (below : α → α → Bool) (xs : List α) :
    (leadingRun below xs ++ xs.drop (leadingRun below xs).length).Perm xs := by
  cases xs with
  | nil => exact .refl []
  | cons x xs =>
      have hfront : ∃ k, (leadingRun below (x :: xs)).Perm (x :: xs.take k) := by
        unfold leadingRun
        dsimp only
        split_ifs
        · exact ⟨_, List.reverse_perm _⟩
        · exact ⟨_, .refl _⟩
      obtain ⟨k, hperm⟩ := hfront
      rw [hperm.length_eq, List.length_cons, List.drop_succ_cons]
      refine (hperm.append_right _).trans (.of_eq ?_)
      rw [List.cons_append, List.prefix_iff_eq_append.mp (List.take_prefix k xs)]

theorem cutRun_perm (below : α → α → Bool) (least : Nat) (xs : List α) :
    ((cutRun below least xs).1 ++ (cutRun below least xs).2).Perm xs := by
  unfold cutRun
  dsimp only
  refine ((foldl_insertSorted_perm below _ _).append_right _).trans ?_
  rw [List.append_assoc, List.take_append_drop]
  exact leadingRun_perm below xs

/-! ## Merging two runs -/

namespace Merging

/-- All items of a merge: those that were taken and those that are left. -/
def all (m : Merging α) : List α := m.taken ++ (m.kept ++ m.other)

/-- One merge holds the items of another. -/
abbrev Same (m m' : Merging α) : Prop := m.all.Perm m'.all

theorem takeKept_same (m : Merging α) (n : Nat) : (m.takeKept n).Same m :=
  calc ((m.kept.take n).reverse ++ m.taken) ++ (m.kept.drop n ++ m.other)
    _ ~ (m.taken ++ m.kept.take n) ++ (m.kept.drop n ++ m.other) :=
        (((List.reverse_perm _).append_right _).trans List.perm_append_comm).append_right _
    _ = m.taken ++ ((m.kept.take n ++ m.kept.drop n) ++ m.other) := by
        simp only [List.append_assoc]
    _ = m.taken ++ (m.kept ++ m.other) := by rw [List.take_append_drop]

theorem takeOther_same (m : Merging α) (n : Nat) : (m.takeOther n).Same m :=
  calc ((m.other.take n).reverse ++ m.taken) ++ (m.kept ++ m.other.drop n)
    _ ~ (m.taken ++ m.other.take n) ++ (m.kept ++ m.other.drop n) :=
        (((List.reverse_perm _).append_right _).trans List.perm_append_comm).append_right _
    _ = m.taken ++ (m.other.take n ++ (m.kept ++ m.other.drop n)) := List.append_assoc ..
    _ ~ m.taken ++ (m.kept ++ (m.other.take n ++ m.other.drop n)) :=
        (List.perm_append_comm_assoc _ _ _).append_left _
    _ = m.taken ++ (m.kept ++ m.other) := by rw [List.take_append_drop]

theorem parts_same (d : Direction α) (m : Merging α) {part : Part α} (h : part ∈ parts d) :
    (part m).2.Same m := by
  have hpart : part ∈ keptParts d ∨ part ∈ otherParts d := by
    unfold parts at h
    split_ifs at h
    · exact (List.mem_append.mp h).symm
    · exact List.mem_append.mp h
  simp only [keptParts, otherParts, List.mem_cons, List.not_mem_nil, or_false] at hpart
  rcases hpart with (rfl | rfl) | rfl | rfl
  · exact m.takeKept_same _
  · exact m.takeOther_same 1
  · exact m.takeOther_same _
  · exact m.takeKept_same 1

theorem round_same {ps : List (Part α)} (h : ∀ part ∈ ps, ∀ m, (part m).2.Same m) (longest : Nat)
    (m : Merging α) : (round ps longest m).2.Same m := by
  induction ps generalizing longest m with
  | nil => exact .refl _
  | cons part ps ih =>
      have hpart := h part List.mem_cons_self m
      unfold round
      dsimp only
      split_ifs
      · exact hpart
      · exact (ih (fun p hp => h p (List.mem_cons_of_mem _ hp)) _ _).trans hpart

/-- Both ways to go on keep the items; each hands over to the other with less fuel. -/
theorem goOn_same (d : Direction α) (fuel : Nat) :
    (∀ keptWins otherWins m, (oneByOne d fuel keptWins otherWins m).Same m) ∧
      ∀ m, (inRounds d fuel m).Same m := by
  -- The two call each other, so the induction on the fuel is for both at once.
  induction fuel with
  | zero => exact ⟨fun _ _ _ => .refl _, fun _ => .refl _⟩
  | succ fuel ih =>
      obtain ⟨hone, hrounds⟩ := ih
      constructor
      · intro keptWins otherWins m
        unfold oneByOne
        split
        · dsimp only
          have hkept := m.takeKept_same 1
          have hother := m.takeOther_same 1
          split_ifs
          · exact hother
          · exact (hrounds _).trans hother
          · exact (hone _ _ _).trans hother
          · exact hkept
          · exact (hrounds _).trans hkept
          · exact (hone _ _ _).trans hkept
        · exact .refl _
      · intro m
        unfold inRounds
        dsimp only
        generalize (if 1 < m.patience then m.patience - 1 else m.patience) = patience
        have hround : (round (parts d) 0 { m with patience := patience }).2.Same m :=
          round_same (fun _ hpart m => parts_same d m hpart) 0 _
        split_ifs
        · exact hround
        · exact (hrounds _).trans hround
        · exact (hone _ _ _).trans hround

theorem items_perm (m : Merging α) : m.items.Perm m.all := by
  obtain ⟨taken, kept, other, patience⟩ := m
  refine (List.reverse_perm _).append ?_
  match kept with
  | [] => exact .refl _
  | [x] => exact List.perm_append_comm
  | x :: y :: kept => exact .refl _

theorem finish_same (d : Direction α) (m : Merging α) : (m.finish d).Same m := by
  unfold finish
  dsimp only
  have hother := m.takeOther_same 1
  split_ifs
  · exact hother
  · exact ((goOn_same d _).1 _ _ _).trans hother

end Merging

theorem mergeRuns_perm (below : α → α → Bool) (patience : Nat) (a b : List α) :
    (mergeRuns below patience a b).1.Perm (a ++ b) := by
  -- What is merged stands between the front of the first run and the back of the second.
  have hbetween : ∀ (before after : Nat) {xs : List α}, xs.Perm (a.drop before ++ b.take after) →
      (a.take before ++ xs ++ b.drop after).Perm (a ++ b) := by
    intro before after xs hxs
    calc a.take before ++ xs ++ b.drop after
      _ ~ a.take before ++ (a.drop before ++ b.take after) ++ b.drop after :=
          (hxs.append_left _).append_right _
      _ = (a.take before ++ a.drop before) ++ (b.take after ++ b.drop after) := by
          simp only [List.append_assoc]
      _ = a ++ b := by rw [List.take_append_drop, List.take_append_drop]
  unfold mergeRuns
  split
  · dsimp only
    split_ifs
    · exact .refl _
    · refine hbetween _ _ ((Merging.items_perm _).trans ((Merging.finish_same _ _).trans ?_))
      exact .refl _
    · refine hbetween _ _ ((List.reverse_perm _).trans ((Merging.items_perm _).trans
        ((Merging.finish_same _ _).trans ?_)))
      exact ((List.reverse_perm _).append (List.reverse_perm _)).trans List.perm_append_comm
  · exact .refl _

/-! ## Runs that wait -/

/-- The items of runs that wait, the last run apart. -/
def waitingItems (last : Pending α) (before : List (Pending α)) : List α :=
  before.flatMap Pending.items ++ last.items

theorem meet_perm (below : α → α → Bool) (patience : Nat) (a b : Pending α) :
    (meet below patience a b).1.items.Perm (a.items ++ b.items) :=
  mergeRuns_perm below patience a.items b.items

/-- Two neighbours that are merged keep their items, with those of the runs before them. -/
theorem waitingItems_meet (below : α → α → Bool) (patience : Nat) (last run : Pending α)
    (before : List (Pending α)) :
    (waitingItems (meet below patience run last).1 before).Perm
      (waitingItems last (run :: before)) :=
  calc before.flatMap Pending.items ++ (meet below patience run last).1.items
    _ ~ before.flatMap Pending.items ++ (run.items ++ last.items) :=
        (meet_perm below patience run last).append_left _
    _ ~ run.items ++ (before.flatMap Pending.items ++ last.items) :=
        List.perm_append_comm_assoc _ _ _
    _ = waitingItems last (run :: before) := by
        rw [waitingItems, List.flatMap_cons, List.append_assoc]

theorem settle_perm (below : α → α → Bool) (level : Nat) (last : Pending α)
    (before : List (Pending α)) (patience : Nat) :
    (waitingItems (settle below level last before patience).last
      (settle below level last before patience).before).Perm (waitingItems last before) := by
  induction before generalizing last patience with
  | nil => exact .refl _
  | cons run before ih =>
      unfold settle
      dsimp only
      split_ifs
      · exact (ih _ _).trans (waitingItems_meet below patience last run before)
      · exact .refl _

theorem Waiting.add_perm (below : α → α → Bool) (n : Nat) (w : Waiting α) (items : List α) :
    (waitingItems (w.add below n items).last (w.add below n items).before).Perm
      (waitingItems w.last w.before ++ items) := by
  unfold Waiting.add waitingItems
  dsimp only
  rw [List.flatMap_cons]
  exact (List.perm_append_comm.trans (settle_perm below _ _ _ _)).append_right items

theorem collapse_perm (below : α → α → Bool) (last : Pending α) (before : List (Pending α))
    (patience : Nat) : (collapse below last before patience).Perm (waitingItems last before) := by
  fun_induction collapse below last before patience with
  | case1 last patience => exact .refl _
  | case2 last run patience => exact waitingItems_meet below patience last run []
  | case3 last second first before patience hshort merged rest hmeet ih =>
      have hmerged : merged.items ~ second.items ++ first.items := by
        have h := meet_perm below patience first second
        rw [hmeet] at h
        exact h.trans List.perm_append_comm
      calc collapse below last (merged :: before) rest
        _ ~ merged.items ++ before.flatMap Pending.items ++ last.items := ih
        _ ~ (second.items ++ first.items) ++ before.flatMap Pending.items ++ last.items :=
            (hmerged.append_right _).append_right _
        _ = waitingItems last (second :: first :: before) := by
            simp only [waitingItems, List.flatMap_cons, List.append_assoc]
  | case4 last second first before patience hlong merged rest hmeet ih =>
      have hmerged := waitingItems_meet below patience last second (first :: before)
      rw [hmeet] at hmerged
      exact ih.trans hmerged

theorem sortRuns_perm (below : α → α → Bool) (n least fuel : Nat) (w : Waiting α)
    (rest : List α) :
    (sortRuns below n least fuel w rest).Perm (waitingItems w.last w.before ++ rest) := by
  induction fuel generalizing w rest with
  | zero => exact (collapse_perm below _ _ _).append_right rest
  | succ fuel ih =>
      unfold sortRuns
      split_ifs with hempty
      · rw [List.isEmpty_iff.mp hempty, List.append_nil]
        exact collapse_perm below _ _ _
      · dsimp only
        calc sortRuns below n least fuel (w.add below n (cutRun below least rest).1)
              (cutRun below least rest).2
          _ ~ _ ++ (cutRun below least rest).2 := ih _ _
          _ ~ (waitingItems w.last w.before ++ (cutRun below least rest).1)
                ++ (cutRun below least rest).2 := (w.add_perm below n _).append_right _
          _ ~ waitingItems w.last w.before ++ rest := by
                rw [List.append_assoc]
                exact (cutRun_perm below least rest).append_left _

/-- **SORTING LOSES NOTHING**, whatever the order is. -/
theorem sort_perm (below : α → α → Bool) (xs : List α) : (sort below xs).Perm xs :=
  (sortRuns_perm below _ _ _ _ _).trans (cutRun_perm below _ xs)

/-! ## Items that stand out -/

/-- An item that is kept or replaced by a later one is an item of the list. -/
theorem foldl_mem (better : α → α → Bool) (xs : List α) (x : α) :
    xs.foldl (fun best y => if better y best then y else best) x ∈ x :: xs := by
  induction xs generalizing x with
  | nil => exact List.mem_cons_self
  | cons y xs ih =>
      rw [List.foldl_cons]
      split_ifs
      · exact List.mem_cons_of_mem x (ih y)
      · exact List.mem_cons.mpr ((List.mem_cons.mp (ih x)).imp_right (List.mem_cons_of_mem y))

theorem least?_mem {below : α → α → Bool} {xs : List α} {x : α}
    (h : least? below xs = some x) : x ∈ xs := by
  cases xs with
  | nil => exact nomatch h
  | cons y ys => exact Option.some.inj h ▸ foldl_mem below ys y

theorem greatest?_mem {below : α → α → Bool} {xs : List α} {x : α}
    (h : greatest? below xs = some x) : x ∈ xs := by
  cases xs with
  | nil => exact nomatch h
  | cons y ys => exact Option.some.inj h ▸ foldl_mem (fun z best => below best z) ys y

theorem middle?_one_mem {below : α → α → Bool} {xs : List α} {x : α}
    (h : middle? below xs = some (.one x)) : x ∈ xs := by
  unfold middle? at h
  dsimp only at h
  split_ifs at h
  · obtain ⟨y, hy, heq⟩ := Option.map_eq_some_iff.mp h
    cases heq
    exact (sort_perm below xs).mem_iff.mp (List.mem_of_getElem? hy)
  · split at h
    · cases h
    · cases h

theorem middle?_two_mem {below : α → α → Bool} {xs : List α} {x y : α}
    (h : middle? below xs = some (.two x y)) : x ∈ xs ∧ y ∈ xs := by
  unfold middle? at h
  dsimp only at h
  split_ifs at h
  · obtain ⟨z, -, heq⟩ := Option.map_eq_some_iff.mp h
    cases heq
  · split at h
    · rename_i x' y' hx hy
      cases h
      exact ⟨(sort_perm below xs).mem_iff.mp (List.mem_of_getElem? hx),
        (sort_perm below xs).mem_iff.mp (List.mem_of_getElem? hy)⟩
    · cases h

end Likeness.Statistics
