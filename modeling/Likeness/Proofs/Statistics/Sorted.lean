import Likeness.Proofs.Statistics.Runs

/-! # What is sorted is in order

    Whatever the order is, sorting loses nothing.  When the order is one of heights, what
    is sorted is in order as well (`sort_sorted`).

    A merge keeps three things (`Merging.Ordered`): both runs are in order behind what was
    taken, the run that is kept has an item left, and its last item is above all items of
    the other run.  That is why the merge may stop when one item of it is left, and put that
    behind all others. -/

namespace Likeness.Statistics

variable {α : Type} {below : α → α → Bool}

/-! ## Merging -/

/-- Items of one of two runs that are taken first, as none of the other is below them. -/
theorem sorted_take {taken xs ys : List α} {n : Nat} (hxs : Sorted below (taken ++ xs))
    (hys : Sorted below (taken ++ ys))
    (hfirst : ∀ x ∈ xs.take n, ∀ y ∈ ys, below y x = false) :
    Sorted below ((taken ++ xs.take n) ++ xs.drop n) ∧
      Sorted below ((taken ++ xs.take n) ++ ys) := by
  constructor
  · rwa [List.append_assoc, List.take_append_drop]
  · obtain ⟨htaken, hother, hacross⟩ := sorted_append.mp hys
    obtain ⟨-, hrun, hfront⟩ := sorted_append.mp hxs
    refine sorted_append.mpr ⟨sorted_append.mpr ⟨htaken, hrun.take, ?_⟩, hother, ?_⟩
    · exact fun x hx y hy => hfront x hx y (List.mem_of_mem_take hy)
    · intro x hx y hy
      rcases List.mem_append.mp hx with hx | hx
      · exact hacross x hx y hy
      · exact hfirst x hx y hy

namespace Merging

/-- What a merge keeps: both runs are in order behind what was taken, and the last item of the
    run that is kept is above all items of the other one. -/
structure Ordered (below : α → α → Bool) (m : Merging α) : Prop where
  kept : Sorted below (m.taken.reverse ++ m.kept)
  other : Sorted below (m.taken.reverse ++ m.other)
  ne_nil : m.kept ≠ []
  last : ∀ y ∈ m.other, below y (m.kept.getLast ne_nil) = true

/-- How many items are left. -/
def left (m : Merging α) : Nat := m.kept.length + m.other.length

theorem not_over {m : Merging α} (h : m.isOver = false) :
    1 < m.kept.length ∧ ∃ x kept y other, m.kept = x :: kept ∧ m.other = y :: other := by
  unfold isOver at h
  split at h
  · rename_i x x' kept y other hkept hother
    refine ⟨?_, x, x' :: kept, y, other, hkept, hother⟩
    rw [hkept]
    simp
  · exact nomatch h

theorem Ordered.takeKept {m : Merging α} (h : m.Ordered below) {n : Nat} (hn : n < m.kept.length)
    (hfirst : ∀ x ∈ m.kept.take n, ∀ y ∈ m.other, below y x = false) :
    (m.takeKept n).Ordered below := by
  obtain ⟨hkept, hother⟩ := sorted_take h.kept h.other hfirst
  have hne : m.kept.drop n ≠ [] := by simpa using hn
  refine ⟨?_, ?_, hne, fun y hy => ?_⟩
  · simpa [Merging.takeKept] using hkept
  · simpa [Merging.takeKept] using hother
  · show below y ((m.kept.drop n).getLast hne) = true
    rw [List.getLast_drop]
    exact h.last y hy

theorem Ordered.takeOther {m : Merging α} (h : m.Ordered below) {n : Nat}
    (hfirst : ∀ y ∈ m.other.take n, ∀ x ∈ m.kept, below x y = false) :
    (m.takeOther n).Ordered below := by
  obtain ⟨hother, hkept⟩ := sorted_take h.other h.kept hfirst
  refine ⟨?_, ?_, h.ne_nil, fun y hy => h.last y (List.mem_of_mem_drop hy)⟩
  · simpa [Merging.takeOther] using hkept
  · simpa [Merging.takeOther] using hother

/-- The runs of a merge are in order. -/
theorem Ordered.runs {m : Merging α} (h : m.Ordered below) :
    Sorted below m.kept ∧ Sorted below m.other :=
  ⟨(sorted_append.mp h.kept).2.1, (sorted_append.mp h.other).2.1⟩

/-- What is not above the first item of a run in order is not above any item of it. -/
theorem first_le (hbelow : Weak below) {x y : α} {ys : List α} (h : Sorted below (y :: ys))
    (hxy : below y x = false) : ∀ z ∈ y :: ys, below z x = false := by
  intro z hz
  rcases List.mem_cons.mp hz with rfl | hz
  · exact hxy
  · exact hbelow.trans hxy ((List.pairwise_cons.mp h).1 z hz)

theorem items_sorted {m : Merging α} (hbelow : Weak below) (h : m.Ordered below)
    (hover : m.isOver = true) : Sorted below m.items := by
  obtain ⟨taken, kept, other, patience⟩ := m
  obtain ⟨hkept, hother, hne, hlast⟩ := h
  dsimp only at hkept hother hne hlast
  match kept, other with
  | [], _ => exact absurd rfl hne
  | [x], other =>
      obtain ⟨-, -, htaken⟩ := sorted_append.mp hkept
      show Sorted below (taken.reverse ++ (other ++ [x]))
      rw [← List.append_assoc]
      refine sorted_append.mpr ⟨hother, List.pairwise_singleton _ x, ?_⟩
      intro y hy z hz
      obtain rfl := List.mem_singleton.mp hz
      rcases List.mem_append.mp hy with hy | hy
      · exact htaken y hy z hz
      · exact hbelow.asymm (hlast y hy)
  | x :: x' :: kept, [] => simpa [items] using hkept
  | _ :: _ :: _, _ :: _ => exact nomatch hover

/-! ### Leads -/

section Leads

variable {d : Direction α} {m : Merging α}

/-- The lead of the run that is kept: no item of the other run is below it, and the next item
    of the other run is below what is left. -/
theorem keptLead_parts (hbelow : Weak d.below) (h : m.Ordered d.below) {y : α} {other : List α}
    (hother : m.other = y :: other) : Parts (fun x => !d.below y x) m.kept (m.keptLead d) := by
  have hlead : m.keptLead d = d.leading (fun x => !d.below y x) m.kept := by
    rw [keptLead, hother]
  rw [hlead]
  exact d.leading_parts (h.runs.1.passFirst hbelow y) h.ne_nil

theorem otherLead_parts (hbelow : Weak d.below) (h : m.Ordered d.below) {x : α} {kept : List α}
    (hkept : m.kept = x :: kept) (hne : m.other ≠ []) :
    Parts (fun y => d.below y x) m.other (m.otherLead d) := by
  have hlead : m.otherLead d = d.leading (fun y => d.below y x) m.other := by
    rw [otherLead, hkept]
  rw [hlead]
  exact d.leading_parts (h.runs.2.belowFirst hbelow x) hne

/-- The run that is kept does not run out by its lead, for its last item is no part of it. -/
theorem keptLead_lt (hbelow : Weak d.below) (h : m.Ordered d.below) {y : α} {other : List α}
    (hother : m.other = y :: other) : m.keptLead d < m.kept.length := by
  by_contra hge
  have hpass := (keptLead_parts hbelow h hother).before (m.kept.getLast h.ne_nil) (by
    rw [List.take_of_length_le (by omega)]
    exact List.getLast_mem h.ne_nil)
  rw [h.last y (by rw [hother]; exact List.mem_cons_self)] at hpass
  exact nomatch hpass

end Leads

/-! ### Steps -/

/-- From one merge to a later one: what a merge keeps was kept, and it is over, or less is
    left. -/
structure Proceeds (below : α → α → Bool) (m m' : Merging α) : Prop where
  ordered : m'.Ordered below
  less : m'.isOver = true ∨ m'.left < m.left

theorem left_takeKept (m : Merging α) (n : Nat) : (m.takeKept n).left ≤ m.left := by
  show (m.kept.drop n).length + m.other.length ≤ m.kept.length + m.other.length
  rw [List.length_drop]
  omega

theorem left_takeOther (m : Merging α) (n : Nat) : (m.takeOther n).left ≤ m.left := by
  show m.kept.length + (m.other.drop n).length ≤ m.kept.length + m.other.length
  rw [List.length_drop]
  omega

theorem left_takeKept_one {m : Merging α} (h : m.isOver = false) :
    (m.takeKept 1).left < m.left := by
  obtain ⟨-, x, kept, y, other, hkept, -⟩ := not_over h
  show (m.kept.drop 1).length + m.other.length < m.kept.length + m.other.length
  simp [hkept]

theorem left_takeOther_one {m : Merging α} (h : m.isOver = false) :
    (m.takeOther 1).left < m.left := by
  obtain ⟨-, x, kept, y, other, -, hother⟩ := not_over h
  show m.kept.length + (m.other.drop 1).length < m.kept.length + m.other.length
  simp [hother]

section Steps

variable {d : Direction α} {m : Merging α}

/-- One item of the other run is taken when it is below the run that is kept. -/
theorem Ordered.takeOther_one {x y : α} {kept other : List α} (hbelow : Weak d.below)
    (h : m.Ordered d.below) (hkept : m.kept = x :: kept) (hother : m.other = y :: other)
    (hyx : d.below y x = true) : (m.takeOther 1).Ordered d.below := by
  refine h.takeOther fun z hz => ?_
  rw [hother, List.take_succ_cons, List.take_zero, List.mem_singleton] at hz
  obtain rfl := hz
  rw [hkept]
  exact first_le hbelow (hkept ▸ h.runs.1) (hbelow.asymm hyx)

/-- One item of the run that is kept is taken when the other run is not below it. -/
theorem Ordered.takeKept_one {x y : α} {kept other : List α} (hbelow : Weak d.below)
    (h : m.Ordered d.below) (hnot : m.isOver = false) (hkept : m.kept = x :: kept)
    (hother : m.other = y :: other) (hyx : d.below y x = false) :
    (m.takeKept 1).Ordered d.below := by
  refine h.takeKept (not_over hnot).1 fun z hz => ?_
  rw [hkept, List.take_succ_cons, List.take_zero, List.mem_singleton] at hz
  obtain rfl := hz
  rw [hother]
  exact first_le hbelow (hother ▸ h.runs.2) hyx

/-- A round proceeds by a lead of the run that is kept and the item behind it, if its other
    parts do. -/
theorem round_keptParts (hbelow : Weak d.below) (h : m.Ordered d.below) (hnot : m.isOver = false)
    {rest : List (Part α)} (hrest : ∀ longest (m' : Merging α), m'.Ordered d.below →
      m'.isOver = false → m'.left < m.left → Proceeds d.below m (round rest longest m').2)
    (longest : Nat) : Proceeds d.below m (round (keptParts d ++ rest) longest m).2 := by
  obtain ⟨-, x, kept, y, other, hkept, hother⟩ := not_over hnot
  have hparts := keptLead_parts hbelow h hother
  have hlead : (m.takeKept (m.keptLead d)).Ordered d.below := by
    refine h.takeKept (keptLead_lt hbelow h hother) fun z hz => ?_
    rw [hother]
    exact first_le hbelow (hother ▸ h.runs.2) (by simpa using hparts.before z hz)
  show Proceeds d.below m (if _ then _ else if _ then _ else round rest _ _ : Nat × Merging α).2
  split_ifs with hover hover'
  · exact ⟨hlead, .inl hover⟩
  all_goals
    have hleft := left_takeOther_one (eq_false_of_ne_true hover)
    have hnext : ((m.takeKept (m.keptLead d)).takeOther 1).Ordered d.below := by
      obtain ⟨-, x', kept', -, -, hkept', -⟩ := not_over (eq_false_of_ne_true hover)
      refine hlead.takeOther_one hbelow hkept' hother ?_
      have hbehind := hparts.behind x' (by
        show x' ∈ (m.takeKept (m.keptLead d)).kept
        rw [hkept']
        exact List.mem_cons_self)
      simpa using hbehind
  · exact ⟨hnext, .inl hover'⟩
  · exact hrest _ _ hnext (eq_false_of_ne_true hover')
      (Nat.lt_of_lt_of_le hleft (left_takeKept m _))

/-- So it does by a lead of the other run. -/
theorem round_otherParts (hbelow : Weak d.below) (h : m.Ordered d.below) (hnot : m.isOver = false)
    {rest : List (Part α)} (hrest : ∀ longest (m' : Merging α), m'.Ordered d.below →
      m'.isOver = false → m'.left < m.left → Proceeds d.below m (round rest longest m').2)
    (longest : Nat) : Proceeds d.below m (round (otherParts d ++ rest) longest m).2 := by
  obtain ⟨-, x, kept, y, other, hkept, hother⟩ := not_over hnot
  have hparts := otherLead_parts hbelow h hkept (by simp [hother])
  have hlead : (m.takeOther (m.otherLead d)).Ordered d.below := by
    refine h.takeOther fun z hz => ?_
    rw [hkept]
    exact first_le hbelow (hkept ▸ h.runs.1) (hbelow.asymm (hparts.before z hz))
  show Proceeds d.below m (if _ then _ else if _ then _ else round rest _ _ : Nat × Merging α).2
  split_ifs with hover hover'
  · exact ⟨hlead, .inl hover⟩
  all_goals
    have hleft := left_takeKept_one (eq_false_of_ne_true hover)
    have hnext : ((m.takeOther (m.otherLead d)).takeKept 1).Ordered d.below := by
      obtain ⟨-, -, -, y', other', -, hother'⟩ := not_over (eq_false_of_ne_true hover)
      refine hlead.takeKept_one hbelow (eq_false_of_ne_true hover) hkept hother' ?_
      refine hparts.behind y' ?_
      show y' ∈ (m.takeOther (m.otherLead d)).other
      rw [hother']
      exact List.mem_cons_self
  · exact ⟨hnext, .inl hover'⟩
  · exact hrest _ _ hnext (eq_false_of_ne_true hover')
      (Nat.lt_of_lt_of_le hleft (left_takeOther m _))

theorem round_proceeds (hbelow : Weak d.below) (h : m.Ordered d.below) (hnot : m.isOver = false)
    (longest : Nat) : Proceeds d.below m (round (parts d) longest m).2 := by
  -- A second half begins with less than the whole, so what it leaves is less as well.
  have hlast : ∀ {m' : Merging α}, m'.left < m.left → ∀ longest (m'' : Merging α),
      m''.Ordered d.below → m''.isOver = false → m''.left < m'.left →
      Proceeds d.below m' (round [] longest m'').2 :=
    fun _ _ _ h'' _ hless => ⟨h'', .inr hless⟩
  have hwhole : ∀ {m' m'' : Merging α}, m'.left < m.left → Proceeds d.below m' m'' →
      Proceeds d.below m m'' :=
    fun hless h' => ⟨h'.ordered, h'.less.imp_right fun hless' => Nat.lt_trans hless' hless⟩
  unfold parts
  split_ifs
  · refine round_otherParts hbelow h hnot (fun longest m' h' hnot' hless => hwhole hless ?_) longest
    rw [← List.append_nil (keptParts d)]
    exact round_keptParts hbelow h' hnot' (hlast hless) longest
  · refine round_keptParts hbelow h hnot (fun longest m' h' hnot' hless => hwhole hless ?_) longest
    rw [← List.append_nil (otherParts d)]
    exact round_otherParts hbelow h' hnot' (hlast hless) longest

theorem Ordered.patient (h : m.Ordered d.below) (patience : Nat) :
    { m with patience := patience }.Ordered d.below :=
  ⟨h.kept, h.other, h.ne_nil, h.last⟩

end Steps

/-- Both ways to go on end a merge and keep what it keeps; each hands over to the other with
    less fuel, and with less that is left. -/
theorem goOn_ordered {d : Direction α} (hbelow : Weak d.below) (fuel : Nat) :
    (∀ keptWins otherWins (m : Merging α), m.Ordered d.below → m.isOver = false →
      m.left ≤ fuel → (oneByOne d fuel keptWins otherWins m).Ordered d.below ∧
        (oneByOne d fuel keptWins otherWins m).isOver = true) ∧
    ∀ m : Merging α, m.Ordered d.below → m.isOver = false → m.left ≤ fuel →
      (inRounds d fuel m).Ordered d.below ∧ (inRounds d fuel m).isOver = true := by
  have hpos : ∀ {m : Merging α}, m.isOver = false → 0 < m.left := by
    intro m hnot
    have hkept := (not_over hnot).1
    unfold left
    omega
  -- The two call each other, so the induction on the fuel is for both at once.
  induction fuel with
  | zero =>
      refine ⟨fun _ _ m _ hnot hfuel => ?_, fun m _ hnot hfuel => ?_⟩
      · exact absurd (hpos hnot) (by omega)
      · exact absurd (hpos hnot) (by omega)
  | succ fuel ih =>
      obtain ⟨hone, hrounds⟩ := ih
      constructor
      · intro keptWins otherWins m h hnot hfuel
        obtain ⟨-, x, kept, y, other, hkept, hother⟩ := not_over hnot
        unfold oneByOne
        rw [hkept, hother]
        dsimp only
        split_ifs with hyx hover _ hover
        all_goals
          have hkeptLeft := left_takeKept_one hnot
          have hotherLeft := left_takeOther_one hnot
        · exact ⟨h.takeOther_one hbelow hkept hother hyx, hover⟩
        · exact hrounds _ ((h.takeOther_one hbelow hkept hother hyx).patient _)
            (eq_false_of_ne_true hover) (show (m.takeOther 1).left ≤ fuel by omega)
        · exact hone _ _ _ (h.takeOther_one hbelow hkept hother hyx)
            (eq_false_of_ne_true hover) (by omega)
        · exact ⟨h.takeKept_one hbelow hnot hkept hother (eq_false_of_ne_true hyx), hover⟩
        · exact hrounds _ ((h.takeKept_one hbelow hnot hkept hother
            (eq_false_of_ne_true hyx)).patient _) (eq_false_of_ne_true hover)
            (show (m.takeKept 1).left ≤ fuel by omega)
        · exact hone _ _ _ (h.takeKept_one hbelow hnot hkept hother (eq_false_of_ne_true hyx))
            (eq_false_of_ne_true hover) (by omega)
      · intro m h hnot hfuel
        unfold inRounds
        dsimp only
        generalize (if 1 < m.patience then m.patience - 1 else m.patience) = patience
        obtain ⟨hordered, hless⟩ := round_proceeds (m := { m with patience := patience }) hbelow
          (h.patient patience) hnot 0
        split_ifs with hover hworthy
        · exact ⟨hordered, hover⟩
        · exact hrounds _ hordered (eq_false_of_ne_true hover)
            (Nat.le_of_lt_succ (Nat.lt_of_lt_of_le (hless.resolve_left hover) hfuel))
        · exact hone _ _ _ (hordered.patient _) (eq_false_of_ne_true hover)
            (Nat.le_of_lt_succ (Nat.lt_of_lt_of_le (hless.resolve_left hover) hfuel))

/-- A whole merge is in order when the first item of the other run may be the first of all,
    and the last item of the run that is kept the last of all. -/
theorem finish_sorted {d : Direction α} (hbelow : Weak d.below) {kept other : List α}
    (hkept : Sorted d.below kept) (hother : Sorted d.below other) (hne : kept ≠ [])
    (hlast : ∀ y ∈ other, d.below y (kept.getLast hne) = true)
    (hfirst : ∀ y, other.head? = some y → ∀ x ∈ kept, d.below x y = false) (patience : Nat) :
    Sorted d.below (finish d ⟨[], kept, other, patience⟩).items := by
  have hordered : (Merging.mk [] kept other patience).Ordered d.below :=
    ⟨hkept, hother, hne, hlast⟩
  have htaken := hordered.takeOther (n := 1) fun y hy => by
    cases other with
    | nil => exact nomatch hy
    | cons z other =>
        obtain rfl := List.mem_singleton.mp hy
        exact hfirst y rfl
  unfold finish
  dsimp only
  split_ifs with hover
  · exact items_sorted hbelow htaken hover
  · obtain ⟨hordered, hover⟩ := (goOn_ordered hbelow _).1 0 0 _ htaken
      (eq_false_of_ne_true hover) (Nat.le_mul_of_pos_left _ Nat.zero_lt_two)
    exact items_sorted hbelow hordered hover

end Merging

section Between

variable {y last : α} {a b : List α} {before after : Nat}

/-- What is merged may stand between the front of one run and the back of the other. -/
theorem sorted_between (hbelow : Weak below) (ha : Sorted below (a ++ [last]))
    (hb : Sorted below (y :: b)) (hfront : Parts (fun x => !below y x) (a ++ [last]) before)
    (hback : Parts (fun z => below z last) (y :: b) after) {xs : List α}
    (hperm : xs.Perm ((a ++ [last]).drop before ++ (y :: b).take after))
    (hxs : Sorted below xs) :
    Sorted below ((a ++ [last]).take before ++ xs ++ (y :: b).drop after) := by
  have hup : ∀ x ∈ (a ++ [last]).take before, ∀ z ∈ y :: b, below z x = false := fun x hx =>
    Merging.first_le hbelow hb (by simpa using hfront.before x hx)
  have hdown : ∀ x ∈ a ++ [last], ∀ z ∈ (y :: b).drop after, below z x = false := by
    intro x hx z hz
    refine hbelow.trans ?_ (hback.behind z hz)
    rcases List.mem_append.mp hx with hx | hx
    · exact (sorted_append.mp ha).2.2 x hx last (List.mem_singleton_self last)
    · obtain rfl := List.mem_singleton.mp hx
      exact hbelow.irrefl x
  rw [← List.take_append_drop before (a ++ [last])] at ha
  rw [← List.take_append_drop after (y :: b)] at hb
  obtain ⟨hfirst, -, hacross⟩ := sorted_append.mp ha
  obtain ⟨-, hrest, hacross'⟩ := sorted_append.mp hb
  refine sorted_append.mpr ⟨sorted_append.mpr ⟨hfirst, hxs, ?_⟩, hrest, ?_⟩
  · intro x hx z hz
    rcases List.mem_append.mp (hperm.mem_iff.mp hz) with hz | hz
    · exact hacross x hx z hz
    · exact hup x hx z (List.mem_of_mem_take hz)
  · intro x hx z hz
    rcases List.mem_append.mp hx with hx | hx
    · exact hup x hx z (List.mem_of_mem_drop hz)
    rcases List.mem_append.mp (hperm.mem_iff.mp hx) with hx | hx
    · exact hdown x (List.mem_of_mem_drop hx) z hz
    · exact hacross' x hx z hz

end Between

theorem mergeRuns_sorted (hbelow : Weak below) (patience : Nat) {a b : List α}
    (ha : Sorted below a) (hb : Sorted below b) :
    Sorted below (mergeRuns below patience a b).1 := by
  cases b with
  | nil => simpa [mergeRuns] using ha
  | cons y b =>
      rcases List.eq_nil_or_concat' a with rfl | ⟨a, last, rfl⟩
      · exact hb
      · have hlast : (a ++ [last]).getLast? = some last := List.getLast?_concat
        have hfront := boundary_parts (ha.passFirst hbelow y) 0 (by simp)
        have hback := boundary_parts (hb.belowFirst hbelow last) ((y :: b).length - 1)
          (by simp)
        unfold mergeRuns
        rw [hlast]
        dsimp only
        generalize boundary _ (a ++ [last]).length 0 = before at hfront ⊢
        generalize boundary _ (y :: b).length ((y :: b).length - 1) = after at hback ⊢
        have hfrontSorted : Sorted below ((a ++ [last]).drop before) :=
          ha.sublist (List.drop_sublist before _)
        have hbackSorted : Sorted below ((y :: b).take after) :=
          hb.sublist (List.take_sublist after _)
        split_ifs with hempty hshort
        · have hwhole := sorted_between hbelow ha hb hfront hback (.refl _) (by
            simp only [Bool.or_eq_true, List.isEmpty_iff] at hempty
            rcases hempty with hempty | hempty
            · rwa [hempty, List.nil_append]
            · rwa [hempty, List.append_nil])
          rwa [List.append_assoc, List.append_assoc, List.take_append_drop, ← List.append_assoc,
            List.take_append_drop] at hwhole
        all_goals
          simp only [Bool.or_eq_true, List.isEmpty_iff, not_or] at hempty
          obtain ⟨hne, hne'⟩ := hempty
          have hend : ((a ++ [last]).drop before).getLast hne = last := by
            rw [List.getLast_drop, List.getLast_append_singleton]
          have hbegin : ∀ z, ((y :: b).take after).head? = some z → z = y := by
            intro z hz
            cases after with
            | zero => exact nomatch hz
            | succ n => exact (Option.some.inj hz).symm
        · refine sorted_between hbelow ha hb hfront hback
            ((Merging.items_perm _).trans (Merging.finish_same _ _)) ?_
          refine Merging.finish_sorted (d := ⟨below, false⟩) hbelow hfrontSorted hbackSorted hne
            ?_ ?_ patience
          · rw [hend]
            exact hback.before
          · intro z hz x hx
            obtain rfl := hbegin z hz
            exact hbelow.asymm (by simpa using hfront.behind x hx)
        · refine sorted_between hbelow ha hb hfront hback ((List.reverse_perm _).trans
            ((Merging.items_perm _).trans ((Merging.finish_same _ _).trans ?_))) ?_
          · exact ((List.reverse_perm _).append (List.reverse_perm _)).trans
              List.perm_append_comm
          · refine (Merging.finish_sorted (d := ⟨fun x y => below y x, true⟩) hbelow.turned
              hbackSorted.turned hfrontSorted.turned (by simpa using hne') ?_ ?_ patience).turned
            · intro x hx
              have hfirst : (((y :: b).take after).reverse.getLast (by simpa using hne')) = y := by
                rw [List.getLast_reverse]
                exact hbegin _ (List.head?_eq_some_head hne')
              rw [hfirst]
              simpa using hfront.behind x (List.mem_reverse.mp hx)
            · intro x hx z hz
              rw [List.head?_reverse, List.getLast?_eq_some_getLast hne, hend] at hx
              obtain rfl := Option.some.inj hx
              exact hbelow.asymm (hback.before z (List.mem_reverse.mp hz))

/-! ## Runs that wait -/

section Waiting

variable {last : Pending α} {before : List (Pending α)}

/-- All runs that wait are in order. -/
def AllSorted (below : α → α → Bool) (last : Pending α) (before : List (Pending α)) : Prop :=
  ∀ run ∈ last :: before, Sorted below run.items

theorem AllSorted.meet {run : Pending α} (hbelow : Weak below)
    (h : AllSorted below last (run :: before)) (patience : Nat) :
    AllSorted below (meet below patience run last).1 before := by
  intro run' hrun'
  rcases List.mem_cons.mp hrun' with rfl | hrun'
  · exact mergeRuns_sorted hbelow patience (h run (by simp)) (h last (by simp))
  · exact h run' (by simp [hrun'])

theorem settle_sorted (hbelow : Weak below) (level : Nat) (h : AllSorted below last before)
    (patience : Nat) : AllSorted below (settle below level last before patience).last
      (settle below level last before patience).before := by
  induction before generalizing last patience with
  | nil =>
      intro run hrun
      obtain rfl := List.mem_singleton.mp hrun
      exact h last List.mem_cons_self
  | cons run before ih =>
      unfold settle
      dsimp only
      split_ifs
      · exact ih (h.meet hbelow patience) _
      · intro run' hrun'
        rcases List.mem_cons.mp hrun' with rfl | hrun'
        · exact h last List.mem_cons_self
        · exact h run' (List.mem_cons_of_mem _ hrun')

theorem Waiting.add_sorted (hbelow : Weak below) (n : Nat) {w : Waiting α} {items : List α}
    (h : AllSorted below w.last w.before) (hitems : Sorted below items) :
    AllSorted below (w.add below n items).last (w.add below n items).before := by
  intro run hrun
  rcases List.mem_cons.mp hrun with rfl | hrun
  · exact hitems
  · exact settle_sorted hbelow _ h _ run hrun

theorem collapse_sorted (hbelow : Weak below) (h : AllSorted below last before)
    (patience : Nat) : Sorted below (collapse below last before patience) := by
  fun_induction collapse below last before patience with
  | case1 patience last => exact h last List.mem_cons_self
  | case2 last run patience => exact h.meet hbelow patience _ List.mem_cons_self
  | case3 last second first before patience hshort merged rest hmeet ih =>
      have hmerged : Sorted below (meet below patience first second).1.items :=
        mergeRuns_sorted hbelow patience (h first (by simp)) (h second (by simp))
      rw [hmeet] at hmerged
      refine ih fun run hrun => ?_
      simp only [List.mem_cons] at hrun
      rcases hrun with rfl | rfl | hrun
      · exact h run (by simp)
      · exact hmerged
      · exact h run (by simp [hrun])
  | case4 last second first before patience hlong merged rest hmeet ih =>
      have hmerged := h.meet hbelow patience
      rw [hmeet] at hmerged
      exact ih hmerged

end Waiting

theorem sortRuns_sorted (hbelow : Weak below) (n least : Nat) {fuel : Nat} {w : Waiting α}
    {rest : List α} (h : AllSorted below w.last w.before) (hfuel : rest.length ≤ fuel) :
    Sorted below (sortRuns below n least fuel w rest) := by
  induction fuel generalizing w rest with
  | zero =>
      rw [List.length_eq_zero_iff.mp (Nat.le_zero.mp hfuel), sortRuns, List.append_nil]
      exact collapse_sorted hbelow h _
  | succ fuel ih =>
      unfold sortRuns
      split_ifs with hempty
      · exact collapse_sorted hbelow h _
      · have hless := cutRun_length_lt below least (mt List.isEmpty_iff.mpr hempty)
        exact ih (Waiting.add_sorted hbelow n h (cutRun_sorted hbelow least rest))
          (Nat.le_of_lt_succ (Nat.lt_of_lt_of_le hless hfuel))

/-- **WHAT IS SORTED IS IN ORDER**, when the order is one of heights. -/
theorem sort_sorted (hbelow : Weak below) (xs : List α) : Sorted below (sort below xs) := by
  unfold sort
  dsimp only
  refine sortRuns_sorted hbelow _ _ ?_ ?_
  · intro run hrun
    obtain rfl := List.mem_singleton.mp hrun
    exact cutRun_sorted hbelow _ xs
  · have hlength := (cutRun_perm below (leastRun false xs.length) xs).length_eq
    rw [List.length_append] at hlength
    omega

/-! ## Items by their heights -/

section Keys

variable {β : Type} [LinearOrder β] {key : α → β}

/-- The heights of what is sorted are the heights, sorted. -/
theorem sort_keys (h : ∀ x y, below x y = decide (key x < key y)) (xs : List α) :
    (sort below xs).map key = (xs.map key).mergeSort := by
  have hsorted : ((sort below xs).map key).Pairwise (· ≤ ·) := by
    refine List.pairwise_map.mpr ((sort_sorted (Weak.of_key h) xs).imp fun {x y} hle => ?_)
    rwa [h, decide_eq_false_iff_not, not_lt] at hle
  have hperm : ((sort below xs).map key).Perm (xs.map key).mergeSort :=
    ((sort_perm below xs).map key).trans (List.mergeSort_perm _ _).symm
  exact hperm.eq_of_pairwise (fun _ _ _ _ => le_antisymm) hsorted
    (List.pairwise_mergeSort' (· ≤ ·) _)

theorem getElem?_sort (h : ∀ x y, below x y = decide (key x < key y)) (xs : List α) (i : Nat) :
    ((sort below xs)[i]?).map key = (xs.map key).mergeSort[i]? := by
  rw [← List.getElem?_map, sort_keys h]

theorem least?_keys (h : ∀ x y, below x y = decide (key x < key y)) (xs : List α) :
    (least? below xs).map key = (xs.map key).min? := by
  cases xs with
  | nil => rfl
  | cons x xs =>
      rw [least?, List.map_cons, List.min?_cons', List.foldl_map, Option.map_some]
      refine congrArg some (List.foldl_hom key fun best y => ?_).symm
      rw [h]
      rcases lt_or_ge (key y) (key best) with hlt | hge
      · rw [min_eq_right hlt.le, if_pos (decide_eq_true hlt)]
      · rw [min_eq_left hge, if_neg (mt of_decide_eq_true (not_lt.mpr hge))]

theorem greatest?_keys (h : ∀ x y, below x y = decide (key x < key y)) (xs : List α) :
    (greatest? below xs).map key = (xs.map key).max? := by
  cases xs with
  | nil => rfl
  | cons x xs =>
      rw [greatest?, List.map_cons, List.max?_cons', List.foldl_map, Option.map_some]
      refine congrArg some (List.foldl_hom key fun best y => ?_).symm
      rw [h]
      rcases lt_or_ge (key best) (key y) with hlt | hge
      · rw [max_eq_right hlt.le, if_pos (decide_eq_true hlt)]
      · rw [max_eq_left hge, if_neg (mt of_decide_eq_true (not_lt.mpr hge))]

end Keys

end Likeness.Statistics
