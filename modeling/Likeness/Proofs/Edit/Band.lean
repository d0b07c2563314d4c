import Likeness.Edit.Band
import Likeness.Proofs.Edit.Table

/-! # The band holds the distances up to the threshold

    A cell of the band `Shows` the distance of its place: it holds the distance
    when that is within the threshold, and anything beyond the threshold
    otherwise.  Minima, successors and the diagonal step keep this, so a row
    of the band shows its distances when the row above it does.

    What a buffer still holds from two rows earlier is never read:
    `FinishedRow` says that the cells right of the band have not been touched,
    `Filling` that the cell left of the band has been marked.

    The main result is `distanceWithin?_eq`: the band finds the distance of two
    sequences exactly when that is within the threshold. -/

namespace Likeness.Edit

variable {α : Type} {miss : Nat → Nat → Bool} {t n : Nat}

/-! ## Cells that show a distance -/

/-- A cell shows a distance up to a threshold. -/
def Shows (t d c : Nat) : Prop :=
  (d ≤ t → c = d) ∧ (t < d → t < c)

theorem Shows.self (t d : Nat) : Shows t d d :=
  ⟨fun _ => rfl, fun h => h⟩

theorem Shows.beyond {d c : Nat} (hd : t < d) (hc : t < c) : Shows t d c :=
  ⟨fun h => absurd h (Nat.not_le.mpr hd), fun _ => hc⟩

theorem Shows.lt_of_lt {d c : Nat} (h : Shows t d c) (hc : t < c) : t < d := by
  rcases Nat.lt_or_ge t d with hd | hd
  · exact hd
  · rw [h.1 hd] at hc
    exact hc

theorem Shows.min {d e c f : Nat} (h : Shows t d c) (h' : Shows t e f) :
    Shows t (min d e) (min c f) := by
  obtain ⟨h1, h2⟩ := h
  obtain ⟨h3, h4⟩ := h'
  constructor
  · intro hle
    by_cases hd : d ≤ t
    · by_cases he : e ≤ t
      · rw [h1 hd, h3 he]
      · have := h1 hd
        have := h4 (by omega)
        omega
    · have := h2 (by omega)
      have := h3 (by omega)
      omega
  · intro hlt
    have := h2 (by omega)
    have := h4 (by omega)
    omega

theorem Shows.succ {d c : Nat} (h : Shows t d c) : Shows t (1 + d) (1 + c) := by
  obtain ⟨h1, h2⟩ := h
  constructor
  · intro hle
    rw [h1 (by omega)]
  · intro hlt
    by_cases hd : d ≤ t
    · rw [h1 hd]
      exact hlt
    · have := h2 (by omega)
      omega

/-! ## Cells of a buffer -/

theorem cell_set_self {row : Array Nat} {i v : Nat} (h : i < row.size) :
    cell (row.setIfInBounds i v) i = v := by
  simp [cell, Array.getD_eq_getD_getElem?, h]

theorem cell_set_ne {row : Array Nat} {i k v : Nat} (h : k ≠ i) :
    cell (row.setIfInBounds i v) k = cell row k := by
  simp [cell, Array.getD_eq_getD_getElem?, Array.getElem?_setIfInBounds_ne (Ne.symm h)]

/-! ## Rows -/

/-- The first cell of the band of row `j`. -/
def low (t j : Nat) : Nat := max 1 (j - t)

/-- The last cell of the band of row `j` in a table with `n` columns. -/
def high (t n j : Nat) : Nat := min n (j + t)

/-- A buffer in which the cells right of the band of row `j` have not been
    touched. -/
structure Untouched (t n j : Nat) (row : Array Nat) : Prop where
  size : row.size = n + 1
  right : ∀ i, i ≤ n → j + t < i → cell row i = unreachable

/-- Writing a cell that is not right of the band leaves those that are. -/
theorem Untouched.set {j i v : Nat} {row : Array Nat} (h : Untouched t n j row) (hi : i ≤ j + t) :
    Untouched t n j (row.setIfInBounds i v) := by
  refine ⟨?_, ?_⟩
  · rw [Array.size_setIfInBounds]
    exact h.size
  · intro k hk hright
    rw [cell_set_ne (by omega)]
    exact h.right k hk hright

/-- A buffer that holds row `j`: its number, and the distances within the band. -/
structure FinishedRow (miss : Nat → Nat → Bool) (t n j : Nat) (row : Array Nat) : Prop
    extends Untouched t n j row where
  first : cell row 0 = j
  band : ∀ i, i ≤ n → j ≤ i + t → i ≤ j + t → Shows t (gap miss i j) (cell row i)

/-- A buffer into which row `j` has been filled up to cell `i`, and the least of
    the cells filled so far. -/
structure Filling (miss : Nat → Nat → Bool) (t n j i : Nat) (row : Array Nat)
    (least : Nat) : Prop extends Untouched t n j row where
  first : cell row 0 = j
  left : Shows t (gap miss (i - 1) j) (cell row (i - 1))
  band : ∀ k, low t j ≤ k → k < i → Shows t (gap miss k j) (cell row k)
  least_le : ∀ k, low t j ≤ k → k < i → least ≤ cell row k

/-- A place outside the band is beyond the threshold. -/
theorem lt_gap_of_outside {i j : Nat} (h : j + t < i ∨ i + t < j) : t < gap miss i j := by
  have := le_gap_add miss i j
  omega

/-- The cells above the cells of a band show their distances, the one right of the
    band above it included. -/
theorem FinishedRow.shows {i j : Nat} {row : Array Nat} (h : FinishedRow miss t n j row)
    (hn : n ≤ unreachable) (hi : i ≤ n) (hlow : j ≤ i + t) :
    Shows t (gap miss i j) (cell row i) := by
  by_cases hhigh : i ≤ j + t
  · exact h.band i hi hlow hhigh
  · refine Shows.beyond (lt_gap_of_outside (Or.inl (by omega))) ?_
    rw [h.right i hi (by omega)]
    show t < unreachable
    omega

/-- The value that a cell of the band is given. -/
theorem shows_value {same : α → α → Bool} {short long : List α} {y : α} {i j c d e : Nat}
    (hi : i < short.length) (hj : j < long.length) (hy : long[j] = y)
    (hd : Shows t (gap (differ same short long) i j) d)
    (hc : Shows t (gap (differ same short long) i (j + 1)) c)
    (he : Shows t (gap (differ same short long) (i + 1) j) e) :
    Shows t (gap (differ same short long) (i + 1) (j + 1))
      (if (short.toArray[i]?).any (fun x => same x y) then d else 1 + min (min c e) d) := by
  have hmatch : (short.toArray[i]?).any (fun x => same x y) = !differ same short long i j := by
    rw [differ_eq same hi hj, hy, Bool.not_not]
    simp [hi]
  rw [hmatch]
  cases hmiss : differ same short long i j with
  | false =>
      rw [gap_succ_of_agree hmiss]
      exact hd
  | true =>
      rw [gap_succ_of_differ hmiss]
      exact ((hc.min he).min hd).succ

/-- One more cell of a band. -/
theorem Filling.step {same : α → α → Bool} {short long : List α} {y : α}
    {i j least : Nat} {previous row : Array Nat}
    (hprev : FinishedRow (differ same short long) t short.length j previous)
    (hn : short.length ≤ unreachable) (hj : j < long.length) (hy : long[j] = y)
    (hlow : low t (j + 1) ≤ i) (hhigh : i ≤ high t short.length (j + 1))
    (h : Filling (differ same short long) t short.length (j + 1) i row least)
    {value : Nat}
    (hvalue : value = if (short.toArray[i - 1]?).any (fun x => same x y)
      then cell previous (i - 1)
      else 1 + min (min (cell row (i - 1)) (cell previous i)) (cell previous (i - 1))) :
    Filling (differ same short long) t short.length (j + 1) (i + 1)
      (row.setIfInBounds i value) (if value < least then value else least) := by
  have hi : 1 ≤ i ∧ j + 1 ≤ i + t ∧ i ≤ short.length ∧ i ≤ j + 1 + t := by
    rw [low] at hlow
    rw [high] at hhigh
    omega
  -- cells are numbered from one, the items from zero
  obtain ⟨k, rfl⟩ : ∃ k, i = k + 1 := ⟨i - 1, by omega⟩
  rw [Nat.add_sub_cancel] at hvalue
  have hshows : Shows t (gap (differ same short long) (k + 1) (j + 1)) value := by
    rw [hvalue]
    exact shows_value (by omega) hj hy (hprev.shows hn (by omega) (by omega)) h.left
      (hprev.shows hn hi.2.2.1 (by omega))
  have hsize : k + 1 < row.size := by
    rw [h.size]
    omega
  refine ⟨h.toUntouched.set (by omega), ?_, ?_, ?_, ?_⟩
  · rw [cell_set_ne (by omega)]
    exact h.first
  · rw [Nat.add_sub_cancel, cell_set_self hsize]
    exact hshows
  · intro l hl hlt
    by_cases heq : l = k + 1
    · rw [heq, cell_set_self hsize]
      exact hshows
    · rw [cell_set_ne heq]
      exact h.band l hl (by omega)
  · intro l hl hlt
    by_cases heq : l = k + 1
    · rw [heq, cell_set_self hsize]
      split
      · exact Nat.le_refl _
      · omega
    · rw [cell_set_ne heq]
      have := h.least_le l hl (by omega)
      split
      · omega
      · exact this

/-- All cells of a band. -/
theorem Filling.run {same : α → α → Bool} {short long : List α} {y : α} {j : Nat}
    {previous : Array Nat}
    (hprev : FinishedRow (differ same short long) t short.length j previous)
    (hn : short.length ≤ unreachable) (hj : j < long.length) (hy : long[j] = y) :
    ∀ (count i : Nat) (row : Array Nat) (least : Nat),
      low t (j + 1) ≤ i → i + count = high t short.length (j + 1) + 1 →
      Filling (differ same short long) t short.length (j + 1) i row least →
      Filling (differ same short long) t short.length (j + 1)
        (high t short.length (j + 1) + 1)
        (fill same short.toArray y previous count i row least).1
        (fill same short.toArray y previous count i row least).2 := by
  intro count
  induction count with
  | zero =>
      intro i row least _ hcount h
      rw [Nat.add_zero] at hcount
      rw [← hcount]
      exact h
  | succ count ih =>
      intro i row least hlow hcount h
      exact ih (i + 1) _ _ (by omega) (by omega)
        (Filling.step hprev hn hj hy hlow (by omega) h rfl)

/-! ## One row -/

/-- The buffer in which row `j` is begun: its number is set, and the cell left of
    the band is marked. -/
def begun (t j : Nat) (row : Array Nat) : Array Nat :=
  if 1 < low t j then (row.setIfInBounds 0 j).setIfInBounds (low t j - 1) unreachable
  else row.setIfInBounds 0 j

theorem Filling.start {same : α → α → Bool} {short long : List α} {j : Nat}
    {row : Array Nat} (hm : long.length ≤ unreachable) (hj : j < long.length)
    (hband : low t (j + 1) ≤ high t short.length (j + 1))
    (h : Untouched t short.length (j + 1) row) :
    Filling (differ same short long) t short.length (j + 1) (low t (j + 1))
      (begun t (j + 1) row) unreachable := by
  have hsize : 0 < row.size := by
    rw [h.size]
    omega
  have hfirst : Untouched t short.length (j + 1) (row.setIfInBounds 0 (j + 1)) :=
    h.set (Nat.zero_le _)
  by_cases hlow : 1 < low t (j + 1)
  · have hout : low t (j + 1) - 1 + t < j + 1 := by
      rw [low] at hlow ⊢
      omega
    have hin : low t (j + 1) - 1 < (row.setIfInBounds 0 (j + 1)).size := by
      rw [hfirst.size]
      rw [high] at hband
      omega
    rw [begun, if_pos hlow]
    refine ⟨hfirst.set (by omega), ?_, ?_, fun k hk hlt => ?_, fun k hk hlt => ?_⟩
    · rw [cell_set_ne (by omega), cell_set_self hsize]
    · -- the marked cell lies outside the band, so that the mark shows its distance
      rw [cell_set_self hin]
      exact Shows.beyond (lt_gap_of_outside (Or.inr hout)) (by omega)
    · omega
    · omega
  · have heq : low t (j + 1) = 1 := by
      rw [low] at hlow ⊢
      omega
    rw [begun, if_neg hlow, heq]
    refine ⟨hfirst, cell_set_self hsize, ?_, fun k hk hlt => ?_, fun k hk hlt => ?_⟩
    · rw [Nat.sub_self, cell_set_self hsize, gap_zero_left]
      exact Shows.self t (j + 1)
    · omega
    · omega

/-- A band that has been filled is a finished row. -/
theorem Filling.finished {j least : Nat} {row : Array Nat}
    (h : Filling miss t n (j + 1) (high t n (j + 1) + 1) row least) :
    FinishedRow miss t n (j + 1) row := by
  refine ⟨h.toUntouched, h.first, ?_⟩
  intro i hi hlow hhigh
  cases i with
  | zero =>
      rw [h.first, gap_zero_left]
      exact Shows.self t (j + 1)
  | succ i =>
      refine h.band (i + 1) ?_ ?_
      · rw [low]
        omega
      · rw [high]
        omega

/-- When the least cell of a band is beyond the threshold, the whole row is: the
    cell left of the band is no nearer than the first one in it. -/
theorem Filling.lt_gap {j least : Nat} {row : Array Nat} (hn : 0 < n)
    (h : Filling miss t n (j + 1) (high t n (j + 1) + 1) row least) (hleast : t < least) :
    ∀ i, i ≤ n → t < gap miss i (j + 1) := by
  have hin : ∀ i, low t (j + 1) ≤ i → i ≤ high t n (j + 1) → t < gap miss i (j + 1) := by
    intro i hlow hhigh
    refine (h.band i hlow (by omega)).lt_of_lt ?_
    have := h.least_le i hlow (by omega)
    omega
  intro i hi
  by_cases hout : j + 1 + t < i ∨ i + t < j + 1
  · exact lt_gap_of_outside hout
  · cases i with
    | zero =>
        -- cell 0 is outside the band even when its distance is not: its neighbour decides
        have h1 := hin 1 (by rw [low]; omega) (by rw [high]; omega)
        have h2 := gap_le_diagonal miss 0 j
        have h3 := Bool.toNat_le (miss 0 j)
        rw [gap_zero_left] at h2 ⊢
        rw [Nat.zero_add] at h2
        omega
    | succ i => exact hin (i + 1) (by rw [low]; omega) (by rw [high]; omega)

/-- The buffers before row `j + 1`: row `j` is finished, the other buffer is free
    right of the band to come. -/
structure Ready (miss : Nat → Nat → Bool) (t n j : Nat) (b : Buffers) : Prop where
  previous : FinishedRow miss t n j b.previous
  current : Untouched t n (j + 1) b.current

/-- A row with the cells of its band filled, and the least of these. -/
def filledBand (same : α → α → Bool) (short : Array α) (t j : Nat) (y : α) (b : Buffers) :
    Array Nat × Nat :=
  fill same short y b.previous (high t short.size j + 1 - low t j) (low t j)
    (begun t j b.current) unreachable

/-- The band of a row is never empty when the lengths differ by no more than the
    threshold. -/
theorem low_le_high {m j : Nat} (hn : 0 < n) (hle : m ≤ n + t) (hj : j < m) :
    low t (j + 1) ≤ high t n (j + 1) := by
  rw [low, high]
  omega

theorem bandRow_eq {same : α → α → Bool} {short : Array α} {y : α} {j : Nat} {b : Buffers}
    (hband : low t j ≤ high t short.size j) :
    bandRow same short t j y b
      = if t < (filledBand same short t j y b).2 then none
        else some ⟨(filledBand same short t j y b).1, b.previous⟩ :=
  if_neg (Nat.not_lt.mpr hband)

/-- What the search relies on: items of the shorter sequence, lengths below the
    mark, and no more difference of length than the threshold. -/
structure Searchable (t : Nat) (short long : List α) : Prop where
  pos : 0 < short.length
  short_le : short.length ≤ unreachable
  long_le : long.length ≤ unreachable
  within : long.length ≤ short.length + t

theorem Ready.filling {same : α → α → Bool} {short long : List α} {j : Nat} {b : Buffers}
    (hs : Searchable t short long) (hj : j < long.length)
    (h : Ready (differ same short long) t short.length j b) :
    Filling (differ same short long) t short.length (j + 1)
      (high t short.length (j + 1) + 1)
      (filledBand same short.toArray t (j + 1) long[j] b).1
      (filledBand same short.toArray t (j + 1) long[j] b).2 := by
  have hband := low_le_high hs.pos hs.within hj
  exact Filling.run h.previous hs.short_le hj rfl _ _ _ _ (Nat.le_refl _)
    (by rw [List.size_toArray]; omega) (Filling.start hs.long_le hj hband h.current)

/-- **A ROW THAT ENDS THE SEARCH** is beyond the threshold as a whole. -/
theorem bandRow_none {same : α → α → Bool} {short long : List α} {j : Nat} {b : Buffers}
    (hs : Searchable t short long) (hj : j < long.length)
    (h : Ready (differ same short long) t short.length j b)
    (hnone : bandRow same short.toArray t (j + 1) long[j] b = none) :
    ∀ i, i ≤ short.length → t < gap (differ same short long) i (j + 1) := by
  rw [bandRow_eq (low_le_high hs.pos hs.within hj)] at hnone
  by_cases hleast : t < (filledBand same short.toArray t (j + 1) long[j] b).2
  · exact (h.filling hs hj).lt_gap hs.pos hleast
  · rw [if_neg hleast] at hnone
    exact nomatch hnone

/-- **A ROW OF THE BAND** leaves the buffers ready for the next one. -/
theorem bandRow_some {same : α → α → Bool} {short long : List α} {j : Nat} {b b' : Buffers}
    (hs : Searchable t short long) (hj : j < long.length)
    (h : Ready (differ same short long) t short.length j b)
    (hsome : bandRow same short.toArray t (j + 1) long[j] b = some b') :
    Ready (differ same short long) t short.length (j + 1) b' := by
  rw [bandRow_eq (low_le_high hs.pos hs.within hj)] at hsome
  by_cases hleast : t < (filledBand same short.toArray t (j + 1) long[j] b).2
  · rw [if_pos hleast] at hsome
    exact nomatch hsome
  · rw [if_neg hleast] at hsome
    have hb := Option.some.inj hsome
    subst hb
    -- the buffer of row `j` is written next: right of the later band it is untouched, too
    refine ⟨(h.filling hs hj).finished, h.previous.size, ?_⟩
    intro i hi hright
    exact h.previous.right i hi (by omega)

/-! ## All rows -/

theorem startBuffers_ready (miss : Nat → Nat → Bool) (t n : Nat) :
    Ready miss t n 0 (startBuffers n t) := by
  have hcell : ∀ i, i ≤ n →
      cell (startBuffers n t).previous i = if i < min n t + 1 then i else unreachable := by
    intro i hi
    have hlt : i < n + 1 := Nat.lt_succ_of_le hi
    simp [cell, startBuffers, Array.getD_eq_getD_getElem?, hlt]
  refine ⟨⟨⟨?_, ?_⟩, ?_, ?_⟩, ?_, ?_⟩
  · simp [startBuffers]
  · intro i hi hright
    rw [hcell i hi, if_neg (by omega)]
  · rw [hcell 0 (Nat.zero_le _), if_pos (by omega)]
  · intro i hi _ hhigh
    rw [hcell i hi, if_pos (by omega), gap_zero_right]
    exact Shows.self t i
  · simp [startBuffers]
  · intro i hi _
    simp [cell, startBuffers, Array.getD_eq_getD_getElem?, Nat.lt_succ_of_le hi]

/-- **ALL ROWS OF THE BAND**: the search from row `j` on, up to any later row, ends early
    only if the distance is beyond the threshold, and otherwise finishes its last row. -/
theorem bandRows_spec (same : α → α → Bool) {short long : List α}
    (hs : Searchable t short long) :
    ∀ (ys zs : List α) (j : Nat) (b : Buffers), long.drop j = ys ++ zs →
      Ready (differ same short long) t short.length j b →
      (bandRows same short.toArray t (j + 1) ys b = none →
        t < gap (differ same short long) short.length long.length) ∧
      ∀ b', bandRows same short.toArray t (j + 1) ys b = some b' →
        Ready (differ same short long) t short.length (j + ys.length) b' := by
  intro ys zs
  induction ys with
  | nil =>
      intro j b _ h
      rw [bandRows]
      refine ⟨fun hnone => (nomatch hnone), ?_⟩
      intro b' hsome
      have hb : b = b' := Option.some.inj hsome
      subst hb
      exact h
  | cons y ys ih =>
      intro j b hdrop h
      have hj : j < long.length := by
        rcases Nat.lt_or_ge j long.length with hlt | hge
        · exact hlt
        · rw [List.drop_eq_nil_of_le hge] at hdrop
          exact nomatch hdrop
      rw [List.drop_eq_getElem_cons hj, List.cons_append] at hdrop
      obtain ⟨rfl, hrest⟩ := List.cons.inj hdrop
      rw [bandRows]
      cases hrow : bandRow same short.toArray t (j + 1) long[j] b with
      | none =>
          refine ⟨?_, fun b' hsome => nomatch hsome⟩
          intro _
          -- no path to the last cell leaves the row below the threshold
          have hlater := lt_gap_of_row (bandRow_none hs hj h hrow)
            (long.length - (j + 1)) short.length (Nat.le_refl _)
          rw [Nat.add_sub_cancel' hj] at hlater
          exact hlater
      | some b₁ =>
          have hnext := ih (j + 1) b₁ hrest (bandRow_some hs hj h hrow)
          rw [List.length_cons, Nat.add_comm ys.length 1, ← Nat.add_assoc]
          exact hnext

/-- The first rows leave the buffers ready for the next one. -/
theorem ready_of_take {same : α → α → Bool} {short long : List α} {j : Nat} {b : Buffers}
    (hs : Searchable t short long) (hj : j ≤ long.length)
    (h : bandRows same short.toArray t 1 (long.take j) (startBuffers short.length t) = some b) :
    Ready (differ same short long) t short.length j b := by
  have hready := (bandRows_spec same hs (long.take j) (long.drop j) 0 _
    (List.take_append_drop j long).symm (startBuffers_ready _ _ _)).2 b h
  rw [Nat.zero_add, List.length_take_of_le hj] at hready
  exact hready

/-! ## The distance within the threshold -/

theorem bandDistance?_eq {same : α → α → Bool} {short long : List α}
    (hshort : short.length ≤ long.length) (hlong : long.length ≤ unreachable) :
    bandDistance? same short long t
      = if gap (differ same short long) short.length long.length ≤ t
        then some (gap (differ same short long) short.length long.length) else none := by
  have hfar := le_gap_add (differ same short long) short.length long.length
  rw [bandDistance?]
  by_cases hlen : t < long.length - short.length
  · rw [if_pos hlen, if_neg (by omega)]
  · rw [if_neg hlen]
    cases hempty : short.isEmpty with
    | true =>
        have hnil := List.isEmpty_iff.mp hempty
        subst hnil
        rw [if_pos rfl, List.length_nil, gap_zero_left, if_pos]
        rw [List.length_nil] at hlen
        omega
    | false =>
        have hpos : 0 < short.length := by
          cases short with
          | nil => exact nomatch hempty
          | cons x xs => exact Nat.succ_pos _
        have hs : Searchable t short long := ⟨hpos, by omega, hlong, by omega⟩
        obtain ⟨hnone, hsome⟩ := bandRows_spec same hs long [] 0 _ (List.append_nil long).symm
          (startBuffers_ready _ _ _)
        rw [if_neg Bool.false_ne_true]
        cases hrows : bandRows same short.toArray t 1 long (startBuffers short.length t) with
        | none =>
            have := hnone hrows
            rw [if_neg (by omega)]
        | some b =>
            have hready := hsome b hrows
            rw [Nat.zero_add] at hready
            have hlast := hready.previous.shows (by omega) (Nat.le_refl _) hs.within
            show (if cell b.previous short.length ≤ t
              then some (cell b.previous short.length) else none) = _
            by_cases hd : gap (differ same short long) short.length long.length ≤ t
            · rw [hlast.1 hd]
            · have := hlast.2 (by omega)
              rw [if_neg (by omega), if_neg hd]

/-- The distance within a threshold by the last cell of the table, without a law for the
    test of items: the item of the shorter sequence is asked. -/
theorem distanceWithin?_eq_gap {same : α → α → Bool} {xs ys : List α}
    (hxs : xs.length ≤ unreachable) (hys : ys.length ≤ unreachable) :
    distanceWithin? same xs ys t
      = if ys.length < xs.length then
          if gap (differ same ys xs) ys.length xs.length ≤ t
          then some (gap (differ same ys xs) ys.length xs.length) else none
        else
          if gap (differ same xs ys) xs.length ys.length ≤ t
          then some (gap (differ same xs ys) xs.length ys.length) else none := by
  rw [distanceWithin?]
  by_cases hlt : ys.length < xs.length
  · rw [if_pos hlt, if_pos hlt, bandDistance?_eq (Nat.le_of_lt hlt) hxs]
  · rw [if_neg hlt, if_neg hlt, bandDistance?_eq (Nat.not_lt.mp hlt) hys]

/-- **THE BAND IS EXACT**: the distance within a threshold is the distance, when
    that is within the threshold, and nothing otherwise. -/
theorem distanceWithin?_eq {same : α → α → Bool} {xs ys : List α}
    (hsym : ∀ x ∈ xs, ∀ y ∈ ys, same x y = same y x)
    (hxs : xs.length ≤ unreachable) (hys : ys.length ≤ unreachable) :
    distanceWithin? same xs ys t
      = if distance same xs ys ≤ t then some (distance same xs ys) else none := by
  rw [distanceWithin?_eq_gap hxs hys]
  by_cases h : ys.length < xs.length
  · rw [if_pos h, ← distance_comm hsym, distance_eq_gap (fun y hy x hx => (hsym x hx y hy).symm)]
  · rw [if_neg h, distance_eq_gap hsym]

end Likeness.Edit
