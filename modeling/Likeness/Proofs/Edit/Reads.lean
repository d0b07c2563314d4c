import Likeness.Proofs.Edit.Band
import Likeness.Proofs.Edit.Script

/-! # What the band reads

    Two row buffers take turns and are never cleared, so a cell may hold what a row two
    rows earlier has left there.  To say that nothing of the kind is read, a search is
    watched: its buffers hold with each value where it comes from (`Content`), and what
    is read is written down (`Access`).  A watched search gives what the search gives
    (`watchedRows_values`).

    What a buffer holds is described by where it comes from alone: right of the band
    there are marks from the start (`Clean`), the band and column zero are of one row
    (`Written`), and a row that is being written has a mark or a cell of its own on the
    left (`Partly`).

    The main result is `bandRows_exact_and_fresh`. -/

namespace Likeness.Edit

variable {α : Type} {t n : Nat}

/-! ## A search that is watched -/

/-- What a cell of a buffer holds, and where it comes from. -/
inductive Content where
  /-- The mark of a cell that is out of reach. -/
  | mark
  /-- The value that was written for a column of a row. -/
  | entry (row column value : Nat)
  deriving DecidableEq

def Content.value : Content → Nat
  | .mark => unreachable
  | .entry _ _ value => value

/-- The values of a buffer. -/
def values (row : Array Content) : Array Nat := row.map Content.value

/-- A reading: the row and the column that are asked for, and what is found; outside of
    the buffer nothing is. -/
structure Access where
  row : Nat
  column : Nat
  found : Option Content
  deriving DecidableEq

def Access.value (a : Access) : Nat := a.found.elim unreachable Content.value

/-- Reads a column of a buffer for that of a row. -/
def readAs (j i : Nat) (row : Array Content) : Access := ⟨j, i, row[i]?⟩

/-- A result and what was read for it. -/
structure Watched (β : Type) where
  result : β
  reads : List Access

/-- The value of cell `i` of row `j`. -/
def watchedCell (matched : Bool) (j i : Nat) (previous row : Array Content) : Watched Nat :=
  let diagonal := readAs (j - 1) (i - 1) previous
  if matched then ⟨diagonal.value, [diagonal]⟩
  else
    let left := readAs j (i - 1) row
    let above := readAs (j - 1) i previous
    ⟨1 + min (min left.value above.value) diagonal.value, [left, above, diagonal]⟩

/-- Fills `count` cells of row `j` from cell `i` on, and keeps the least of them. -/
def watchedFill (same : α → α → Bool) (short : Array α) (j : Nat) (y : α)
    (previous : Array Content) :
    (count i : Nat) → (row : Array Content) → (least : Nat) → Watched (Array Content × Nat)
  | 0, _, row, least => ⟨(row, least), []⟩
  | count + 1, i, row, least =>
    let cell := watchedCell ((short[i - 1]?).any (same · y)) j i previous row
    let rest := watchedFill same short j y previous count (i + 1)
      (row.setIfInBounds i (.entry j i cell.result))
      (if cell.result < least then cell.result else least)
    ⟨rest.result, cell.reads ++ rest.reads⟩

/-- The two row buffers. -/
structure WatchedBuffers where
  previous : Array Content
  current : Array Content

def WatchedBuffers.values (b : WatchedBuffers) : Buffers :=
  ⟨Edit.values b.previous, Edit.values b.current⟩

/-- The buffer in which row `j` is begun. -/
def watchedBegun (t j : Nat) (row : Array Content) : Array Content :=
  if 1 < low t j then
    (row.setIfInBounds 0 (.entry j 0 j)).setIfInBounds (low t j - 1) .mark
  else row.setIfInBounds 0 (.entry j 0 j)

/-- A row with the cells of its band filled, and the least of these. -/
def watchedBand (same : α → α → Bool) (short : Array α) (t j : Nat) (y : α)
    (b : WatchedBuffers) : Watched (Array Content × Nat) :=
  watchedFill same short j y b.previous (high t short.size j + 1 - low t j) (low t j)
    (watchedBegun t j b.current) unreachable

/-- How a search ends, and why when it ends early. -/
inductive Ending where
  /-- The band of a row has no cell. -/
  | emptyBand
  /-- All cells of a band are beyond the threshold. -/
  | beyond
  | finished (b : WatchedBuffers)

def Ending.buffers? : Ending → Option Buffers
  | .finished b => some b.values
  | _ => none

/-- The row of the item `y` with number `j`. -/
def watchedRow (same : α → α → Bool) (short : Array α) (t j : Nat) (y : α)
    (b : WatchedBuffers) : Watched Ending :=
  if high t short.size j < low t j then ⟨.emptyBand, []⟩
  else
    let band := watchedBand same short t j y b
    ⟨if t < band.result.2 then .beyond else .finished ⟨band.result.1, b.previous⟩, band.reads⟩

/-- The rows of the items of the longer sequence, the first of which has number `j`. -/
def watchedRows (same : α → α → Bool) (short : Array α) (t : Nat) :
    Nat → List α → WatchedBuffers → Watched Ending
  | _, [], b => ⟨.finished b, []⟩
  | j, y :: ys, b =>
    let row := watchedRow same short t j y b
    match row.result with
    | .finished b =>
      let rest := watchedRows same short t (j + 1) ys b
      ⟨rest.result, row.reads ++ rest.reads⟩
    | ending => ⟨ending, row.reads⟩

/-- The buffers before the first row. -/
def watchedStart (n t : Nat) : WatchedBuffers where
  previous := ((List.range (n + 1)).map fun i =>
    if i < min n t + 1 then Content.entry 0 i i else .mark).toArray
  current := Array.replicate (n + 1) .mark

/-! ## Watching changes nothing -/

theorem readAs_value (j i : Nat) (row : Array Content) :
    (readAs j i row).value = cell (values row) i := by
  rw [cell, values, Array.getD_eq_getD_getElem?, Array.getElem?_map, Access.value, readAs]
  cases row[i]? with
  | none => rfl
  | some c => rfl

theorem values_set (row : Array Content) (i : Nat) (c : Content) :
    values (row.setIfInBounds i c) = (values row).setIfInBounds i c.value :=
  Array.map_setIfInBounds

theorem watchedCell_result (matched : Bool) (j i : Nat) (previous row : Array Content) :
    (watchedCell matched j i previous row).result
      = if matched then cell (values previous) (i - 1)
        else 1 + min (min (cell (values row) (i - 1)) (cell (values previous) i))
          (cell (values previous) (i - 1)) := by
  cases matched with
  | true => exact readAs_value (j - 1) (i - 1) previous
  | false =>
      show 1 + min (min (readAs j (i - 1) row).value (readAs (j - 1) i previous).value)
        (readAs (j - 1) (i - 1) previous).value = _
      rw [readAs_value, readAs_value, readAs_value]
      rfl

theorem watchedFill_values (same : α → α → Bool) (short : Array α) (j : Nat) (y : α)
    (previous : Array Content) :
    ∀ (count i : Nat) (row : Array Content) (least : Nat),
      (values (watchedFill same short j y previous count i row least).result.1,
        (watchedFill same short j y previous count i row least).result.2)
        = fill same short y (values previous) count i (values row) least := by
  intro count
  induction count with
  | zero => exact fun i row least => rfl
  | succ count ih =>
      intro i row least
      rw [watchedFill, fill, ih, watchedCell_result, values_set]
      rfl

theorem watchedBegun_values (t j : Nat) (row : Array Content) :
    values (watchedBegun t j row) = begun t j (values row) := by
  rw [watchedBegun, begun]
  by_cases hlow : 1 < low t j
  · rw [if_pos hlow, if_pos hlow, values_set, values_set]
    rfl
  · rw [if_neg hlow, if_neg hlow, values_set]
    rfl

theorem watchedBand_values (same : α → α → Bool) (short : Array α) (t j : Nat) (y : α)
    (b : WatchedBuffers) :
    (values (watchedBand same short t j y b).result.1, (watchedBand same short t j y b).result.2)
      = filledBand same short t j y b.values := by
  rw [watchedBand, watchedFill_values, watchedBegun_values]
  rfl

theorem watchedRow_values (same : α → α → Bool) (short : Array α) (t j : Nat) (y : α)
    (b : WatchedBuffers) :
    (watchedRow same short t j y b).result.buffers? = bandRow same short t j y b.values := by
  by_cases hband : high t short.size j < low t j
  · rw [watchedRow, if_pos hband]
    exact (if_pos hband).symm
  · rw [watchedRow, if_neg hband, bandRow_eq (Nat.not_lt.mp hband), ← watchedBand_values]
    show (if t < (watchedBand same short t j y b).result.2 then Ending.beyond
      else .finished ⟨(watchedBand same short t j y b).result.1, b.previous⟩).buffers? = _
    split
    · rfl
    · rfl

/-- **WATCHING CHANGES NOTHING**: a watched search gives the buffers that the search gives. -/
theorem watchedRows_values (same : α → α → Bool) (short : Array α) (t : Nat) (ys : List α) :
    ∀ (j : Nat) (b : WatchedBuffers),
      (watchedRows same short t j ys b).result.buffers?
        = bandRows same short t j ys b.values := by
  induction ys with
  | nil => exact fun j b => rfl
  | cons y ys ih =>
      intro j b
      rw [watchedRows, bandRows, ← watchedRow_values]
      cases (watchedRow same short t j y b).result with
      | emptyBand => rfl
      | beyond => rfl
      | finished b' => exact ih (j + 1) b'

theorem watchedStart_values (n t : Nat) : (watchedStart n t).values = startBuffers n t := by
  have hprevious : values (watchedStart n t).previous = (startBuffers n t).previous := by
    rw [watchedStart, startBuffers, values, List.map_toArray, List.map_map]
    congr 1
    refine List.map_congr_left fun i _ => ?_
    show Content.value (if i < min n t + 1 then .entry 0 i i else .mark) = _
    split
    · rfl
    · rfl
  have hcurrent : values (watchedStart n t).current = (startBuffers n t).current :=
    Array.map_replicate
  rw [WatchedBuffers.values, hprevious, hcurrent]

/-! ## Where the contents come from -/

/-- What is read for a column of a row is a mark, or it was written for that column of that
    row, which is column zero or in the band. -/
def Access.Fresh (t n : Nat) (a : Access) : Prop :=
  a.found = some .mark ∨
    ∃ v, a.found = some (.entry a.row a.column v) ∧
      (a.column = 0 ∨ low t a.row ≤ a.column ∧ a.column ≤ high t n a.row)

/-- A buffer with the marks from the start right of the band of row `j`. -/
structure Clean (t n j : Nat) (row : Array Content) : Prop where
  size : row.size = n + 1
  right : ∀ i, i ≤ n → j + t < i → row[i]? = some .mark

/-- A buffer that holds row `j` in column zero and in the band. -/
structure Written (t n j : Nat) (row : Array Content) : Prop extends Clean t n j row where
  first : ∃ v, row[0]? = some (.entry j 0 v)
  band : ∀ i, i ≤ n → j ≤ i + t → i ≤ j + t → ∃ v, row[i]? = some (.entry j i v)

/-- A buffer into which row `j` has been written up to cell `i`. -/
structure Partly (t n j i : Nat) (row : Array Content) : Prop extends Clean t n j row where
  first : ∃ v, row[0]? = some (.entry j 0 v)
  left : (readAs j (i - 1) row).Fresh t n
  band : ∀ k, low t j ≤ k → k < i → ∃ v, row[k]? = some (.entry j k v)

theorem getElem?_set_self {row : Array Content} {i : Nat} {c : Content} (h : i < row.size) :
    (row.setIfInBounds i c)[i]? = some c := by
  rw [Array.getElem?_setIfInBounds_self, if_pos h]

theorem getElem?_set_ne {row : Array Content} {i k : Nat} {c : Content} (h : k ≠ i) :
    (row.setIfInBounds i c)[k]? = row[k]? :=
  Array.getElem?_setIfInBounds_ne (Ne.symm h)

theorem Clean.set {j i : Nat} {c : Content} {row : Array Content} (h : Clean t n j row)
    (hi : i ≤ j + t) : Clean t n j (row.setIfInBounds i c) := by
  refine ⟨?_, ?_⟩
  · rw [Array.size_setIfInBounds]
    exact h.size
  · intro k hk hright
    rw [getElem?_set_ne (by omega)]
    exact h.right k hk hright

/-- Column zero of a row is fresh. -/
theorem fresh_first {j : Nat} {row : Array Content} (h : ∃ v, row[0]? = some (.entry j 0 v)) :
    (readAs j 0 row).Fresh t n := by
  obtain ⟨v, hv⟩ := h
  exact .inr ⟨v, hv, .inl rfl⟩

/-- What the next row reads of a row is fresh: its band, the cell right of that, and column
    zero when the band begins next to it. -/
theorem Written.fresh {i j : Nat} {row : Array Content} (h : Written t n j row) (hi : i ≤ n)
    (hlow : j ≤ i + t) : (readAs j i row).Fresh t n := by
  by_cases hhigh : i ≤ j + t
  · cases i with
    | zero => exact fresh_first h.first
    | succ i =>
        obtain ⟨v, hv⟩ := h.band (i + 1) hi hlow hhigh
        refine .inr ⟨v, hv, .inr ?_⟩
        show low t j ≤ i + 1 ∧ i + 1 ≤ high t n j
        rw [low, high]
        omega
  · exact .inl (h.right i hi (by omega))

/-! ## One row -/

/-- What a cell reads is fresh. -/
theorem watchedCell_fresh {i j : Nat} {previous row : Array Content} (matched : Bool)
    (hprev : Written t n j previous) (hlow : low t (j + 1) ≤ i)
    (hhigh : i ≤ high t n (j + 1)) (h : (readAs (j + 1) (i - 1) row).Fresh t n) :
    ∀ a ∈ (watchedCell matched (j + 1) i previous row).reads, a.Fresh t n := by
  have hi : j ≤ i - 1 + t ∧ i ≤ n := by
    rw [low] at hlow
    rw [high] at hhigh
    omega
  have hdiagonal : (readAs j (i - 1) previous).Fresh t n := hprev.fresh (by omega) hi.1
  -- above the last cell of the band the row above it has a mark
  have habove : (readAs j i previous).Fresh t n := hprev.fresh hi.2 (by omega)
  intro a ha
  cases matched with
  | true =>
      have heq : a = readAs j (i - 1) previous := List.mem_singleton.mp ha
      rw [heq]
      exact hdiagonal
  | false =>
      have hmem : a ∈ [readAs (j + 1) (i - 1) row, readAs j i previous,
        readAs j (i - 1) previous] := ha
      rcases List.mem_cons.mp hmem with rfl | hmem
      · exact h
      · rcases List.mem_cons.mp hmem with rfl | hmem
        · exact habove
        · rw [List.mem_singleton.mp hmem]
          exact hdiagonal

/-- One more cell of a band. -/
theorem Partly.step {i j v : Nat} {row : Array Content} (hlow : low t j ≤ i)
    (hhigh : i ≤ high t n j) (h : Partly t n j i row) :
    Partly t n j (i + 1) (row.setIfInBounds i (.entry j i v)) := by
  have hi : 1 ≤ i ∧ i ≤ n ∧ i ≤ j + t := by
    rw [low] at hlow
    rw [high] at hhigh
    omega
  have hset : (row.setIfInBounds i (.entry j i v))[i]? = some (.entry j i v) :=
    getElem?_set_self (by rw [h.size]; omega)
  refine ⟨h.toClean.set hi.2.2, ?_, ?_, ?_⟩
  · rw [getElem?_set_ne (by omega)]
    exact h.first
  · rw [Nat.add_sub_cancel]
    exact .inr ⟨v, hset, .inr ⟨hlow, hhigh⟩⟩
  · intro k hk hlt
    by_cases heq : k = i
    · rw [heq]
      exact ⟨v, hset⟩
    · rw [getElem?_set_ne heq]
      exact h.band k hk (by omega)

/-- All cells of a band. -/
theorem Partly.run {j : Nat} {previous : Array Content} (same : α → α → Bool)
    (short : Array α) (y : α) (hprev : Written t n j previous) :
    ∀ (count i : Nat) (row : Array Content) (least : Nat),
      low t (j + 1) ≤ i → i + count = high t n (j + 1) + 1 → Partly t n (j + 1) i row →
      Partly t n (j + 1) (high t n (j + 1) + 1)
        (watchedFill same short (j + 1) y previous count i row least).result.1 ∧
      ∀ a ∈ (watchedFill same short (j + 1) y previous count i row least).reads,
        a.Fresh t n := by
  intro count
  induction count with
  | zero =>
      intro i row least _ hcount h
      rw [Nat.add_zero] at hcount
      rw [← hcount]
      exact ⟨h, fun a ha => absurd ha List.not_mem_nil⟩
  | succ count ih =>
      intro i row least hlow hcount h
      obtain ⟨hrow, hreads⟩ := ih (i + 1) _ _ (by omega) (by omega)
        (h.step hlow (by omega))
      refine ⟨hrow, ?_⟩
      intro a ha
      rcases List.mem_append.mp ha with hcell | hrest
      · exact watchedCell_fresh _ hprev hlow (by omega) h.left a hcell
      · exact hreads a hrest

theorem Partly.start {j : Nat} {row : Array Content} (hband : low t j ≤ high t n j)
    (h : Clean t n j row) : Partly t n j (low t j) (watchedBegun t j row) := by
  have hsize : 0 < row.size := by
    rw [h.size]
    omega
  have hclean : Clean t n j (row.setIfInBounds 0 (.entry j 0 j)) := h.set (Nat.zero_le _)
  have hfirst : (row.setIfInBounds 0 (.entry j 0 j))[0]? = some (.entry j 0 j) :=
    getElem?_set_self hsize
  by_cases hlow : 1 < low t j
  · have hin : low t j - 1 < (row.setIfInBounds 0 (.entry j 0 j)).size := by
      rw [hclean.size]
      rw [high] at hband
      omega
    have hleft : low t j - 1 ≤ j + t := by
      rw [low]
      omega
    rw [watchedBegun, if_pos hlow]
    -- the mark stands where the row two rows earlier may have written its first cell
    refine ⟨hclean.set hleft, ?_, .inl (getElem?_set_self hin), fun k hk hlt => ?_⟩
    · rw [getElem?_set_ne (by omega)]
      exact ⟨j, hfirst⟩
    · omega
  · have heq : low t j = 1 := by
      rw [low] at hlow ⊢
      omega
    rw [watchedBegun, if_neg hlow, heq]
    exact ⟨hclean, ⟨j, hfirst⟩, fresh_first ⟨j, hfirst⟩, fun k hk hlt => by omega⟩

/-- A band that has been written is a written row. -/
theorem Partly.written {j : Nat} {row : Array Content}
    (h : Partly t n j (high t n j + 1) row) : Written t n j row := by
  refine ⟨h.toClean, h.first, ?_⟩
  intro i hi hlow hhigh
  cases i with
  | zero => exact h.first
  | succ i =>
      refine h.band (i + 1) ?_ ?_
      · rw [low]
        omega
      · rw [high]
        omega

/-- The buffers before row `j + 1`: row `j` is written, and the other buffer has marks right
    of the band to come. -/
structure Marked (t n j : Nat) (b : WatchedBuffers) : Prop where
  previous : Written t n j b.previous
  current : Clean t n (j + 1) b.current

/-- **A WATCHED BAND** is written as a whole, and what it reads is fresh. -/
theorem Marked.band {j : Nat} {b : WatchedBuffers} (same : α → α → Bool) (short : Array α)
    (y : α) (hband : low t (j + 1) ≤ high t short.size (j + 1))
    (h : Marked t short.size j b) :
    Written t short.size (j + 1) (watchedBand same short t (j + 1) y b).result.1 ∧
      ∀ a ∈ (watchedBand same short t (j + 1) y b).reads, a.Fresh t short.size := by
  have hcount : low t (j + 1) + (high t short.size (j + 1) + 1 - low t (j + 1))
      = high t short.size (j + 1) + 1 := Nat.add_sub_cancel' (Nat.le_succ_of_le hband)
  obtain ⟨hrow, hreads⟩ := Partly.run same short y h.previous _ _ _ unreachable
    (Nat.le_refl _) hcount (Partly.start hband h.current)
  exact ⟨hrow.written, hreads⟩

/-! ## All rows -/

theorem watchedStart_marked (t n : Nat) : Marked t n 0 (watchedStart n t) := by
  have hcontent : ∀ i, i ≤ n → (watchedStart n t).previous[i]?
      = some (if i < min n t + 1 then .entry 0 i i else .mark) := by
    intro i hi
    simp [watchedStart, Nat.lt_succ_of_le hi]
  refine ⟨⟨⟨?_, ?_⟩, ?_, ?_⟩, ?_, ?_⟩
  · simp [watchedStart]
  · intro i hi hright
    rw [hcontent i hi, if_neg (by omega)]
  · rw [hcontent 0 (Nat.zero_le _), if_pos (by omega)]
    exact ⟨0, rfl⟩
  · intro i hi _ hhigh
    rw [hcontent i hi, if_pos (by omega)]
    exact ⟨i, rfl⟩
  · simp [watchedStart]
  · intro i hi _
    simp [watchedStart, Nat.lt_succ_of_le hi]

/-- **NO ROW READS A LEFTOVER**: from row `j` on a search never meets an empty band, and what
    it reads is fresh. -/
theorem watchedRows_fresh (same : α → α → Bool) {short : Array α} (hpos : 0 < short.size)
    (ys : List α) :
    ∀ (j : Nat) (b : WatchedBuffers), j + ys.length ≤ short.size + t →
      Marked t short.size j b →
      (watchedRows same short t (j + 1) ys b).result ≠ .emptyBand ∧
      ∀ a ∈ (watchedRows same short t (j + 1) ys b).reads, a.Fresh t short.size := by
  induction ys with
  | nil =>
      intro j b _ _
      exact ⟨fun h => (nomatch h), fun a ha => absurd ha List.not_mem_nil⟩
  | cons y ys ih =>
      intro j b hfit h
      rw [List.length_cons] at hfit
      have hband : low t (j + 1) ≤ high t short.size (j + 1) :=
        low_le_high hpos (by omega) (Nat.lt_succ_self j)
      obtain ⟨hrow, hreads⟩ := h.band same short y hband
      rw [watchedRows, watchedRow, if_neg (Nat.not_lt.mpr hband)]
      by_cases hleast : t < (watchedBand same short t (j + 1) y b).result.2
      · simp only [if_pos hleast]
        exact ⟨fun h => (nomatch h), hreads⟩
      · -- the buffer of row `j` is written next: its marks right of the later band are left
        have hnext : Marked t short.size (j + 1)
            ⟨(watchedBand same short t (j + 1) y b).result.1, b.previous⟩ :=
          ⟨hrow, h.previous.size, fun i hi hright => h.previous.right i hi (by omega)⟩
        obtain ⟨hending, hrest⟩ := ih (j + 1) _ (by omega) hnext
        simp only [if_neg hleast]
        refine ⟨hending, ?_⟩
        intro a ha
        rcases List.mem_append.mp ha with hin | hin
        · exact hreads a hin
        · exact hrest a hin

/-- The cells of the band of row `j` show the distances of the prefixes in front of them. -/
def ExactBand (same : α → α → Bool) (short long : List α) (t j : Nat) (row : Array Nat) : Prop :=
  ∀ i, low t j ≤ i → i ≤ high t short.length j →
    ∃ d, IsLeast (Set.range (Script.cost : Script same (short.take i) (long.take j) → Nat)) d ∧
      Shows t d (cell row i)

theorem Filling.exact {same : α → α → Bool} {short long : List α} {j least : Nat}
    {row : Array Nat} (hj : j ≤ long.length)
    (h : Filling (differ same short long) t short.length j (high t short.length j + 1) row
      least) : ExactBand same short long t j row := by
  intro i hlow hhigh
  have hi : i ≤ short.length := Nat.le_trans hhigh (Nat.min_le_left _ _)
  exact ⟨_, gap_take_isLeast same hi hj, h.band i hlow (Nat.lt_succ_of_le hhigh)⟩

/-- **THE BAND IS EXACT AND READS NO LEFTOVER**: when the lengths differ by no more than the
    threshold and the shorter sequence has an item, then in every row that is reached the
    band is filled with the distances up to the threshold, whether the search goes on from
    there or not; no row has an empty band; and all that is read on the way is column zero,
    a cell of the band of the very row that is asked for, or a mark. -/
theorem bandRows_exact_and_fresh (same : α → α → Bool) (short long : List α) (t : Nat)
    (hpos : 0 < short.length) (hle : short.length ≤ long.length)
    (hlong : long.length ≤ unreachable) (hwithin : long.length - short.length ≤ t) :
    (∀ (j : Nat) (hj : j < long.length) (b : Buffers),
      bandRows same short.toArray t 1 (long.take j) (startBuffers short.length t) = some b →
      let band := filledBand same short.toArray t (j + 1) long[j] b
      bandRow same short.toArray t (j + 1) long[j] b
          = (if t < band.2 then none else some ⟨band.1, b.previous⟩) ∧
        ExactBand same short long t (j + 1) band.1) ∧
    (watchedRows same short.toArray t 1 long (watchedStart short.length t)).result.buffers?
      = bandRows same short.toArray t 1 long (startBuffers short.length t) ∧
    (watchedRows same short.toArray t 1 long (watchedStart short.length t)).result
      ≠ .emptyBand ∧
    ∀ a ∈ (watchedRows same short.toArray t 1 long (watchedStart short.length t)).reads,
      a.Fresh t short.length := by
  have hs : Searchable t short long := ⟨hpos, by omega, hlong, by omega⟩
  refine ⟨?_, ?_, ?_⟩
  · intro j hj b hrows
    have hready := ready_of_take hs (Nat.le_of_lt hj) hrows
    exact ⟨bandRow_eq (low_le_high hs.pos hs.within hj), (hready.filling hs hj).exact hj⟩
  · rw [watchedRows_values, watchedStart_values]
  · have hfit : 0 + long.length ≤ short.toArray.size + t := by
      rw [Nat.zero_add, List.size_toArray]
      exact hs.within
    exact watchedRows_fresh same hpos long 0 _ hfit (watchedStart_marked t short.length)

/-- In the fourth row a mark is found where row two has written. -/
theorem bandRows_exact_and_fresh_four :
    let same : Nat → Nat → Bool := fun x y => x == y
    let short := [1, 2, 3, 4]
    let long := [1, 5, 6, 4]
    let search := watchedRows same short.toArray 2 1 long (watchedStart 4 2)
    0 < short.length ∧ short.length ≤ long.length ∧ long.length ≤ unreachable ∧
    long.length - short.length ≤ 2 ∧
    (∃ b, bandRows same short.toArray 2 1 (long.take 3) (startBuffers 4 2) = some b ∧
      ExactBand same short long 2 4 (filledBand same short.toArray 2 4 4 b).1) ∧
    search.result ≠ .emptyBand ∧ (∀ a ∈ search.reads, a.Fresh 2 4) ∧
    ⟨2, 1, some (.entry 2 1 1)⟩ ∈ search.reads ∧ ⟨4, 1, some .mark⟩ ∈ search.reads := by
  intro same short long search
  have hlong : long.length ≤ unreachable := by decide
  obtain ⟨hrows, -, hending, hreads⟩ := bandRows_exact_and_fresh same short long 2
    (by decide) (by decide) hlong (by decide)
  obtain ⟨b, hb⟩ : ∃ b, bandRows same short.toArray 2 1 (long.take 3) (startBuffers 4 2) = some b :=
    Option.isSome_iff_exists.mp (by decide +kernel)
  refine ⟨by decide, by decide, hlong, by decide, ⟨b, hb, (hrows 3 (by decide) b hb).2⟩,
    hending, hreads, ?_, ?_⟩
  · decide +kernel
  · decide +kernel

end Likeness.Edit
