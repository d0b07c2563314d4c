import Likeness.Matrix
import Likeness.Metric.Positional
import Likeness.Metric.Registry
import Likeness.Proofs.Metric.Builtin
import Likeness.Proofs.Metric.Order
import Likeness.Proofs.Results
import Likeness.Proofs.Scalar.DoubleRounds
import Likeness.Proofs.Scalar.Values
import Mathlib.Data.Rat.Floor

/-! # A mirrored matrix is a whole one

    For a symmetric metric only the cells on and right of the diagonal are
    computed.  `complete_upperRows` says that the mirrored matrix is the one in
    which every cell is computed, down to the first fault that is met.

    The main result is `pairwise_texts`: the matrix of a built-in metric holds
    the score of every pair of texts, in both orders.

    The direction of a metric decides what a cell holds, whatever the score is.  Of the
    built-in metrics every distance is an integer.  A metric that is registered may give
    another one, and then the matrix keeps the integer next to it towards zero
    (`pairwise_loses_fractions`). -/

namespace Likeness.Matrix

variable {K : Type} [Scalar K]

/-! ## Mirroring -/

/-- **A MIRRORED MATRIX IS A WHOLE ONE**: when no cell depends on the order of its
    items, completing the rows right of the diagonal gives every cell, or the
    same fault. -/
theorem complete_upperRows {m : Metric K} :
    ∀ {items : List Value}, (∀ a ∈ items, ∀ b ∈ items, cell m a b = cell m b a) →
      (upperRows m items).map complete = items.mapM fun a => items.mapM (cell m a) := by
  intro items
  induction items with
  | nil =>
      intro _
      rfl
  | cons x xs ih =>
      intro hsymm
      rw [upperRows]
      cases hrow : (x :: xs).mapM (cell m x) with
      | error e =>
          rw [mapM_cons_error xs hrow]
          rfl
      | ok row =>
          obtain ⟨corner, tail, hcorner, htail, rfl⟩ := mapM_cons_eq_ok hrow
          have hrest := ih (fun a ha b hb => hsymm a (List.mem_cons_of_mem _ ha) b
            (List.mem_cons_of_mem _ hb))
          have hcolumn : xs.mapM (fun a => cell m a x) = .ok tail := by
            rw [← htail]
            exact mapM_congr fun a ha => hsymm a (List.mem_cons_of_mem _ ha) x List.mem_cons_self
          have hfront := mapM_front (h := fun a => (x :: xs).mapM (cell m a))
            (g := fun a => xs.mapM (cell m a)) (fun a c hc => mapM_cons_ok xs hc) hcolumn
          rw [mapM_cons_ok xs hrow, hfront, ← hrest]
          cases upperRows m xs with
          | error e => rfl
          | ok rows => rfl

/-- When no cell of a symmetric metric depends on the order of its texts, the matrix is the one
    in which every cell is computed. -/
theorem pairwise_eq_cells {m : Metric K} {items : List String}
    (hcomm : m.symmetric = true → ∀ s ∈ items, ∀ t ∈ items,
      cell m (.text s) (.text t) = cell m (.text t) (.text s)) :
    pairwise m (items.map .text)
      = (items.map .text).mapM fun a => (items.map .text).mapM (cell m a) := by
  rw [pairwise]
  cases hsymm : m.symmetric with
  | false => rfl
  | true =>
      refine complete_upperRows ?_
      intro a ha b hb
      obtain ⟨s, hs, rfl⟩ := List.mem_map.mp ha
      obtain ⟨t, ht, rfl⟩ := List.mem_map.mp hb
      exact hcomm hsymm s hs t ht

/-- A matrix whose cells are all found is found. -/
theorem exists_pairwise {m : Metric K} {items : List Value}
    (h : ∀ a ∈ items, ∀ b ∈ items, ∃ c, cell m a b = .ok c) :
    ∃ rows, pairwise m items = .ok rows := by
  unfold pairwise
  split_ifs
  · -- Each row ends where the first row does, so it is found as that is.
    suffices ∃ rows, upperRows m items = .ok rows by
      obtain ⟨rows, hrows⟩ := this
      exact ⟨complete rows, by rw [hrows]; rfl⟩
    induction items with
    | nil => exact ⟨[], rfl⟩
    | cons x xs ih =>
        obtain ⟨row, hfirst⟩ := exists_mapM (h x List.mem_cons_self)
        obtain ⟨rest, hrest⟩ := ih fun a ha b hb =>
          h a (List.mem_cons_of_mem x ha) b (List.mem_cons_of_mem x hb)
        refine ⟨row :: rest, ?_⟩
        rw [upperRows, hfirst, hrest]
        rfl
  · exact exists_mapM fun a ha => exists_mapM (h a ha)

/-- The matrix whose cells are known, in both orders. -/
theorem pairwise_of_cells {m : Metric K} {items : List String} {f : String → String → Score K}
    (hcomm : ∀ s t, f s t = f t s)
    (hcell : ∀ s ∈ items, ∀ t ∈ items, cell m (.text s) (.text t) = .ok (f s t)) :
    pairwise m (items.map .text) = .ok (items.map fun s => items.map fun t => f s t) := by
  have hall : ((items.map .text).mapM fun a => (items.map .text).mapM (cell m a))
      = .ok (items.map fun s => items.map fun t => f s t) := by
    simp only [List.mapM_map]
    refine mapM_ok fun s hs => ?_
    exact mapM_ok fun t ht => hcell s hs t ht
  rw [← hall]
  refine pairwise_eq_cells fun _ s hs t ht => ?_
  rw [hcell s hs t ht, hcell t ht s hs, hcomm]

/-! ## What a cell holds -/

omit [Scalar K] in
/-- An integer of 64 bits is held. -/
theorem heldInteger_of_natAbs {n : Int} (hn : n.natAbs ≤ Edit.unreachable) :
    heldInteger n = .ok (.whole n : Score K) := by
  have hmost : (Edit.unreachable : Int) + 1 = twoTo 63 := by decide
  exact if_pos (by omega)

/-- A matrix of distances holds an integer of 64 bits. -/
theorem held_whole {n : Int} (hn : n.natAbs ≤ Edit.unreachable) :
    held false (.whole n : Score K) = .ok (.whole n) :=
  heldInteger_of_natAbs hn

/-- A matrix of integers that a symmetric distance fills. -/
theorem pairwise_whole {m : Metric K} (hm : m.higherIsBetter = false) {items : List String}
    {score : String → String → Int} (hcomm : ∀ s t, score s t = score t s)
    (hscore : ∀ s ∈ items, ∀ t ∈ items, m.score (.text s) (.text t) = .ok (.whole (score s t)) ∧
      (score s t).natAbs ≤ Edit.unreachable) :
    pairwise m (items.map .text)
      = .ok (items.map fun s => items.map fun t => .whole (score s t)) := by
  refine pairwise_of_cells (fun s t => by rw [hcomm]) fun s hs t ht => ?_
  obtain ⟨hfound, hsize⟩ := hscore s hs t ht
  rw [cell, hfound, hm]
  exact held_whole hsize

/-! ## The matrix of a built-in metric -/

/-- A cell holds a score: as it is, or an integer as the number of the formulas that
    it is. -/
def Holds (c s : Score K) : Prop :=
  c = s ∨ ∃ n x, s = .whole n ∧ Scalar.ofInt? n = some x ∧ c = .real x

/-- A score that a matrix of its direction can hold is held by its cell. -/
theorem held_of_score (hint : Scalar.HoldsIntegers K) {higherIsBetter : Bool} {s : Score K}
    (hs : higherIsBetter = false → ∃ n : Int, s = .whole n ∧ n.natAbs ≤ Edit.unreachable) :
    ∃ c, held higherIsBetter s = .ok c ∧ Holds c s := by
  cases higherIsBetter with
  | false =>
      obtain ⟨n, rfl, hn⟩ := hs rfl
      exact ⟨_, held_whole hn, Or.inl rfl⟩
  | true =>
      cases s with
      | real x => exact ⟨_, rfl, Or.inl rfl⟩
      | whole n =>
          obtain ⟨x, hx⟩ := hint n
          refine ⟨.real x, ?_, Or.inr ⟨n, x, rfl, hx, rfl⟩⟩
          show (Scalar.ofInt? n).elim _ _ = _
          rw [hx]
          rfl

/-- The matrix of a built-in metric is the one in which every cell is computed. -/
theorem pairwise_eq_mapM {m : Metric K} (hm : m.Builtin) (hadd : ∀ x y : K, x + y = y + x)
    {items : List String} (hlen : ∀ s ∈ items, s.toList.length ≤ Edit.unreachable) :
    pairwise m (items.map .text)
      = (items.map .text).mapM fun a => (items.map .text).mapM (cell m a) := by
  refine pairwise_eq_cells fun hsymm s hs t ht => ?_
  rw [cell, cell, hm.score_comm hsymm hadd (hlen s hs) (hlen t ht)]

/-- The cell of two texts holds their score. -/
theorem cell_holds {m : Metric K} (hm : m.Builtin) (hint : Scalar.HoldsIntegers K) {s t : String}
    (hs : s.toList.length ≤ Edit.unreachable) (ht : t.toList.length ≤ Edit.unreachable) :
    ∃ c, cell m (.text s) (.text t) = .ok c ∧
      ∃ score, m.score (.text s) (.text t) = .ok score ∧ Holds c score := by
  obtain ⟨score, hscore, hwhole⟩ := hm.score_total hint hs ht
  obtain ⟨c, hc, hholds⟩ := held_of_score hint hwhole
  refine ⟨c, ?_, score, hscore, hholds⟩
  rw [cell, hscore]
  exact hc

/-- **THE MATRIX OF TEXTS IS COMPLETE**: the matrix of a built-in metric is the one in
    which every cell is computed, in any arithmetic in which sums do not depend on the
    order of their terms.  Where integers are numbers of the formulas it is found, it is
    square, and it holds the score of every item against every item, in both orders.  No
    text is longer than the largest size there is, which marks unreached cells. -/
theorem pairwise_texts {m : Metric K} (hm : m.Builtin) (hadd : ∀ x y : K, x + y = y + x)
    (items : List String) (hlen : ∀ s ∈ items, s.toList.length ≤ Edit.unreachable) :
    pairwise m (items.map .text)
        = ((items.map .text).mapM fun a => (items.map .text).mapM (cell m a)) ∧
      (Scalar.HoldsIntegers K → ∃ rows, pairwise m (items.map .text) = .ok rows ∧
        rows.length = items.length ∧
        ∀ (i : Nat) (hi : i < items.length), ∃ row, rows[i]? = some row ∧
          row.length = items.length ∧
          ∀ (j : Nat) (hj : j < items.length), ∃ c, row[j]? = some c ∧
            ∃ score, m.score (.text items[i]) (.text items[j]) = .ok score ∧ Holds c score) := by
  have hwhole := pairwise_eq_mapM hm hadd hlen
  refine ⟨hwhole, fun hint => ?_⟩
  have hrow : ∀ s ∈ items, ∃ row, (items.map .text).mapM (cell m (.text s)) = .ok row ∧
      List.Forall₂ (fun t c => ∃ score, m.score (.text s) (.text t) = .ok score ∧ Holds c score)
        items row := by
    intro s hs
    rw [List.mapM_map]
    exact mapM_total fun t ht => cell_holds hm hint (hlen s hs) (hlen t ht)
  obtain ⟨rows, hrows, hall⟩ := mapM_total hrow
  refine ⟨rows, ?_, hall.length_eq.symm, ?_⟩
  · rw [hwhole, List.mapM_map]
    exact hrows
  · intro i hi
    obtain ⟨row, hget, hcells⟩ := getElem?_of_forall₂ hall hi
    exact ⟨row, hget, hcells.length_eq.symm, fun j hj => getElem?_of_forall₂ hcells hj⟩

/-- The mirrored cell of two of three words, by the Jaro-Winkler similarity over exact
    fractions. -/
theorem pairwise_texts_winkler :
    let m : Metric Rat := .jaroWinkler ⟨⟨.real (1 / 10), "0.1"⟩, ⟨.whole 4, "4"⟩⟩
    ∃ rows, pairwise m (["martha", "marhta", ""].map .text) = .ok rows ∧ rows.length = 3 ∧
      ∃ row c, rows[1]? = some row ∧ row[0]? = some c ∧
        ∃ score, m.score (.text "marhta") (.text "martha") = .ok score ∧ Holds c score := by
  intro m
  have hcheck : (⟨⟨.real (1 / 10), "0.1"⟩, ⟨.whole 4, "4"⟩⟩ : Match.Boost Rat).check = .ok () := by
    decide +kernel
  have hlen : ∀ s ∈ ["martha", "marhta", ""], s.toList.length ≤ Edit.unreachable := by decide
  obtain ⟨-, hfound⟩ := pairwise_texts (.winkler hcheck) Rat.add_comm _ hlen
  obtain ⟨rows, hrows, hsize, hcells⟩ := hfound fun n => ⟨n, Scalar.ofInt?_fraction n⟩
  obtain ⟨row, hrow, -, hcell⟩ := hcells 1 (by decide)
  obtain ⟨c, hc, hscore⟩ := hcell 0 (by decide)
  exact ⟨rows, hrows, hsize, row, c, hrow, hc, hscore⟩

/-! ## Fractions in a matrix -/

/-- A fraction rounded towards zero. -/
def towardsZero (a : ℚ) : ℤ := if 0 ≤ a then ⌊a⌋ else ⌈a⌉

theorem towardsZero_intCast (n : ℤ) : towardsZero n = n := by
  rw [towardsZero, Int.floor_intCast, Int.ceil_intCast, ite_self]

theorem truncate_denotes {x : K} {a : ℚ} (h : Scalar.Denotes x a) :
    Scalar.truncate x = towardsZero a := by
  obtain ⟨num, den, hexact, hden, rfl⟩ := h
  have hpos : (0 : ℚ) < den := by exact_mod_cast hden
  rw [Scalar.truncate, hexact, towardsZero]
  show Int.tdiv num den = _
  by_cases hnum : 0 ≤ num
  · have hquotient : 0 ≤ (num : ℚ) / den := div_nonneg (by exact_mod_cast hnum) hpos.le
    rw [if_pos hquotient, Rat.floor_intCast_div_natCast, Int.tdiv_eq_ediv_of_nonneg hnum]
  · have hneg : (num : ℚ) < 0 := by exact_mod_cast not_le.mp hnum
    have hquotient : ¬ 0 ≤ (num : ℚ) / den := not_le.mpr (div_neg_of_neg_of_pos hneg hpos)
    rw [if_neg hquotient, Rat.ceil_intCast_div_natCast, ← Int.tdiv_eq_ediv_of_nonneg (by omega),
      Int.neg_tdiv, neg_neg]

theorem abs_towardsZero_le (a : ℚ) : |(towardsZero a : ℚ)| ≤ |a| := by
  rw [towardsZero]
  split_ifs with ha
  · have hfloor : (0 : ℚ) ≤ ⌊a⌋ := by exact_mod_cast Int.floor_nonneg.mpr ha
    rw [abs_of_nonneg hfloor, abs_of_nonneg ha]
    exact Int.floor_le a
  · have hneg : a ≤ 0 := (not_le.mp ha).le
    have hceil : (⌈a⌉ : ℚ) ≤ 0 := by exact_mod_cast Int.ceil_le.mpr (by exact_mod_cast hneg)
    rw [abs_of_nonpos hceil, abs_of_nonpos hneg]
    exact neg_le_neg (Int.le_ceil a)

theorem towardsZero_of_small {a : ℚ} (h : |a| < 1) : towardsZero a = 0 := by
  have hinteger : |(towardsZero a : ℚ)| < 1 := (abs_towardsZero_le a).trans_lt h
  exact Int.abs_lt_one_iff.mp (by exact_mod_cast hinteger)

/-- A matrix of distances holds the integer next to a fraction, if there is room for it. -/
theorem held_fraction {x : K} {a : ℚ} (h : Scalar.Denotes x a) (hsize : |a| < 2 ^ 63) :
    held false (.real x) = .ok (.whole (towardsZero a)) := by
  have hinteger : |(towardsZero a : ℚ)| < 2 ^ 63 := (abs_towardsZero_le a).trans_lt hsize
  have habs : |towardsZero a| < 2 ^ 63 := by exact_mod_cast hinteger
  have hmost : (Edit.unreachable : Int) + 1 = 2 ^ 63 := by decide
  rw [← truncate_denotes h] at habs ⊢
  obtain ⟨hlow, hhigh⟩ := abs_lt.mp habs
  obtain ⟨num, den, hexact, -, -⟩ := h
  rw [held, hexact]
  exact heldInteger_of_natAbs (by omega)

/-- What a matrix of a direction keeps of a fraction. -/
def kept (higherIsBetter : Bool) (a : ℚ) : ℚ := if higherIsBetter then a else towardsZero a

theorem kept_eq_self {higherIsBetter : Bool} {a : ℚ} :
    kept higherIsBetter a = a ↔ higherIsBetter = true ∨ ∃ n : ℤ, a = n := by
  cases higherIsBetter with
  | true => exact iff_of_true rfl (.inl rfl)
  | false =>
      constructor
      · intro h
        exact .inr ⟨towardsZero a, h.symm⟩
      · rintro (h | ⟨n, rfl⟩)
        · exact nomatch h
        · exact congrArg Int.cast (towardsZero_intCast n)

/-- A score that a matrix of a direction has room for: an integer up to 2^53, or a double that
    is not special and no distance of 2^63 or more. -/
inductive Fits (higherIsBetter : Bool) : Score Float → ℚ → Prop where
  | whole {n : Int} (h : n.natAbs ≤ 2 ^ 53) : Fits higherIsBetter (.whole n) n
  | real {x : Float} {a : ℚ} (h : Scalar.Denotes x a)
      (hsize : higherIsBetter = false → |a| < 2 ^ 63) : Fits higherIsBetter (.real x) a

/-- A cell keeps what its direction does. -/
theorem Fits.held {higherIsBetter : Bool} {s : Score Float} {a : ℚ} (h : Fits higherIsBetter s a) :
    ∃ c, held higherIsBetter s = .ok c ∧ c.Denotes (kept higherIsBetter a) := by
  cases h with
  | @whole n hn =>
      cases higherIsBetter with
      | false =>
          refine ⟨_, held_whole (hn.trans (by decide)), ?_⟩
          rw [kept_eq_self.mpr (.inr ⟨n, rfl⟩)]
          exact .whole n
      | true =>
          obtain ⟨x, hx, hdenotes⟩ := Double.ofInt?_denotes hn
          refine ⟨.real x, ?_, .real hdenotes⟩
          rw [Matrix.held, hx]
          rfl
  | @real x a hx hsize =>
      cases higherIsBetter with
      | true => exact ⟨_, rfl, .real hx⟩
      | false => exact ⟨_, held_fraction hx (hsize rfl), .whole _⟩

/-- The cells of a matrix, when all of them are found. -/
theorem exists_square {m : Metric K} {items : List String}
    {holds : String → String → Score K → Prop}
    (hcomm : ∀ s ∈ items, ∀ t ∈ items, cell m (.text s) (.text t) = cell m (.text t) (.text s))
    (hcell : ∀ s ∈ items, ∀ t ∈ items, ∃ c, cell m (.text s) (.text t) = .ok c ∧ holds s t c) :
    ∃ rows, pairwise m (items.map .text) = .ok rows ∧ rows.length = items.length ∧
      ∀ (i : Nat) (hi : i < items.length), ∃ row, rows[i]? = some row ∧
        row.length = items.length ∧
        ∀ (j : Nat) (hj : j < items.length), ∃ c, row[j]? = some c ∧
          holds items[i] items[j] c := by
  have hrow : ∀ s ∈ items, ∃ row, (items.map .text).mapM (cell m (.text s)) = .ok row ∧
      List.Forall₂ (holds s) items row := by
    intro s hs
    rw [List.mapM_map]
    exact mapM_total (hcell s hs)
  obtain ⟨rows, hrows, hall⟩ := mapM_total hrow
  refine ⟨rows, ?_, hall.length_eq.symm, ?_⟩
  · rw [pairwise_eq_cells fun _ => hcomm, List.mapM_map]
    exact hrows
  · intro i hi
    obtain ⟨row, hget, hcells⟩ := getElem?_of_forall₂ hall hi
    exact ⟨row, hget, hcells.length_eq.symm, fun j hj => getElem?_of_forall₂ hcells hj⟩

theorem zero_halves_denote : Scalar.Denotes (Scalar.ofNat 0 / Scalar.ofNat 2 : Float) 0 := by
  have hrounded := Scalar.Rounds.div_rounded (Scalar.zero_denotes (K := Float))
    (Scalar.Rounds.ofNat_denotes 2 (by norm_num)) two_ne_zero
  rw [zero_div] at hrounded
  exact hrounded.denotes Scalar.zero_denotes (abs_zero.trans_le (zpow_pos two_pos _).le)

theorem half_denotes : Scalar.Denotes (Scalar.ofNat 1 / Scalar.ofNat 2 : Float) (1 / 2) := by
  have hexact : Scalar.exact (Scalar.ofNat 1 / Scalar.ofNat 2 : Float)
      = .ratio 4503599627370496 9007199254740992 := by decide +kernel
  exact ⟨_, _, hexact, by norm_num, by norm_num⟩

/-- **A MATRIX OF DISTANCES LOSES FRACTIONS.**  A metric that has a score for all texts of a list,
    whatever their order, fills a square matrix with them.  A similarity is held as it is,
    and so is a distance that is an integer, but of any other distance only the integer next
    to it towards zero is left. -/
theorem pairwise_loses_fractions {m : Metric Float} {items : List String}
    {score : String → String → Score Float} {value : String → String → ℚ}
    (hscore : ∀ s ∈ items, ∀ t ∈ items, m.score (.text s) (.text t) = .ok (score s t) ∧
      Fits m.higherIsBetter (score s t) (value s t) ∧ score s t = score t s) :
    ∃ rows, pairwise m (items.map .text) = .ok rows ∧ rows.length = items.length ∧
      ∀ (i : Nat) (hi : i < items.length), ∃ row, rows[i]? = some row ∧
        row.length = items.length ∧
        ∀ (j : Nat) (hj : j < items.length), ∃ c, row[j]? = some c ∧
          c.Denotes (kept m.higherIsBetter (value items[i] items[j])) ∧
          (c.value = value items[i] items[j] ↔
            m.higherIsBetter = true ∨ ∃ n : ℤ, value items[i] items[j] = n) := by
  have hcell : ∀ s ∈ items, ∀ t ∈ items, ∃ c, cell m (.text s) (.text t) = .ok c ∧
      c.Denotes (kept m.higherIsBetter (value s t)) := by
    intro s hs t ht
    obtain ⟨hfound, hfits, -⟩ := hscore s hs t ht
    obtain ⟨c, hc, hdenotes⟩ := hfits.held
    exact ⟨c, by rw [cell, hfound]; exact hc, hdenotes⟩
  have hcomm : ∀ s ∈ items, ∀ t ∈ items,
      cell m (.text s) (.text t) = cell m (.text t) (.text s) := by
    intro s hs t ht
    obtain ⟨hst, -, hsame⟩ := hscore s hs t ht
    obtain ⟨hts, -⟩ := hscore t ht s hs
    rw [cell, cell, hst, hts, hsame]
  obtain ⟨rows, hrows, hsize, hcells⟩ := exists_square hcomm hcell
  refine ⟨rows, hrows, hsize, fun i hi => ?_⟩
  obtain ⟨row, hrow, hlength, hkept⟩ := hcells i hi
  refine ⟨row, hrow, hlength, fun j hj => ?_⟩
  obtain ⟨c, hc, hdenotes⟩ := hkept j hj
  refine ⟨c, hc, hdenotes, ?_⟩
  rw [hdenotes.value]
  exact kept_eq_self

/-- Two texts by half the number of differing places. -/
theorem pairwise_loses_fractions_halves :
    ∃ rows row c, pairwise (.halfHamming "half" : Metric Float) (["a", "b"].map .text) = .ok rows ∧
      rows[0]? = some row ∧ row[1]? = some c ∧ c.Denotes 0 ∧ c.value ≠ 1 / 2 := by
  let score : String → String → Score Float :=
    fun s t => .real (Scalar.ofNat (if s = t then 0 else 1) / Scalar.ofNat 2)
  let value : String → String → ℚ := fun s t => if s = t then 0 else 1 / 2
  have hfits : ∀ s t, Fits false (score s t) (value s t) := by
    intro s t
    by_cases hst : s = t
    · simp only [score, value, if_pos hst]
      exact .real zero_halves_denote fun _ => by norm_num
    · simp only [score, value, if_neg hst]
      exact .real half_denotes fun _ => by norm_num
  have hcomm : ∀ s t, score s t = score t s := fun s t => by simp only [score, eq_comm]
  have hfound : ∀ s ∈ ["a", "b"], ∀ t ∈ ["a", "b"],
      (Metric.halfHamming "half").score (.text s) (.text t) = .ok (score s t) := by
    simp only [List.forall_mem_cons]
    exact ⟨⟨rfl, rfl, List.forall_mem_nil _⟩, ⟨rfl, rfl, List.forall_mem_nil _⟩,
      List.forall_mem_nil _⟩
  obtain ⟨rows, hrows, -, hcells⟩ := pairwise_loses_fractions
    fun s hs t ht => ⟨hfound s hs t ht, hfits s t, hcomm s t⟩
  obtain ⟨row, hrow, -, hcell⟩ := hcells 0 (by decide)
  obtain ⟨c, hc, hdenotes, -⟩ := hcell 1 (by decide)
  have hkept : kept false (value "a" "b") = 0 := by
    have hvalue : value "a" "b" = 1 / 2 := if_neg (by decide)
    rw [hvalue, kept, towardsZero]
    norm_num
  have hzero : c.Denotes 0 := hkept ▸ hdenotes
  refine ⟨rows, row, c, hrows, hrow, hc, hzero, ?_⟩
  rw [hzero.value]
  norm_num

/-- **HALF A DISTANCE IS LOST**: a registered distance of a half is held as zero. -/
theorem half_distance_lost :
    ∃ (registry : Registry Float) (m : Metric Float) (x : Float),
      Registry.builtin.register (.plain (.halfHamming "half")) = .ok registry ∧
      registry.make "half" [] = .ok m ∧ Scalar.Denotes x (1 / 2) ∧
      m.score (.text "a") (.text "b") = .ok (.real x) ∧
      m.score (.text "b") (.text "a") = .ok (.real x) ∧
      pairwise m (["a", "b"].map .text) = .ok [[.whole 0, .whole 0], [.whole 0, .whole 0]] := by
  refine ⟨_, .halfHamming "half", _, rfl, rfl, half_denotes, rfl, rfl, ?_⟩
  have hsmall {s t : String} {x : Float} {a : ℚ}
      (hscore : (.halfHamming "half" : Metric Float).score (.text s) (.text t) = .ok (.real x))
      (ha : Scalar.Denotes x a) (hsize : |a| < 1) :
      cell (.halfHamming "half") (.text s) (.text t) = .ok (.whole 0 : Score Float) := by
    rw [cell, hscore, ← towardsZero_of_small hsize]
    exact held_fraction ha (hsize.trans (by norm_num))
  have hzero : |(0 : ℚ)| < 1 := by norm_num
  have hhalf : |(1 / 2 : ℚ)| < 1 := by norm_num [abs_lt]
  refine pairwise_of_cells (f := fun _ _ => .whole 0) (fun _ _ => rfl) ?_
  simp only [List.forall_mem_cons]
  exact ⟨⟨hsmall rfl zero_halves_denote hzero, hsmall rfl half_denotes hhalf,
      List.forall_mem_nil _⟩,
    ⟨hsmall rfl half_denotes hhalf, hsmall rfl zero_halves_denote hzero, List.forall_mem_nil _⟩,
    List.forall_mem_nil _⟩

end Likeness.Matrix
