import Likeness.Proofs.Value.Numbers
import Mathlib.Data.List.Forall2

/-! # Equality of values

    Two values are equal when what is inside them is (`Value.equal_iff`).  Sets and
    dictionaries are equal when they are of one size and each member has an equal one
    in the other.  That they can then be paired off, and that equality passes from two
    values that equal a third to each other, holds only where no two members are equal
    (`Value.Sound`): the one follows from the other, one level further inside.

    The main results are `Value.equal_euclid` and `Value.exists_equal_pairing`. -/

namespace Likeness

namespace Value

/-! ## What is compared with what -/

/-- Two fields have values, and these are equal. -/
def EqualField (f g : FieldInfo × Option Value) : Prop :=
  ∃ v w, f.2 = some v ∧ g.2 = some w ∧ v.equal w = true

/-- Two values are equal, by what is inside them. -/
inductive Matching : Value → Value → Prop where
  | null : Matching .null .null
  | text (s : String) : Matching (.text s) (.text s)
  | illFormed (points : List Nat) : Matching (.illFormed points) (.illFormed points)
  | number {v w : Value} (h : EqualNumbers v w) : Matching v w
  | bytes (m n : Bool) (octets : List UInt8) : Matching (.bytes m octets) (.bytes n octets)
  | range {a b c d e f : Int} (h : equalRanges a b c d e f = true) :
      Matching (.range a b c) (.range d e f)
  | list {xs ys : List Value} (h : xs.Forall₂ (fun x y => x.equal y = true) ys) :
      Matching (.list xs) (.list ys)
  | tuple {xs ys : List Value} (h : xs.Forall₂ (fun x y => x.equal y = true) ys) :
      Matching (.tuple xs) (.tuple ys)
  | set {f g : Bool} {xs ys : List Value} (hlen : xs.length = ys.length)
      (h : ∀ x ∈ xs, ∃ y ∈ ys, x.equal y = true) : Matching (.set f xs) (.set g ys)
  | dict {es fs : List (Value × Value)} (hlen : es.length = fs.length)
      (h : ∀ e ∈ es, ∃ f ∈ fs, e.1.equal f.1 = true ∧ e.2.equal f.2 = true) :
      Matching (.dict es) (.dict fs)
  | record {n : Nat} {fs gs : List (FieldInfo × Option Value)}
      (h : fs.Forall₂ (fun f g => f.1.compared = true → EqualField f g) gs) :
      Matching (.record n fs) (.record n gs)
  | charRange {span : CharSpan} {v w : Value} (h : v.equal w = true) :
      Matching (.charRange span v) (.charRange span w)
  | hashCode (m n total : Int) : Matching (.hashCode m total) (.hashCode n total)

theorem equalItems_iff {xs ys : List Value} :
    equalItems xs ys = true ↔ xs.Forall₂ (fun x y => x.equal y = true) ys := by
  induction xs generalizing ys with
  | nil => cases ys <;> simp [equalItems]
  | cons x xs ih => cases ys <;> simp [equalItems, ih]

theorem allAmong_iff {xs ys : List Value} :
    allAmong xs ys = true ↔ ∀ x ∈ xs, ∃ y ∈ ys, x.equal y = true := by
  induction xs with
  | nil => simp [allAmong]
  | cons x xs ih => simp [allAmong, ih]

theorem allEntriesAmong_iff {es fs : List (Value × Value)} :
    allEntriesAmong es fs = true ↔
      ∀ e ∈ es, ∃ f ∈ fs, e.1.equal f.1 = true ∧ e.2.equal f.2 = true := by
  induction es with
  | nil => simp [allEntriesAmong]
  | cons e es ih => simp [allEntriesAmong, ih]

theorem equalFields_cons (f g : FieldInfo × Option Value)
    (fs gs : List (FieldInfo × Option Value)) : equalFields (f :: fs) (g :: gs) = true ↔
      (f.1.compared = true → EqualField f g) ∧ equalFields fs gs = true := by
  obtain ⟨f, v⟩ := f
  obtain ⟨g, w⟩ := g
  cases v <;> cases w <;> cases hf : f.compared <;> simp [equalFields, EqualField, hf]

theorem equalFields_iff {fs gs : List (FieldInfo × Option Value)} :
    equalFields fs gs = true ↔
      fs.Forall₂ (fun f g => f.1.compared = true → EqualField f g) gs := by
  induction fs generalizing gs with
  | nil => cases gs <;> simp [equalFields]
  | cons f fs ih =>
      cases gs with
      | nil => simp [equalFields]
      | cons g gs => rw [equalFields_cons, ih, List.forall₂_cons]

theorem matching_of_equal {v w : Value} (h : v.equal w = true) : Matching v w := by
  cases v with
  | bool b => exact .number ⟨rfl, h⟩
  | int n => exact .number ⟨rfl, h⟩
  | real x => exact .number ⟨rfl, h⟩
  | null =>
      cases w with
      | null => exact .null
      | _ => exact nomatch h
  | text s =>
      cases w with
      | text t =>
          obtain rfl := beq_iff_eq.mp h
          exact .text s
      | _ => exact nomatch h
  | illFormed points =>
      cases w with
      | illFormed points' =>
          obtain rfl := beq_iff_eq.mp h
          exact .illFormed points
      | _ => exact nomatch h
  | bytes m octets =>
      cases w with
      | bytes n octets' =>
          obtain rfl := beq_iff_eq.mp h
          exact .bytes m n octets
      | _ => exact nomatch h
  | range a b c =>
      cases w with
      | range d e f => exact .range h
      | _ => exact nomatch h
  | list xs =>
      cases w with
      | list ys => exact .list (equalItems_iff.mp h)
      | _ => exact nomatch h
  | tuple xs =>
      cases w with
      | tuple ys => exact .tuple (equalItems_iff.mp h)
      | _ => exact nomatch h
  | set f xs =>
      cases w with
      | set g ys =>
          obtain ⟨hlen, hall⟩ := (Bool.and_eq_true _ _).mp h
          exact .set (beq_iff_eq.mp hlen) (allAmong_iff.mp hall)
      | _ => exact nomatch h
  | dict es =>
      cases w with
      | dict fs =>
          obtain ⟨hlen, hall⟩ := (Bool.and_eq_true _ _).mp h
          exact .dict (beq_iff_eq.mp hlen) (allEntriesAmong_iff.mp hall)
      | _ => exact nomatch h
  | record n fs =>
      cases w with
      | record n' gs =>
          obtain ⟨hn, hfields⟩ := (Bool.and_eq_true _ _).mp h
          obtain rfl := beq_iff_eq.mp hn
          exact .record (equalFields_iff.mp hfields)
      | _ => exact nomatch h
  | charRange span v =>
      cases w with
      | charRange span' w =>
          obtain ⟨hspan, hvw⟩ := (Bool.and_eq_true _ _).mp h
          obtain rfl := CharSpan.ext_of_same hspan
          exact .charRange hvw
      | _ => exact nomatch h
  | hashCode m total =>
      cases w with
      | hashCode n total' =>
          obtain rfl := beq_iff_eq.mp h
          exact .hashCode m n total
      | _ => exact nomatch h
  | _ => exact nomatch h

/-- **EQUAL VALUES HAVE EQUAL INSIDES**, and those that do are equal. -/
theorem equal_iff {v w : Value} : v.equal w = true ↔ Matching v w := by
  refine ⟨matching_of_equal, fun h => ?_⟩
  cases h with
  | null => rfl
  | text s => exact beq_self_eq_true s
  | illFormed points => exact beq_self_eq_true points
  | number h => exact h.2
  | bytes m n octets => exact beq_self_eq_true octets
  | range h => exact h
  | list h => exact equalItems_iff.mpr h
  | tuple h => exact equalItems_iff.mpr h
  | set hlen h => exact (Bool.and_eq_true _ _).mpr ⟨beq_iff_eq.mpr hlen, allAmong_iff.mpr h⟩
  | dict hlen h =>
      exact (Bool.and_eq_true _ _).mpr ⟨beq_iff_eq.mpr hlen, allEntriesAmong_iff.mpr h⟩
  | @record n _ _ h =>
      exact (Bool.and_eq_true _ _).mpr ⟨beq_self_eq_true n, equalFields_iff.mpr h⟩
  | @charRange span _ _ h => exact (Bool.and_eq_true _ _).mpr ⟨span.same_self, h⟩
  | hashCode m n total => exact beq_self_eq_true total

/-- Equal ranges list the same integers. -/
theorem rangeItems_of_equalRanges {a b c d e f : Int} (h : equalRanges a b c d e f = true) :
    rangeItems a b c = rangeItems d e f := by
  simp only [equalRanges, Bool.and_eq_true, Bool.or_eq_true, beq_iff_eq] at h
  obtain ⟨hlen, hsame⟩ := h
  rw [rangeItems, rangeItems, ← hlen]
  rcases hsame with hzero | ⟨rfl, hone | rfl⟩
  · rw [hzero]
    rfl
  · rw [hone]
    simp [List.range_one]
  · rfl

theorem equalRanges_euclid {a b c d e f g h i : Int} (hl : equalRanges a b c g h i = true)
    (hr : equalRanges d e f g h i = true) : equalRanges a b c d e f = true := by
  simp only [equalRanges, Bool.and_eq_true, Bool.or_eq_true, beq_iff_eq] at *
  obtain ⟨hlen, hsame⟩ := hl
  obtain ⟨hlen', hsame'⟩ := hr
  refine ⟨hlen.trans hlen'.symm, ?_⟩
  rcases hsame with hzero | ⟨rfl, hstep⟩
  · exact Or.inl hzero
  · rcases hsame' with hzero | ⟨rfl, hstep'⟩
    · exact Or.inl (hlen.trans (hlen'.symm.trans hzero))
    · refine Or.inr ⟨rfl, ?_⟩
      rcases hstep with hone | rfl
      · exact Or.inl hone
      · rcases hstep' with hone | rfl
        · exact Or.inl (hlen.trans (hlen'.symm.trans hone))
        · exact Or.inr rfl

/-! ## Pairing off -/

section Pairing

variable {α β : Type} {R : α → β → Prop}

/-- Where everything has a partner, no two have one partner, and nothing is left over, all
    are paired off. -/
theorem exists_pairing {xs : List α} {ys : List β} (hlen : xs.length = ys.length)
    (hpartner : ∀ x ∈ xs, ∃ y ∈ ys, R x y)
    (hone : xs.Pairwise fun x x' => ∀ y ∈ ys, R x y → ¬ R x' y) :
    ∃ zs, xs.Forall₂ R zs ∧ zs.Perm ys := by
  induction xs generalizing ys with
  | nil =>
      obtain rfl := List.length_eq_zero_iff.mp hlen.symm
      exact ⟨[], .nil, .nil⟩
  | cons x xs ih =>
      rw [List.pairwise_cons] at hone
      obtain ⟨hx, hxs⟩ := hone
      obtain ⟨y, hy, hxy⟩ := hpartner x List.mem_cons_self
      obtain ⟨before, after, rfl⟩ := List.append_of_mem hy
      have hrest : ∀ z, z ∈ before ++ after → z ∈ before ++ y :: after := fun z hz =>
        List.perm_middle.mem_iff.mpr (List.mem_cons_of_mem y hz)
      -- nobody else has `y` for a partner, so the others find theirs among the rest
      have hothers : ∀ x' ∈ xs, ∃ z ∈ before ++ after, R x' z := by
        intro x' hx'
        obtain ⟨z, hz, hxz⟩ := hpartner x' (List.mem_cons_of_mem x hx')
        rcases List.mem_cons.mp (List.perm_middle.mem_iff.mp hz) with rfl | hz
        · exact absurd hxz (hx x' hx' z hy hxy)
        · exact ⟨z, hz, hxz⟩
      have hcount : xs.length = (before ++ after).length := by
        simp only [List.length_cons, List.length_append] at hlen ⊢
        omega
      have hapart := hxs.imp fun h z hz => h z (hrest z hz)
      obtain ⟨zs, hzs, hperm⟩ := ih hcount hothers hapart
      exact ⟨y :: zs, .cons hxy hzs, (hperm.cons y).trans List.perm_middle.symm⟩

/-- Of two lists that are related to a third, item by item, one is related to the other. -/
theorem forall₂_euclid {S : α → α → Prop} {xs xs' : List α} {ys : List β}
    (h : xs.Forall₂ R ys) (h' : xs'.Forall₂ R ys)
    (hS : ∀ x ∈ xs, ∀ x' ∈ xs', ∀ y ∈ ys, R x y → R x' y → S x x') : xs.Forall₂ S xs' := by
  induction h generalizing xs' with
  | nil =>
      cases h'
      exact .nil
  | cons hxy _ ih =>
      cases h' with
      | cons hxy' hrest =>
          refine .cons (hS _ List.mem_cons_self _ List.mem_cons_self _ List.mem_cons_self hxy hxy') ?_
          refine ih hrest fun x hx x' hx' y hy => ?_
          exact hS x (List.mem_cons_of_mem _ hx) x' (List.mem_cons_of_mem _ hx') y
            (List.mem_cons_of_mem _ hy)

/-- Where all are paired off, each has a partner. -/
theorem exists_partner {xs : List α} {ys : List β} (h : xs.Forall₂ R ys) {y : β} (hy : y ∈ ys) :
    ∃ x ∈ xs, R x y := by
  induction h with
  | nil => exact nomatch hy
  | cons hxy _ ih =>
      rcases List.mem_cons.mp hy with rfl | hy
      · exact ⟨_, List.mem_cons_self, hxy⟩
      · obtain ⟨x, hx, hR⟩ := ih hy
        exact ⟨x, List.mem_cons_of_mem _ hx, hR⟩

end Pairing

/-! ## Sound values -/

/-- The values inside a value. -/
def parts : Value → List Value
  | list xs | tuple xs | set _ xs => xs
  | dict es => es.map (·.1) ++ es.map (·.2)
  | record _ fs => fs.filterMap (·.2)
  | charRange _ v => [v]
  | _ => []

/-- The value can have values inside it. -/
def isCompound : Value → Bool
  | list _ | tuple _ | set _ _ | dict _ | record _ _ | charRange _ _ => true
  | _ => false

/-- No two members of a set are equal, no two keys of a dictionary, and a record has the
    fields of its declaration. -/
def Made (declared : Nat → List FieldInfo) : Value → Prop
  | set _ xs => xs.Pairwise fun x y => x.equal y = false
  | dict es => es.Pairwise fun e f => e.1.equal f.1 = false
  | record n fs => fs.map (·.1) = declared n
  | _ => True

/-- The value is made as it should be, and so is every value inside it. -/
inductive Sound (declared : Nat → List FieldInfo) : Value → Prop where
  | made {v : Value} (h : Made declared v) (hparts : ∀ x ∈ v.parts, Sound declared x) :
      Sound declared v

variable {declared : Nat → List FieldInfo}

theorem Sound.isMade {v : Value} (h : Sound declared v) : Made declared v := by
  cases h with
  | made h _ => exact h

theorem Sound.part {v x : Value} (h : Sound declared v) (hx : x ∈ v.parts) : Sound declared x := by
  cases h with
  | made _ hparts => exact hparts x hx

theorem Sound.of_not_compound {v : Value} (h : v.isCompound = false) : Sound declared v := by
  cases v with
  | list xs => exact nomatch h
  | tuple xs => exact nomatch h
  | set frozen xs => exact nomatch h
  | dict es => exact nomatch h
  | record n fs => exact nomatch h
  | charRange span negated => exact nomatch h
  | _ => exact .made trivial fun x hx => nomatch hx

/-- Of members that come in one after another, those are kept that equal none before. -/
theorem made_distinct (frozen : Bool) (xs : List Value) :
    Made declared (.set frozen (distinct xs)) := by
  show (distinct xs).Pairwise fun x y => x.equal y = false
  refine List.foldlRecOn xs _ .nil ?_
  intro kept hkept x _
  split
  · exact hkept
  · rename_i hnew
    refine List.pairwise_append.mpr ⟨hkept, List.pairwise_singleton _ x, ?_⟩
    intro y hy z hz
    obtain rfl := List.mem_singleton.mp hz
    exact Bool.eq_false_iff.mpr fun h => hnew (List.any_eq_true.mpr ⟨y, hy, h⟩)

/-- The keys of a dictionary with one more entry are its own and the new one. -/
theorem mem_putEntry {es : List (Value × Value)} {k v : Value} {e : Value × Value}
    (he : e ∈ putEntry es k v) : e.1 = k ∨ ∃ f ∈ es, f.1 = e.1 := by
  induction es with
  | nil =>
      obtain rfl := List.mem_singleton.mp he
      exact Or.inl rfl
  | cons f es ih =>
      obtain ⟨l, w⟩ := f
      rw [putEntry] at he
      split at he
      · rcases List.mem_cons.mp he with rfl | he
        · exact Or.inr ⟨_, List.mem_cons_self, rfl⟩
        · exact Or.inr ⟨e, List.mem_cons_of_mem _ he, rfl⟩
      · rcases List.mem_cons.mp he with rfl | he
        · exact Or.inr ⟨_, List.mem_cons_self, rfl⟩
        · exact (ih he).imp_right fun ⟨f, hf, hkey⟩ => ⟨f, List.mem_cons_of_mem _ hf, hkey⟩

theorem putEntry_pairwise {es : List (Value × Value)} (k v : Value)
    (h : es.Pairwise fun e f => e.1.equal f.1 = false) :
    (putEntry es k v).Pairwise fun e f => e.1.equal f.1 = false := by
  induction es with
  | nil => exact List.pairwise_singleton _ _
  | cons f es ih =>
      obtain ⟨l, w⟩ := f
      obtain ⟨hl, hes⟩ := List.pairwise_cons.mp h
      rw [putEntry]
      split
      · exact List.pairwise_cons.mpr ⟨hl, hes⟩
      · rename_i hnew
        refine List.pairwise_cons.mpr ⟨?_, ih hes⟩
        intro e he
        rcases mem_putEntry he with hkey | ⟨f, hf, hkey⟩
        · rw [hkey]
          exact Bool.eq_false_iff.mpr hnew
        · rw [← hkey]
          exact hl f hf

/-- Of entries that come in one after another, no two keep equal keys. -/
theorem made_dictOf (entries : List (Value × Value)) : Made declared (dictOf entries) := by
  show (entries.foldl (fun es e => putEntry es e.1 e.2) []).Pairwise
    fun e f => e.1.equal f.1 = false
  refine List.foldlRecOn entries _ .nil ?_
  intro kept hkept e _
  exact putEntry_pairwise e.1 e.2 hkept

theorem key_mem_parts {es : List (Value × Value)} {e : Value × Value} (he : e ∈ es) :
    e.1 ∈ (dict es).parts :=
  List.mem_append_left _ (List.mem_map_of_mem he)

theorem value_mem_parts {es : List (Value × Value)} {e : Value × Value} (he : e ∈ es) :
    e.2 ∈ (dict es).parts :=
  List.mem_append_right _ (List.mem_map_of_mem he)

theorem field_mem_parts {n : Nat} {fs : List (FieldInfo × Option Value)}
    {f : FieldInfo × Option Value} (hf : f ∈ fs) {v : Value} (hv : f.2 = some v) :
    v ∈ (record n fs).parts :=
  List.mem_filterMap.mpr ⟨f, hf, hv⟩

/-! ## Equality is transitive -/

/-- Two lists of fields of one declaration agree on what it says about each. -/
theorem forall₂_fields {R : FieldInfo × Option Value → FieldInfo × Option Value → Prop}
    {fs gs : List (FieldInfo × Option Value)} (h : fs.Forall₂ R gs)
    (hfields : fs.map (·.1) = gs.map (·.1)) : fs.Forall₂ (fun f g => f.1 = g.1 ∧ R f g) gs := by
  induction h with
  | nil => exact .nil
  | cons hfg _ ih =>
      obtain ⟨hhead, htail⟩ := List.cons.inj hfields
      exact .cons ⟨hhead, hfg⟩ (ih htail)

/-- Values with nothing inside them that are equal to the same are equal. -/
theorem Matching.euclid {u v w : Value} (hu : u.isCompound = false) (hv : Matching v u)
    (hw : Matching w u) : Matching v w := by
  cases hv with
  | number h =>
      cases hw with
      | number h' => exact .number ⟨h.1, h.euclid h'⟩
      | _ => exact nomatch h.isSome_right
  | null =>
      cases hw with
      | number h => exact nomatch h.isSome_right
      | null => exact .null
  | text s =>
      cases hw with
      | number h => exact nomatch h.isSome_right
      | text => exact .text s
  | illFormed points =>
      cases hw with
      | number h => exact nomatch h.isSome_right
      | illFormed => exact .illFormed points
  | bytes m n octets =>
      cases hw with
      | number h => exact nomatch h.isSome_right
      | bytes m' => exact .bytes m m' octets
  | range h =>
      cases hw with
      | number h' => exact nomatch h'.isSome_right
      | range h' => exact .range (equalRanges_euclid h h')
  | hashCode m n total =>
      cases hw with
      | number h => exact nomatch h.isSome_right
      | hashCode m' => exact .hashCode m m' total
  | _ => exact nomatch hu

theorem EqualNumbers.not_compound {v u : Value} (h : EqualNumbers v u) : u.isCompound = false := by
  cases u with
  | bool b => rfl
  | int n => rfl
  | real x => rfl
  | nan bits => rfl
  | _ => exact nomatch h.isSome_right

/-- Members, or entries by their keys, are paired off when each has an equal one: no two have
    one in common, as these would be equal to each other. -/
theorem exists_equal_pairing {α : Type} (key : α → Value) {R : α → α → Prop}
    (hkey : ∀ x y, R x y → (key x).equal (key y) = true) {xs ys : List α}
    (hlen : xs.length = ys.length) (h : ∀ x ∈ xs, ∃ y ∈ ys, R x y)
    (hdistinct : xs.Pairwise fun x x' => (key x).equal (key x') = false)
    (heuclid : ∀ x ∈ xs, ∀ x' ∈ xs, ∀ y ∈ ys, (key x).equal (key y) = true →
      (key x').equal (key y) = true → (key x).equal (key x') = true) :
    ∃ zs, xs.Forall₂ R zs ∧ zs.Perm ys := by
  refine exists_pairing hlen h (hdistinct.imp_of_mem ?_)
  intro x x' hx hx' hne y hy hxy hxy'
  have heq := heuclid x hx x' hx' y hy (hkey x y hxy) (hkey x' y hxy')
  exact nomatch hne.symm.trans heq

/-- Where each of one list and each of another has an equal one in a third, and the other is
    paired off with the third, each of one list has an equal one in the other. -/
theorem exists_equal_among {α : Type} (key : α → Value) {R : α → α → Prop}
    (hkey : ∀ x y, R x y → (key x).equal (key y) = true) {xs ys zs : List α}
    (hlen : ys.length = zs.length) (hxs : ∀ x ∈ xs, ∃ z ∈ zs, R x z)
    (hys : ∀ y ∈ ys, ∃ z ∈ zs, R y z)
    (hdistinct : ys.Pairwise fun y y' => (key y).equal (key y') = false)
    (hself : ∀ y ∈ ys, ∀ y' ∈ ys, ∀ z ∈ zs, (key y).equal (key z) = true →
      (key y').equal (key z) = true → (key y).equal (key y') = true)
    (heuclid : ∀ x ∈ xs, ∀ y ∈ ys, ∀ z ∈ zs, R x z → R y z → R x y) :
    ∀ x ∈ xs, ∃ y ∈ ys, R x y := by
  intro x hx
  obtain ⟨z, hz, hxz⟩ := hxs x hx
  obtain ⟨_, hpaired, hperm⟩ := exists_equal_pairing key hkey hlen hys hdistinct hself
  obtain ⟨y, hy, hyz⟩ := exists_partner hpaired (hperm.mem_iff.mpr hz)
  exact ⟨y, hy, heuclid x hx y hy z hz hxz hyz⟩

/-- **WHAT IS EQUAL TO THE SAME IS EQUAL**, in sound values. -/
theorem equal_euclid {u v w : Value} (hu : Sound declared u) (hv : Sound declared v)
    (hw : Sound declared w) (hvu : v.equal u = true) (hwu : w.equal u = true) :
    v.equal w = true := by
  induction hu generalizing v w with
  | @made u hmade _ ih =>
    -- what is inside `u` passes equality on, to what is inside `v` and `w`
    have hpart : ∀ x ∈ v.parts, ∀ y ∈ w.parts, ∀ z ∈ u.parts, x.equal z = true →
        y.equal z = true → x.equal y = true :=
      fun x hx y hy z hz => ih z hz (hv.part hx) (hw.part hy)
    have hself : ∀ x ∈ w.parts, ∀ y ∈ w.parts, ∀ z ∈ u.parts, x.equal z = true →
        y.equal z = true → x.equal y = true :=
      fun x hx y hy z hz => ih z hz (hw.part hx) (hw.part hy)
    rw [equal_iff] at hvu hwu ⊢
    cases hcompound : u.isCompound with
    | false => exact hvu.euclid hcompound hwu
    | true =>
      cases hvu with
      | list hxs =>
          cases hwu with
          | number h => exact nomatch h.isSome_right
          | list hys => exact .list (forall₂_euclid hxs hys hpart)
      | tuple hxs =>
          cases hwu with
          | number h => exact nomatch h.isSome_right
          | tuple hys => exact .tuple (forall₂_euclid hxs hys hpart)
      | set hlen hxs =>
          cases hwu with
          | number h => exact nomatch h.isSome_right
          | set hlen' hys =>
              exact .set (hlen.trans hlen'.symm)
                (exists_equal_among id (fun _ _ h => h) hlen' hxs hys hw.isMade hself hpart)
      | dict hlen hes =>
          cases hwu with
          | number h => exact nomatch h.isSome_right
          | dict hlen' hfs =>
              refine .dict (hlen.trans hlen'.symm)
                (exists_equal_among Prod.fst (fun _ _ h => h.1) hlen' hes hfs hw.isMade ?_ ?_)
              · intro f hf f' hf' g hg
                exact hself _ (key_mem_parts hf) _ (key_mem_parts hf') _ (key_mem_parts hg)
              · intro e he f hf g hg heg hfg
                have hkeys := hpart _ (key_mem_parts he) _ (key_mem_parts hf) _ (key_mem_parts hg)
                have hvalues :=
                  hpart _ (value_mem_parts he) _ (value_mem_parts hf) _ (value_mem_parts hg)
                exact ⟨hkeys heg.1 hfg.1, hvalues heg.2 hfg.2⟩
      | record hfs =>
          cases hwu with
          | number h => exact nomatch h.isSome_right
          | record hgs =>
              have hfs' := forall₂_fields hfs (hv.isMade.trans hmade.symm)
              have hgs' := forall₂_fields hgs (hw.isMade.trans hmade.symm)
              refine .record (forall₂_euclid hfs' hgs' ?_)
              intro f hf g hg k hk hfk hgk hcompared
              obtain ⟨x, z, hx, hz, hxz⟩ := hfk.2 hcompared
              obtain ⟨y, z', hy, hz', hyz⟩ := hgk.2 (by rw [hgk.1, ← hfk.1]; exact hcompared)
              obtain rfl := Option.some.inj (hz.symm.trans hz')
              refine ⟨x, y, hx, hy, ?_⟩
              exact hpart x (field_mem_parts hf hx) y (field_mem_parts hg hy) z
                (field_mem_parts hk hz) hxz hyz
      | charRange h =>
          cases hwu with
          | number h => exact nomatch h.isSome_right
          | charRange h' =>
              have hinside := hpart _ List.mem_cons_self _ List.mem_cons_self _ List.mem_cons_self
              exact .charRange (hinside h h')
      | number h => exact nomatch h.not_compound.symm.trans hcompound
      | _ => exact nomatch hcompound

end Value

end Likeness
