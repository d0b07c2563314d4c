import Likeness.Proofs.Value.Equality

/-! # What equal values have in common

    Two values that are equal are built alike, down to the numbers in them: items stand
    side by side, members and entries are paired off, and what remains are numbers that
    are equal without being of one kind.  `Value.Equated` says so as a relation that has
    the comparison of numbers as its parameter.  It also relates each value to itself,
    as comparing does with one and the same object, so that a value which is not a
    number makes no exception inside a sequence.

    Which numbers these are is seen from the comparison alone (`Value.Identified`): what
    holds of all numbers that it identifies holds of those that the values are equated
    by, however the members of their sets are paired off.

    The main results are `Value.equated_of_identified` and `Value.equated_of_equal`. -/

namespace Likeness

namespace Value

mutual

/-- One value is another but for the numbers in it, which are related as told, for the order
    of members and entries, and for what no comparison looks at: the fields that are not
    compared, whether octets or a set can be changed, the bounds of a range that lists the
    same integers, and the multiplier of a hash code.  Whatever else is in them is the
    same. -/
inductive Equated (numbers : Value → Value → Prop) : Value → Value → Prop where
  | same (v : Value) : Equated numbers v v
  | number {v w : Value} (h : numbers v w) : Equated numbers v w
  | bytes (m n : Bool) (octets : List UInt8) : Equated numbers (.bytes m octets) (.bytes n octets)
  | range {a b c d e f : Int} (h : equalRanges a b c d e f = true) :
      Equated numbers (.range a b c) (.range d e f)
  | hashCode (m n total : Int) : Equated numbers (.hashCode m total) (.hashCode n total)
  | list {xs ys : List Value} (h : EquatedAll numbers xs ys) :
      Equated numbers (.list xs) (.list ys)
  | tuple {xs ys : List Value} (h : EquatedAll numbers xs ys) :
      Equated numbers (.tuple xs) (.tuple ys)
  | set {f g : Bool} {xs ys zs : List Value} (h : EquatedAll numbers xs ys) (hperm : ys.Perm zs) :
      Equated numbers (.set f xs) (.set g zs)
  | dict {es fs gs : List (Value × Value)} (h : EquatedEntries numbers es fs)
      (hperm : fs.Perm gs) : Equated numbers (.dict es) (.dict gs)
  | record {n : Nat} {fs gs : List (FieldInfo × Option Value)}
      (h : EquatedFields numbers fs gs) : Equated numbers (.record n fs) (.record n gs)
  | charRange {span : CharSpan} {v w : Value} (h : Equated numbers v w) :
      Equated numbers (.charRange span v) (.charRange span w)

/-- Values in one sequence are equated with those of another, place by place. -/
inductive EquatedAll (numbers : Value → Value → Prop) : List Value → List Value → Prop where
  | nil : EquatedAll numbers [] []
  | cons {x y : Value} {xs ys : List Value} (h : Equated numbers x y)
      (hs : EquatedAll numbers xs ys) : EquatedAll numbers (x :: xs) (y :: ys)

/-- Entries are equated with others, their keys and their values. -/
inductive EquatedEntries (numbers : Value → Value → Prop) :
    List (Value × Value) → List (Value × Value) → Prop where
  | nil : EquatedEntries numbers [] []
  | cons {k l v w : Value} {es fs : List (Value × Value)} (hk : Equated numbers k l)
      (hv : Equated numbers v w) (hs : EquatedEntries numbers es fs) :
      EquatedEntries numbers ((k, v) :: es) ((l, w) :: fs)

/-- Fields are equated with others of the same declaration, where they are compared.  One
    without a value is equated with another. -/
inductive EquatedFields (numbers : Value → Value → Prop) :
    List (FieldInfo × Option Value) → List (FieldInfo × Option Value) → Prop where
  | nil : EquatedFields numbers [] []
  | compared {f : FieldInfo} {v w : Value} {fs gs : List (FieldInfo × Option Value)}
      (h : Equated numbers v w) (hs : EquatedFields numbers fs gs) :
      EquatedFields numbers ((f, some v) :: fs) ((f, some w) :: gs)
  | missing {f : FieldInfo} {fs gs : List (FieldInfo × Option Value)}
      (hs : EquatedFields numbers fs gs) : EquatedFields numbers ((f, none) :: fs) ((f, none) :: gs)
  | ignored {f : FieldInfo} (hf : f.compared = false) (v w : Option Value)
      {fs gs : List (FieldInfo × Option Value)} (hs : EquatedFields numbers fs gs) :
      EquatedFields numbers ((f, v) :: fs) ((f, w) :: gs)

end

/-! ## What a comparison identifies -/

/-- Comparing two values sets parts of them against each other: items and fields by their
    places, members and entries where they are equal. -/
inductive Compared : Value → Value → Value → Value → Prop where
  | listItem {xs ys : List Value} {x y : Value} (h : (x, y) ∈ xs.zip ys) :
      Compared (.list xs) (.list ys) x y
  | tupleItem {xs ys : List Value} {x y : Value} (h : (x, y) ∈ xs.zip ys) :
      Compared (.tuple xs) (.tuple ys) x y
  | member {f g : Bool} {xs ys : List Value} {x y : Value} (hx : x ∈ xs) (hy : y ∈ ys)
      (h : x.equal y = true) : Compared (.set f xs) (.set g ys) x y
  | key {es fs : List (Value × Value)} {e f : Value × Value} (he : e ∈ es) (hf : f ∈ fs)
      (h : e.1.equal f.1 = true) : Compared (.dict es) (.dict fs) e.1 f.1
  | entry {es fs : List (Value × Value)} {e f : Value × Value} (he : e ∈ es) (hf : f ∈ fs)
      (h : e.1.equal f.1 = true) : Compared (.dict es) (.dict fs) e.2 f.2
  | field {n : Nat} {fs gs : List (FieldInfo × Option Value)} {f g : FieldInfo × Option Value}
      {x y : Value} (h : (f, g) ∈ fs.zip gs) (hcompared : f.1.compared = true)
      (hx : f.2 = some x) (hy : g.2 = some y) : Compared (.record n fs) (.record n gs) x y
  | negated {r s : CharSpan} (v w : Value) : Compared (.charRange r v) (.charRange s w) v w

/-- Comparing two values comes upon two others, at any depth. -/
inductive Identified : Value → Value → Value → Value → Prop where
  | here (v w : Value) : Identified v w v w
  | inside {v w x y a b : Value} (h : Compared v w x y) (hs : Identified x y a b) :
      Identified v w a b

/-- What is compared are parts of both. -/
theorem Compared.mem_parts {v w x y : Value} (h : Compared v w x y) :
    x ∈ v.parts ∧ y ∈ w.parts := by
  cases h with
  | listItem h => exact List.of_mem_zip h
  | tupleItem h => exact List.of_mem_zip h
  | member hx hy _ => exact ⟨hx, hy⟩
  | key he hf _ => exact ⟨key_mem_parts he, key_mem_parts hf⟩
  | entry he hf _ => exact ⟨value_mem_parts he, value_mem_parts hf⟩
  | field h _ hx hy =>
      obtain ⟨hf, hg⟩ := List.of_mem_zip h
      exact ⟨field_mem_parts hf hx, field_mem_parts hg hy⟩
  | negated v w => exact ⟨List.mem_cons_self, List.mem_cons_self⟩

/-- Where nothing is inside, nothing else is come upon. -/
theorem Identified.of_not_compound {v w x y : Value} (h : Identified v w x y)
    (hv : v.isCompound = false) : x = v ∧ y = w := by
  cases h with
  | here => exact ⟨rfl, rfl⟩
  | inside hcompared _ => cases hcompared <;> exact nomatch hv

section Equate

variable {numbers : Value → Value → Prop}

theorem equatedAll_of_forall₂ {xs ys : List Value} (h : xs.Forall₂ (Equated numbers) ys) :
    EquatedAll numbers xs ys := by
  induction h with
  | nil => exact .nil
  | cons hxy _ ih => exact .cons hxy ih

theorem equatedEntries_of_forall₂ {es fs : List (Value × Value)}
    (h : es.Forall₂ (fun e f => Equated numbers e.1 f.1 ∧ Equated numbers e.2 f.2) fs) :
    EquatedEntries numbers es fs := by
  induction h with
  | nil => exact .nil
  | cons hef _ ih => exact .cons hef.1 hef.2 ih

theorem equatedFields_of_forall₂ {fs gs : List (FieldInfo × Option Value)}
    (h : fs.Forall₂ (fun f g => f.1 = g.1 ∧ (f.1.compared = true →
      ∃ v w, f.2 = some v ∧ g.2 = some w ∧ Equated numbers v w)) gs) :
    EquatedFields numbers fs gs := by
  induction h with
  | nil => exact .nil
  | @cons f g fs gs hfg _ ih =>
      obtain ⟨f, v⟩ := f
      obtain ⟨g, w⟩ := g
      obtain ⟨hinfo, hvalues⟩ := hfg
      obtain rfl : f = g := hinfo
      cases hf : f.compared with
      | true =>
          obtain ⟨v, w, rfl, rfl, hvw⟩ := hvalues hf
          exact .compared hvw ih
      | false => exact .ignored hf v w ih

/-- A relation of two lists, place by place, can be proved by the places. -/
theorem forall₂_of_zip {α β : Type} {R S : α → β → Prop} {xs : List α} {ys : List β}
    (h : xs.Forall₂ R ys) (hS : ∀ x y, (x, y) ∈ xs.zip ys → R x y → S x y) : xs.Forall₂ S ys := by
  obtain ⟨hlen, hR⟩ := List.forall₂_iff_zip.mp h
  exact List.forall₂_iff_zip.mpr ⟨hlen, fun hxy => hS _ _ hxy (hR hxy)⟩

/-- **EQUAL VALUES ARE EQUATED BY WHAT COMPARING THEM IDENTIFIES**: sound values that are
    equal differ in their numbers only, which are related by all that holds of numbers
    that the comparison identifies, and in what no comparison looks at. -/
theorem equated_of_identified {declared : Nat → List FieldInfo} {v w : Value}
    (hv : Sound declared v) (hw : Sound declared w) (h : v.equal w = true)
    (hnumbers : ∀ x y, Identified v w x y → EqualNumbers x y → numbers x y) :
    Equated numbers v w := by
  induction hv generalizing w with
  | @made v hmade hvparts ih =>
    have hpart : ∀ x y, Compared v w x y → x.equal y = true → Equated numbers x y := by
      intro x y hxy heq
      obtain ⟨hx, hy⟩ := hxy.mem_parts
      exact ih x hx (hw.part hy) heq fun a b hab => hnumbers a b (.inside hxy hab)
    have hself : ∀ x ∈ v.parts, ∀ x' ∈ v.parts, ∀ y ∈ w.parts, x.equal y = true →
        x'.equal y = true → x.equal x' = true :=
      fun x hx x' hx' y hy => equal_euclid (hw.part hy) (hvparts x hx) (hvparts x' hx')
    rw [equal_iff] at h
    cases h with
    | number h => exact .number (hnumbers _ _ (.here _ _) h)
    | null => exact .same _
    | text s => exact .same _
    | illFormed points => exact .same _
    | bytes m n octets => exact .bytes m n octets
    | range h => exact .range h
    | hashCode m n total => exact .hashCode m n total
    | list h =>
        exact .list (equatedAll_of_forall₂ (forall₂_of_zip h fun x y hxy => hpart x y (.listItem hxy)))
    | tuple h =>
        exact .tuple
          (equatedAll_of_forall₂ (forall₂_of_zip h fun x y hxy => hpart x y (.tupleItem hxy)))
    | set hlen h =>
        obtain ⟨zs, hzs, hperm⟩ := exists_equal_pairing id (fun _ _ h => h) hlen h hmade hself
        refine .set (equatedAll_of_forall₂ (forall₂_of_zip hzs fun x z hxz heq => ?_)) hperm
        obtain ⟨hx, hz⟩ := List.of_mem_zip hxz
        exact hpart x z (.member hx (hperm.mem_iff.mp hz) heq) heq
    | dict hlen h =>
        obtain ⟨zs, hzs, hperm⟩ := exists_equal_pairing Prod.fst (fun _ _ h => h.1) hlen h hmade
          fun e he e' he' f hf =>
            hself _ (key_mem_parts he) _ (key_mem_parts he') _ (key_mem_parts hf)
        refine .dict (equatedEntries_of_forall₂ (forall₂_of_zip hzs fun e z hez heq => ?_)) hperm
        obtain ⟨he, hz⟩ := List.of_mem_zip hez
        have hz' := hperm.mem_iff.mp hz
        exact ⟨hpart _ _ (.key he hz' heq.1) heq.1, hpart _ _ (.entry he hz' heq.1) heq.2⟩
    | record h =>
        have hfields := forall₂_fields h (hmade.trans hw.isMade.symm)
        refine .record (equatedFields_of_forall₂ (forall₂_of_zip hfields fun f g hfg heq => ?_))
        refine ⟨heq.1, fun hcompared => ?_⟩
        obtain ⟨x, y, hx, hy, hxy⟩ := heq.2 hcompared
        exact ⟨x, y, hx, hy, hpart x y (.field hfg hcompared hx hy) hxy⟩
    | charRange h => exact .charRange (hpart _ _ (.negated _ _) h)

end Equate

/-- **EQUAL VALUES ARE EQUATED**: sound values that are equal differ in their numbers, which
    are equal, and in what no comparison looks at. -/
theorem equated_of_equal {declared : Nat → List FieldInfo} {v w : Value}
    (hv : Sound declared v) (hw : Sound declared w) (h : v.equal w = true) :
    Equated EqualNumbers v w :=
  equated_of_identified hv hw h fun _ _ _ hxy => hxy

end Value

end Likeness
