import Likeness.Proofs.Metric.Sequences
import Likeness.Proofs.Prefix
import Likeness.Proofs.Value.Points

/-! # Prefixes of texts

    What is said of texts as lists of code points, said of the values that hold them.
    The place of the first difference, the tail behind it and the shared prefix are
    found by three different passes, and fit together (`differences_fit`).  The shared
    prefix of several texts is found without looking behind the end of one, and is their
    greatest, so that it can be found two texts at a time
    (`commonPrefixOf_greatest`). -/

namespace Likeness

open Value (CodePoint ofPoints)

/-! ## Code points -/

theorem textOrAbsent?_ofPoints (s : List CodePoint) :
    textOrAbsent? (ofPoints s) = some (some (s.map Fin.val)) := by
  rcases Value.ofPoints_cases s with ⟨cs, hs, hcodes, -⟩ | ⟨hs, -⟩
  · rw [hs]
    show some (some ((String.ofList cs).toList.map Char.toNat)) = _
    rw [String.toList_ofList, hcodes]
  · rw [hs]
    rfl

theorem sharedLength_map {α γ : Type} (g : α → γ) (same : γ → γ → Bool) (xs ys : List α) :
    sharedLength same (xs.map g) (ys.map g) = sharedLength (fun x y => same (g x) (g y)) xs ys :=
  sharedLength_blind g same xs ys

theorem sharedPrefix_map_val (s t : List CodePoint) :
    sharedPrefix (s.map Fin.val) (t.map Fin.val) = (sharedPrefix s t).map Fin.val := by
  have hsame : (fun p q : CodePoint => p.val == q.val) = fun p q => p == q := by
    funext p q
    rw [Bool.eq_iff_iff, beq_iff_eq, beq_iff_eq, Fin.val_inj]
  rw [sharedPrefix, sharedLength_map, hsame, sharedPrefix, List.map_take]

/-! ## Where two texts differ -/

/-- What a search asks of a value that is gone through by its elements. -/
theorem asked_of_elements {v : Value} {xs : List Value} (h : v.elements? = some xs)
    (hrange : ∀ a b c, v ≠ .range a b c) (hspan : ∀ r n, v ≠ .charRange r n) :
    v.size = xs.length ∧ v.count = .ok xs.length ∧ ∀ n, v.front? n = some (xs.take n) := by
  refine ⟨?_, ?_, fun n => ?_⟩
  · rw [Value.size.eq_3 _ hrange hspan, h]
    rfl
  · rw [Value.count.eq_3 _ hrange hspan, h]
    rfl
  · rw [Value.front?.eq_2 _ _ hrange, h]
    rfl

theorem asked_ofPoints (s : List CodePoint) :
    let items := s.map fun p => ofPoints [p]
    ofPoints s ≠ .null ∧ (ofPoints s).size = items.length ∧ (ofPoints s).count = .ok items.length ∧
      ∀ n, (ofPoints s).front? n = some (items.take n) := by
  intro items
  have hitems : (ofPoints s).items? = some items := Value.items?_ofPoints s
  rcases Value.ofPoints_cases s with ⟨cs, hs, -⟩ | ⟨hs, -⟩
  · rw [hs] at hitems ⊢
    exact ⟨nofun, asked_of_elements hitems nofun nofun⟩
  · rw [hs] at hitems ⊢
    exact ⟨nofun, asked_of_elements hitems nofun nofun⟩

/-- As many items of two texts are equal, one after another, as code points are the same. -/
theorem sharedLength_items (s t : List CodePoint) (k : Nat) :
    sharedLength Value.equal ((s.map fun p => ofPoints [p]).take k)
      ((t.map fun p => ofPoints [p]).take k) = min k (sharedPrefix s t).length := by
  have hsame : (fun p q : CodePoint => (ofPoints [p]).equal (ofPoints [q])) = fun p q => p == q := by
    funext p q
    rw [Value.equal_ofPoints, Bool.eq_iff_iff, decide_eq_true_eq, beq_iff_eq, List.singleton_inj]
  rw [sharedLength_take, sharedLength_map, hsame, length_sharedPrefix]

theorem differenceAt_ofPoints (s t : List CodePoint) :
    differenceAt (ofPoints s) (ofPoints t)
      = .ok (if s = t then -1 else ((sharedPrefix s t).length : Int)) := by
  obtain ⟨hs, hsizeS, hcountS, hfrontS⟩ := asked_ofPoints s
  obtain ⟨ht, hsizeT, hcountT, hfrontT⟩ := asked_ofPoints t
  rw [differenceAt.eq_4 _ _ hs ht fun h _ => hs h, hsizeS, hsizeT, hfrontS, hfrontT]
  show (if sharedLength Value.equal _ _ < _ then Except.ok ((sharedLength Value.equal _ _ : Nat) : Int)
    else (ofPoints s).count >>= fun m => (ofPoints t).count >>= fun n =>
      Except.ok (if m = n then -1 else ((min m n : Nat) : Int))) = _
  rw [sharedLength_items, hcountS, hcountT, List.length_map, List.length_map]
  show (if _ then _ else Except.ok (if s.length = t.length then -1
    else ((min s.length t.length : Nat) : Int))) = _
  obtain ⟨hleS, hleT⟩ := length_sharedPrefix_le s t
  by_cases hst : s = t
  · obtain ⟨hs, ht⟩ := length_sharedPrefix_eq_iff.mpr hst
    rw [if_pos hst, if_neg (by omega), if_pos (by omega)]
  · -- what they share ends before one of them does
    have hends := mt length_sharedPrefix_eq_iff.mp hst
    rw [if_neg hst]
    split_ifs with hplace hlengths
    · rw [Nat.min_eq_right (by omega)]
    · omega
    · congr 2
      omega

theorem differenceOf_ofPoints (s t : List CodePoint) :
    differenceOf (ofPoints s) (ofPoints t) = .ok (ofPoints (t.drop (sharedPrefix s t).length)) := by
  rw [differenceOf, textOrAbsent?_ofPoints, textOrAbsent?_ofPoints]
  show Except.ok (Value.ofOption Value.ofCodes (difference (some _) (some _))) = _
  rw [difference_eq, sharedPrefix_map_val, List.length_map, ← List.map_drop]
  rfl

/-! ## Several texts -/

theorem mapM_textOrAbsent? (texts : List (List CodePoint)) :
    (texts.map ofPoints).mapM textOrAbsent? = some ((texts.map (List.map Fin.val)).map some) := by
  induction texts with
  | nil => rfl
  | cons s texts ih =>
      rw [List.map_cons, List.mapM_cons, ih, textOrAbsent?_ofPoints]
      rfl

/-- The texts have a greatest prefix, which is found. -/
theorem exists_commonPrefixOf {texts : List (List CodePoint)} (h : texts ≠ []) :
    ∃ p, commonPrefixOf (texts.map ofPoints) = .ok (ofPoints p) ∧ IsGreatestPrefix texts p := by
  have hcodes : texts.map (List.map Fin.val) ≠ [] := by simpa using h
  obtain ⟨codes, hfound, hgreatest⟩ := exists_commonPrefix? hcodes
  obtain ⟨first, rest, rfl⟩ := List.exists_cons_of_ne_nil h
  obtain ⟨p, -, rfl⟩ := List.prefix_map_iff.mp (hgreatest.le List.mem_cons_self)
  refine ⟨p, ?_, ?_⟩
  · rw [commonPrefixOf.eq_1 _ _ (mapM_textOrAbsent? _), hfound]
    rfl
  · intro q
    rw [← List.prefix_map_iff_of_injective Fin.val_injective, hgreatest, List.forall_mem_map]
    exact forall₂_congr fun s _ => List.prefix_map_iff_of_injective Fin.val_injective

/-- Of two texts, it is what they share. -/
theorem commonPrefixOf_pair (s t : List CodePoint) :
    commonPrefixOf [ofPoints s, ofPoints t] = .ok (ofPoints (sharedPrefix s t)) := by
  obtain ⟨p, hp, hgreatest⟩ := exists_commonPrefixOf (List.cons_ne_nil s [t])
  rw [← hgreatest.unique (.pair s t)]
  exact hp

theorem foldlM_commonPrefixOf (rest : List (List CodePoint)) (p : List CodePoint) :
    rest.foldlM (fun shared s => commonPrefixOf [shared, ofPoints s]) (ofPoints p)
      = .ok (ofPoints (rest.foldl sharedPrefix p)) := by
  induction rest generalizing p with
  | nil => rfl
  | cons s rest ih =>
      rw [List.foldlM_cons, commonPrefixOf_pair]
      exact ih (sharedPrefix p s)

/-! ## What is found -/

/-- **PREFIX, PLACE AND TAILS FIT TOGETHER**: what two texts share, followed by the tail of
    either, is that text.  The place of the first difference is the same from both sides:
    -1 if the texts are equal, and otherwise the length of what they share.  Before it the
    texts have the same characters; there the characters differ, or one text has ended. -/
theorem differences_fit (s t : List CodePoint) :
    ∃ (shared tailS tailT : List CodePoint) (place : Int),
      commonPrefixOf [ofPoints s, ofPoints t] = .ok (ofPoints shared) ∧
      differenceOf (ofPoints s) (ofPoints t) = .ok (ofPoints tailT) ∧ shared ++ tailT = t ∧
      differenceOf (ofPoints t) (ofPoints s) = .ok (ofPoints tailS) ∧ shared ++ tailS = s ∧
      differenceAt (ofPoints s) (ofPoints t) = .ok place ∧
      differenceAt (ofPoints t) (ofPoints s) = .ok place ∧
      (place = -1 ↔ (ofPoints s).equal (ofPoints t) = true) ∧
      ((ofPoints s).equal (ofPoints t) = false → place = shared.length ∧
        (∀ i < shared.length, s[i]? = t[i]?) ∧ s[shared.length]? ≠ t[shared.length]?) := by
  have hplace := differenceAt_ofPoints t s
  have htail := sharedPrefix_append_drop t s
  rw [sharedPrefix_comm, if_congr (eq_comm (a := t)) rfl rfl] at hplace
  rw [sharedPrefix_comm t s] at htail
  refine ⟨sharedPrefix s t, _, _, _, commonPrefixOf_pair s t, differenceOf_ofPoints s t,
    sharedPrefix_append_drop s t, ?_, htail, differenceAt_ofPoints s t, hplace, ?_, ?_⟩
  · rw [differenceOf_ofPoints, sharedPrefix_comm]
  · rw [Value.equal_ofPoints, decide_eq_true_eq]
    by_cases h : s = t
    · rw [if_pos h]
      exact iff_of_true rfl h
    · rw [if_neg h]
      exact iff_of_false (by omega) h
  · rw [Value.equal_ofPoints, decide_eq_false_iff_not]
    intro h
    refine ⟨if_neg h, ?_, ?_⟩
    · intro i hi
      rw [length_sharedPrefix] at hi
      rw [← List.getElem?_take_of_lt hi, ← sharedPrefix, ← take_sharedLength,
        List.getElem?_take_of_lt hi]
    · rw [length_sharedPrefix]
      exact getElem?_sharedLength_ne h

/-- **THE SHARED PREFIX IS THE GREATEST**: of texts, one at least, it is found without asking
    any of them for a character behind its end, which would be a fault.  It is a prefix of
    each of them, and each text that is a prefix of all of them is a prefix of it.  So
    neither the order of the texts nor their repetition matters, and it is what two texts
    share, taken from one text to the next. -/
theorem commonPrefixOf_greatest (first : List CodePoint) (rest : List (List CodePoint)) :
    ∃ shared : List CodePoint,
      commonPrefixOf ((first :: rest).map ofPoints) = .ok (ofPoints shared) ∧
      (∀ s ∈ first :: rest, shared <+: s) ∧
      (∀ p, (∀ s ∈ first :: rest, p <+: s) → p <+: shared) ∧
      (∀ texts : List (List CodePoint), (∀ s, s ∈ first :: rest ↔ s ∈ texts) →
        commonPrefixOf (texts.map ofPoints) = .ok (ofPoints shared)) ∧
      rest.foldlM (fun shared s => commonPrefixOf [shared, ofPoints s]) (ofPoints first)
        = .ok (ofPoints shared) := by
  obtain ⟨shared, hshared, hgreatest⟩ := exists_commonPrefixOf (List.cons_ne_nil first rest)
  refine ⟨shared, hshared, fun s hs => hgreatest.le hs, fun p hp => (hgreatest p).mpr hp, ?_, ?_⟩
  · intro texts hmem
    have hne : texts ≠ [] := List.ne_nil_of_mem ((hmem first).mp List.mem_cons_self)
    obtain ⟨p, hp, hgreatest'⟩ := exists_commonPrefixOf hne
    rw [hp, (hgreatest.congr hmem).unique hgreatest']
  · have hfold : IsGreatestPrefix (first :: rest) (rest.foldl sharedPrefix first) :=
      (IsGreatestPrefix.single first).foldl rest
    rw [foldlM_commonPrefixOf, hgreatest.unique hfold]

end Likeness
