import Likeness.Proofs.HashCode.Equality
import Likeness.Proofs.Value.Points

/-! # Leaves

    Appending a value goes down its lists, tuples, ranges, octets and texts, in order, to
    the leaves: scalars, single characters, and what is hashed as a whole.  Each leaf has
    a code, which may be missing, and the value is appended as the codes of its leaves
    (`codes_eq_leaves`).  So it makes no difference how sequences are nested in each
    other, and a leaf without a code leaves the total at what the leaves before it gave.

    The main result is `Builder.receive_leaves`. -/

namespace Likeness.HashCode

/-! ## What a value consists of -/

/-- What a value is appended by: a scalar, a character by its code point, or something that
    is hashed as a whole, of which a set, a dictionary or an instance of a declaration is
    hashed by what is in it, and another object by a code of its own, or not at all. -/
inductive Leaf where
  | null
  | bool (b : Bool)
  | int (n : Int)
  | real (x : Float)
  | nan (bits : UInt64)
  | character (point : Nat)
  | set (members : List Value)
  | dict (entries : List (Value × Value))
  | record (declaration : Nat) (fields : List (FieldInfo × Option Value))
  | charRange (span : CharSpan) (negated : Value)
  | own (code : Int)
  | refused

mutual

/-- The leaves of a value, in order. -/
def leaves : Value → List Leaf
  | .list xs => leavesOfAll xs
  | .tuple xs => leavesOfAll xs
  | .range a b c => (Value.rangeItems a b c).map .int
  | .bytes _ octets => octets.map fun b => .int b.toNat
  | .text s => s.toList.map fun c => .character c.toNat
  | .illFormed points => points.map .character
  | .null => [.null]
  | .bool b => [.bool b]
  | .int n => [.int n]
  | .real x => [.real x]
  | .nan bits => [.nan bits]
  | .set _ xs => [.set xs]
  | .dict es => [.dict es]
  | .record d fs => [.record d fs]
  | .charRange r negated => [.charRange r negated]
  | .hashCode _ total => [.own total]
  | .hashed code => [.own code]
  | .object _ => [.refused]
  | .slotted _ _ => [.refused]
  | .declaration _ => [.refused]
  | .unhashable => [.refused]
termination_by structural v => v

/-- The leaves of values one after another. -/
def leavesOfAll : List Value → List Leaf
  | [] => []
  | x :: xs => leaves x ++ leavesOfAll xs
termination_by structural xs => xs

end

theorem leavesOfAll_eq_flatMap (xs : List Value) : leavesOfAll xs = xs.flatMap leaves := by
  induction xs with
  | nil => rfl
  | cons x xs ih => rw [leavesOfAll, ih, List.flatMap_cons]

/-! ## The code of a leaf -/

/-- The total of a hash code that is started for some values and given nothing else. -/
def separately (xs : List Value) : Except Fault Int :=
  alone (appendAll defaultMultiplier xs defaultInitial)

/-- The hash code of the fields of an instance. -/
def ofInstance (v : Value) : Except Fault Int :=
  ofFields v (.tuple []) false (.int defaultInitial) (.int defaultMultiplier)

/-- The code of a leaf.  Members of a set and entries of a dictionary are hashed separately,
    and what that gives is added up. -/
def Leaf.code : Leaf → Except Fault Int
  | .null => .ok 0
  | .bool b => .ok (if b then 0 else 1)
  | .int n => .ok (ofInt n)
  | .real x => .ok (ofFloat x)
  | .nan bits => .ok (overlay bits.toNat)
  | .character point => .ok point
  | .set members => (members.mapM fun x => separately [x]).map fun totals => wrap totals.sum
  | .dict entries => (entries.mapM fun e => separately [e.1, e.2]).map fun totals => wrap totals.sum
  | .record d fields => ofInstance (.record d fields)
  | .charRange r negated => ofInstance (.charRange r negated)
  | .own code => .ok (ownCode code)
  | .refused => .error .wrongKind

theorem sumCodes_map {α : Type} (f : α → Except Fault Int) (xs : List α) :
    sumCodes (xs.map f) = (xs.mapM f).map List.sum := by
  induction xs with
  | nil => rfl
  | cons x xs ih =>
      rw [List.map_cons]
      cases hx : f x with
      | error e =>
          rw [mapM_cons_error xs hx]
          rfl
      | ok code =>
          rw [mapM_cons_ok xs hx, sumCodes, ih]
          cases xs.mapM f with
          | error e => rfl
          | ok totals => exact congrArg Except.ok List.sum_cons.symm

theorem separately_eq_codeFrom (xs : List Value) :
    separately xs = codeFrom defaultInitial (codesOfAll xs) := by
  rw [separately, appendAll_eq_fold]
  rfl

theorem code_set (xs : List Value) : (Leaf.set xs).code = (sumMembers xs).map wrap := by
  have hmember : (fun x => separately [x]) = memberCode := by
    funext x
    rw [separately_eq_codeFrom, codesOfAll, codesOfAll, List.append_nil, memberCode]
  rw [Leaf.code, hmember, sumMembers_eq, sumCodes_map]
  cases xs.mapM memberCode <;> rfl

theorem code_dict (es : List (Value × Value)) :
    (Leaf.dict es).code = (sumEntries es).map wrap := by
  have hentry : (fun e : Value × Value => separately [e.1, e.2]) = entryCode := by
    funext e
    rw [separately_eq_codeFrom, codesOfAll, codesOfAll, codesOfAll, List.append_nil, entryCode]
  rw [Leaf.code, hentry, sumEntries_eq, sumCodes_map]
  cases es.mapM entryCode <;> rfl

theorem ofInstance_eq {v : Value} (hv : isInstance v = true) {fields : List (String × Value)}
    (hfields : declaredFields v = .ok fields) :
    ofInstance v = codeFrom defaultInitial (codesOfAll (selectFields [] false fields)) :=
  ofFields_instance (b := ⟨defaultMultiplier, defaultInitial⟩) hv rfl rfl hfields

theorem code_record (d : Nat) (fs : List (FieldInfo × Option Value)) :
    (Leaf.record d fs).code = if lacksField fs then .error .noSuchField
      else alone (appendFields defaultMultiplier fs defaultInitial) := by
  cases hlacks : lacksField fs with
  | true =>
      have hfields : declaredFields (.record d fs) = .error .noSuchField := by
        rw [declaredFields, valuedFields_eq, hlacks]
        rfl
      exact ofFields_of_no_fields (b := ⟨defaultMultiplier, defaultInitial⟩)
        (ne_null_of_instance rfl) rfl rfl hfields
  | false =>
      rw [if_neg Bool.false_ne_true, recordCode_eq, hashedFields_eq_select]
      exact ofInstance_eq rfl (declaredFields_record hlacks)

theorem codes_ofChars (c : Char) : codes (Value.ofChars [c]) = [.ok c.toNat] := by
  show ((String.ofList [c]).toList.map fun c => (c.toNat : Int)).map Except.ok = _
  rw [String.toList_ofList]
  rfl

theorem codeFrom_append (t : Int) (vs : List Int) (cs : List (Except Fault Int)) :
    codeFrom t (vs.map .ok ++ cs) = codeFrom (appendCodes defaultMultiplier t vs) cs := by
  rw [codeFrom, fold_append, fold_ok]
  rfl

theorem code_charRange (r : CharSpan) (negated : Value) :
    (Leaf.charRange r negated).code = alone (append defaultMultiplier negated
      (appendCodes defaultMultiplier defaultInitial [r.first.toNat, r.last.toNat])) := by
  have hselect : selectFields [] false [("start", Value.ofChars [r.first]),
      ("end", Value.ofChars [r.last]), ("negated", negated)]
        = [Value.ofChars [r.first], Value.ofChars [r.last], negated] := by
    have hstart : isPrivate "start" = false := by decide
    have hend : isPrivate "end" = false := by decide
    have hnegated : isPrivate "negated" = false := by decide
    simp [selectFields, hstart, hend, hnegated]
  have hcode : ofInstance (.charRange r negated)
      = codeFrom defaultInitial (codesOfAll [Value.ofChars [r.first], Value.ofChars [r.last],
          negated]) := hselect ▸ ofInstance_eq rfl rfl
  rw [codesOfAll, codesOfAll, codesOfAll, codesOfAll, codes_ofChars, codes_ofChars,
    List.append_nil, ← List.append_assoc] at hcode
  rw [Leaf.code, hcode, alone_append]
  exact codeFrom_append defaultInitial [r.first.toNat, r.last.toNat] (codes negated)

theorem code_octet (b : UInt8) : (Leaf.int b.toNat).code = .ok b.toNat := by
  have hb := b.toNat_lt
  refine congrArg Except.ok (if_pos ⟨?_, ?_⟩)
  · exact le_trans (by decide) (Int.natCast_nonneg b.toNat)
  · exact lt_trans (Int.ofNat_lt.mpr hb) (by decide)

mutual

/-- **A VALUE IS APPENDED AS THE CODES OF ITS LEAVES**. -/
theorem codes_eq_leaves (v : Value) : codes v = (leaves v).map Leaf.code := by
  -- Only lists and tuples hold values that are gone down into.
  cases v with
  | list xs => exact codesOfAll_eq_leaves xs
  | tuple xs => exact codesOfAll_eq_leaves xs
  | range a b c =>
      rw [codes, leaves, List.map_map, List.map_map]
      rfl
  | bytes mutable octets =>
      rw [codes, leaves, List.map_map, List.map_map]
      exact List.map_congr_left fun b _ => (code_octet b).symm
  | text s =>
      rw [codes, leaves, List.map_map, List.map_map]
      rfl
  | illFormed points =>
      rw [codes, leaves, List.map_map, List.map_map]
      rfl
  | set frozen xs => exact congrArg (fun c => [c]) (code_set xs).symm
  | dict es => exact congrArg (fun c => [c]) (code_dict es).symm
  | record d fs => exact congrArg (fun c => [c]) (code_record d fs).symm
  | charRange r negated => exact congrArg (fun c => [c]) (code_charRange r negated).symm
  | _ => rfl

theorem codesOfAll_eq_leaves (xs : List Value) :
    codesOfAll xs = (leavesOfAll xs).map Leaf.code := by
  cases xs with
  | nil => rfl
  | cons x xs =>
      rw [codesOfAll, leavesOfAll, List.map_append, codes_eq_leaves x, codesOfAll_eq_leaves xs]

end

/-! ## Sequences -/

/-- The code points of a text. -/
def points? : Value → Option (List Nat)
  | .text s => some (s.toList.map Char.toNat)
  | .illFormed points => some points
  | _ => none

/-- A sequence that consists of a sequence and another one of its kind behind it.  Halves of
    a character that meet where two texts are joined stay halves. -/
inductive Joined : Value → Value → Value → Prop where
  | list (xs ys : List Value) : Joined (.list xs) (.list ys) (.list (xs ++ ys))
  | tuple (xs ys : List Value) : Joined (.tuple xs) (.tuple ys) (.tuple (xs ++ ys))
  | bytes (m n : Bool) (xs ys : List UInt8) :
      Joined (.bytes m xs) (.bytes n ys) (.bytes m (xs ++ ys))
  | text {u v w : Value} {ps qs : List Nat} (hu : points? u = some ps) (hv : points? v = some qs)
      (hw : points? w = some (ps ++ qs)) : Joined u v w

theorem leaves_of_points {v : Value} {ps : List Nat} (h : points? v = some ps) :
    leaves v = ps.map .character := by
  cases v with
  | text s =>
      cases h
      rw [leaves, List.map_map]
      rfl
  | illFormed points =>
      cases h
      rfl
  | _ => exact nomatch h

theorem leavesOfAll_append (xs ys : List Value) :
    leavesOfAll (xs ++ ys) = leavesOfAll xs ++ leavesOfAll ys := by
  rw [leavesOfAll_eq_flatMap, leavesOfAll_eq_flatMap, leavesOfAll_eq_flatMap, List.flatMap_append]

theorem Joined.leaves_eq {u v w : Value} (h : Joined u v w) : leaves w = leaves u ++ leaves v := by
  cases h with
  | list xs ys => exact leavesOfAll_append xs ys
  | tuple xs ys => exact leavesOfAll_append xs ys
  | bytes m n xs ys => exact List.map_append
  | text hu hv hw =>
      rw [leaves_of_points hu, leaves_of_points hv, leaves_of_points hw, List.map_append]

theorem leaves_ofChars (c : Char) : leaves (Value.ofChars [c]) = [.character c.toNat] := by
  show (String.ofList [c]).toList.map _ = _
  rw [String.toList_ofList]
  rfl

/-- A code point is a leaf of the text that it makes up. -/
theorem leaves_ofCodes {p : Nat} (hp : p < 0x110000) :
    leaves (Value.ofCodes [p]) = [.character p] := by
  rw [Value.ofCodes, List.any_cons, List.any_nil, Bool.or_false]
  split_ifs with hhalf
  · rfl
  · have hwhole := Value.toNat_ofNat_of_whole hp (Bool.eq_false_iff.mpr hhalf)
    rw [List.map_cons, List.map_nil, leaves_ofChars, hwhole]

/-- The leaves of a sequence are those of its items.  The items of a text are made from its
    code points, which only works for numbers that are code points. -/
theorem leaves_of_items {s : Value} {xs : List Value} (h : s.items? = some xs)
    (hpoints : ∀ ps, s = .illFormed ps → ∀ p ∈ ps, p < 0x110000) :
    leaves s = leavesOfAll xs := by
  rw [leavesOfAll_eq_flatMap]
  cases s with
  | text s =>
      cases h
      rw [List.flatMap_map, funext leaves_ofChars]
      exact List.map_eq_flatMap
  | illFormed points =>
      cases h
      rw [List.flatMap_map, List.flatMap_congr fun p hp => leaves_ofCodes (hpoints points rfl p hp)]
      exact List.map_eq_flatMap
  | bytes mutable octets =>
      cases h
      rw [List.flatMap_map]
      exact List.map_eq_flatMap
  | range a b c =>
      cases h
      rw [List.flatMap_map]
      exact List.map_eq_flatMap
  | list xs =>
      cases h
      exact leavesOfAll_eq_flatMap xs
  | tuple xs =>
      cases h
      exact leavesOfAll_eq_flatMap xs
  | _ => exact nomatch h

/-- A sequence among other items can be replaced by its own items. -/
theorem leaves_nested {s : Value} {xs : List Value} (h : s.items? = some xs)
    (hpoints : ∀ ps, s = .illFormed ps → ∀ p ∈ ps, p < 0x110000) (us vs : List Value) :
    leaves (.list (us ++ s :: vs)) = leaves (.list (us ++ xs ++ vs)) := by
  rw [leaves, leaves, leavesOfAll_append, leavesOfAll, leavesOfAll_append, leavesOfAll_append,
    leaves_of_items h hpoints, List.append_assoc]

/-! ## Appending leaves -/

theorem Builder.receive_eq_leaves (b : Builder) (v : Value) :
    b.receive (.value v) = fold b.multiplier ((leaves v).map Leaf.code) b.total := by
  rw [b.receive_eq_fold, ← codes_eq_leaves]
  rfl

theorem Builder.receive_eq_ok_iff (b : Builder) {v : Value} {t : Int} :
    b.receive (.value v) = .ok t ↔ ∃ vs : List Int,
      (leaves v).map Leaf.code = vs.map .ok ∧ t = appendCodes b.multiplier b.total vs := by
  rw [b.receive_eq_leaves]
  exact fold_eq_ok_iff

theorem Builder.receive_eq_error_iff (b : Builder) {v : Value} {s : Stopped} :
    b.receive (.value v) = .error s ↔
      ∃ (before : List Leaf) (leaf : Leaf) (after : List Leaf) (vs : List Int),
        leaves v = before ++ leaf :: after ∧ before.map Leaf.code = vs.map .ok ∧
        leaf.code = .error s.fault ∧ s.total = appendCodes b.multiplier b.total vs := by
  rw [b.receive_eq_leaves, fold_eq_error_iff]
  constructor
  · rintro ⟨vs, rest, hcodes, htotal⟩
    obtain ⟨before, tail, hleaves, hbefore, htail⟩ := List.map_eq_append_iff.mp hcodes
    obtain ⟨leaf, after, rfl, hleaf, -⟩ := List.map_eq_cons_iff.mp htail
    exact ⟨before, leaf, after, vs, hleaves, hbefore, hleaf, htotal⟩
  · rintro ⟨before, leaf, after, vs, hleaves, hbefore, hleaf, htotal⟩
    refine ⟨vs, after.map Leaf.code, ?_, htotal⟩
    rw [hleaves, List.map_append, List.map_cons, hbefore, hleaf]

theorem Builder.receive_stops_iff (b : Builder) (v : Value) :
    (∃ s, b.receive (.value v) = .error s) ↔ ∃ leaf ∈ leaves v, ∃ e, leaf.code = .error e := by
  constructor
  · rintro ⟨s, hs⟩
    obtain ⟨before, leaf, after, vs, hleaves, -, hleaf, -⟩ := b.receive_eq_error_iff.mp hs
    exact ⟨leaf, hleaves ▸ List.mem_append_right before List.mem_cons_self, s.fault, hleaf⟩
  · rintro ⟨leaf, hmem, e, hleaf⟩
    cases hreceive : b.receive (.value v) with
    | error s => exact ⟨s, rfl⟩
    | ok t =>
        obtain ⟨vs, hcodes, -⟩ := b.receive_eq_ok_iff.mp hreceive
        have hcode := List.mem_map_of_mem (f := Leaf.code) hmem
        rw [hcodes, hleaf] at hcode
        exact absurd hcode not_mem_ok

/-- **APPENDING FOLDS THE LEAVES**, one after another.  It stops exactly if one of them has no
    code, and then the leaves before the first such leaf have been appended, and nothing else.
    So a sequence is appended like its parts, and like any other sequence with the same leaves,
    however they are nested in it. -/
theorem Builder.receive_leaves (b : Builder) :
    (∀ v t, b.receive (.value v) = .ok t ↔ ∃ codes : List Int,
      (leaves v).map Leaf.code = codes.map .ok ∧ t = appendCodes b.multiplier b.total codes) ∧
    (∀ v, (∃ s, b.receive (.value v) = .error s) ↔ ∃ leaf ∈ leaves v, ∃ e, leaf.code = .error e) ∧
    (∀ v s, b.receive (.value v) = .error s ↔
      ∃ (before : List Leaf) (leaf : Leaf) (after : List Leaf) (codes : List Int),
        leaves v = before ++ leaf :: after ∧ before.map Leaf.code = codes.map .ok ∧
        leaf.code = .error s.fault ∧ s.total = appendCodes b.multiplier b.total codes) ∧
    (∀ u v w, Joined u v w → b.receiveAll [.value w] = b.receiveAll [.value u, .value v]) ∧
    (∀ v w, leaves v = leaves w → b.receive (.value v) = b.receive (.value w)) ∧
    (∀ (s : Value) (xs us vs : List Value), s.items? = some xs →
      (∀ ps, s = .illFormed ps → ∀ p ∈ ps, p < 0x110000) →
      b.receive (.value (.list (us ++ s :: vs))) = b.receive (.value (.list (us ++ xs ++ vs)))) := by
  have hleaves : ∀ v w, leaves v = leaves w → b.receive (.value v) = b.receive (.value w) := by
    intro v w h
    rw [b.receive_eq_leaves, b.receive_eq_leaves, h]
  refine ⟨fun v t => b.receive_eq_ok_iff, b.receive_stops_iff, fun v s => b.receive_eq_error_iff,
    ?_, hleaves, ?_⟩
  · intro u v w h
    have hcodes : codes w = codes u ++ codes v := by
      rw [codes_eq_leaves, codes_eq_leaves, codes_eq_leaves, h.leaves_eq, List.map_append]
    rw [b.receiveAll_eq_fold, b.receiveAll_eq_fold, List.flatMap_cons, List.flatMap_cons,
      List.flatMap_cons, Call.codes, Call.codes, Call.codes, hcodes, List.append_assoc]
  · intro s xs us vs h hpoints
    exact hleaves _ _ (leaves_nested h hpoints us vs)

/-- A set with a member that cannot be hashed, inside a tuple inside a list. -/
theorem Builder.receive_leaves_of_set :
    let b : Builder := ⟨37, 17⟩
    let set : Value := .set false [.int 3, .list [.null, .unhashable]]
    let v : Value := .list [.int 1, .tuple [.text "ab", set], .int 9]
    (∃ s, b.receive (.value v) = .error s ∧ s.total = appendCodes 37 17 [1, 97, 98]) ∧
    b.receive (.value v) = b.receive (.value (.list [.int 1, .text "ab", set, .int 9])) ∧
    Joined (.text "ab") (.illFormed [0xD83D]) (.illFormed [97, 98, 0xD83D]) ∧
    b.receiveAll [.value (.illFormed [97, 98, 0xD83D])]
      = b.receiveAll [.value (.text "ab"), .value (.illFormed [0xD83D])] := by
  intro b set v
  have hjoined : Joined (.text "ab") (.illFormed [0xD83D]) (.illFormed [97, 98, 0xD83D]) :=
    .text rfl rfl rfl
  obtain ⟨-, -, herror, hparts, -, hnested⟩ := b.receive_leaves
  refine ⟨⟨⟨_, .wrongKind⟩, (herror v _).mpr ?_, rfl⟩, ?_, hjoined, hparts _ _ _ hjoined⟩
  · exact ⟨[.int 1, .character 97, .character 98], .set [.int 3, .list [.null, .unhashable]],
      [.int 9], [1, 97, 98], rfl, rfl, rfl, rfl⟩
  · exact hnested (.tuple [.text "ab", set]) _ [.int 1] [.int 9] rfl fun ps h => nomatch h

end Likeness.HashCode
