import Likeness.HashCode.Fields

/-! # Appending is folding codes

    What a value adds to a hash code does not depend on the total that it is
    appended to, nor on the multiplier: it is the list of its `codes`, which are
    folded one after another up to the first that is missing.

    The main results are `append_eq_fold` and its companion for several calls,
    `Builder.receiveAll_eq_fold`. -/

namespace Likeness.HashCode

/-! ## Codes -/

/-- The values of the fields that a record is hashed by, as far as there are any. -/
def hashedFields (fields : List (FieldInfo × Option Value)) : List Value :=
  (fields.filter fun f => counts f.1 && !isPrivate f.1.name).filterMap (·.2)

theorem hashedFields_none (f : FieldInfo) (fs : List (FieldInfo × Option Value)) :
    hashedFields ((f, none) :: fs) = hashedFields fs := by
  rw [hashedFields, List.filter_cons]
  split
  · rfl
  · rfl

theorem hashedFields_some (f : FieldInfo) (v : Value) (fs : List (FieldInfo × Option Value)) :
    hashedFields ((f, some v) :: fs)
      = if counts f && !isPrivate f.name then v :: hashedFields fs else hashedFields fs := by
  rw [hashedFields, List.filter_cons, apply_ite (List.filterMap _)]
  rfl

mutual

/-- The codes that a value is appended as, in order.  A set, a dictionary, a record and
    any other value that is not gone through item by item has one, which may be missing
    for a reason. -/
def codes : Value → List (Except Fault Int)
  | .null => [.ok 0]
  | .bool b => [.ok (if b then 0 else 1)]
  | .int n => [.ok (ofInt n)]
  | .real x => [.ok (ofFloat x)]
  | .nan bits => [.ok (overlay bits.toNat)]
  | .illFormed points => (points.map Int.ofNat).map .ok
  | .text s => (s.toList.map fun c => (c.toNat : Int)).map .ok
  | .bytes _ octets => (octets.map fun b => (b.toNat : Int)).map .ok
  | .list xs => codesOfAll xs
  | .tuple xs => codesOfAll xs
  | .range a b c => ((Value.rangeItems a b c).map ofInt).map .ok
  | .set _ xs => [(sumMembers xs).map wrap]
  | .dict es => [(sumEntries es).map wrap]
  | .record _ fs =>
    [if lacksField fs then .error .noSuchField
      else alone (appendFields defaultMultiplier fs defaultInitial)]
  | .charRange r negated =>
    [alone (append defaultMultiplier negated
      (appendCodes defaultMultiplier defaultInitial [r.first.toNat, r.last.toNat]))]
  | .hashCode _ total => [.ok (ownCode total)]
  | .hashed code => [.ok (ownCode code)]
  | .object _ => [.error .wrongKind]
  | .slotted _ _ => [.error .wrongKind]
  | .declaration _ => [.error .wrongKind]
  | .unhashable => [.error .wrongKind]
termination_by structural v => v

/-- The codes of values appended one after another. -/
def codesOfAll : List Value → List (Except Fault Int)
  | [] => []
  | x :: xs => codes x ++ codesOfAll xs
termination_by structural xs => xs

end

theorem codesOfAll_eq_flatten (xs : List Value) : codesOfAll xs = (xs.map codes).flatten := by
  induction xs with
  | nil => rfl
  | cons x xs ih => rw [codesOfAll, ih, List.map_cons, List.flatten_cons]

/-- The codes that a call is for. -/
def Call.codes : Call → List (Except Fault Int)
  | .value v => HashCode.codes v
  | .base code => [code.int?.elim (.error .wrongKind) fun n => .ok (wrap n)]

/-! ## Folding -/

/-- The total after codes one after another, up to the first that is missing. -/
def fold (m : Int) : List (Except Fault Int) → Int → Except Stopped Int
  | [], t => .ok t
  | c :: cs, t =>
    match stepWith m t c with
    | .ok t => fold m cs t
    | .error s => .error s

theorem fold_single (m : Int) (c : Except Fault Int) (t : Int) :
    fold m [c] t = stepWith m t c := by
  cases c with
  | ok code => rfl
  | error e => rfl

theorem fold_append (m : Int) (cs ds : List (Except Fault Int)) (t : Int) :
    fold m (cs ++ ds) t = (fold m cs t).bind (fold m ds) := by
  induction cs generalizing t with
  | nil => rfl
  | cons c cs ih =>
      cases c with
      | ok code => exact ih (step m t code)
      | error e => rfl

/-- Codes that are all there are folded to the end. -/
theorem fold_ok (m : Int) (vs : List Int) (t : Int) :
    fold m (vs.map .ok) t = .ok (appendCodes m t vs) := by
  induction vs generalizing t with
  | nil => rfl
  | cons v vs ih => exact ih (step m t v)

/-- Only codes that are all there are folded to the end. -/
theorem exists_codes_of_fold {m : Int} {cs : List (Except Fault Int)} {t t' : Int}
    (h : fold m cs t = .ok t') : ∃ vs : List Int, cs = vs.map .ok := by
  induction cs generalizing t with
  | nil => exact ⟨[], rfl⟩
  | cons c cs ih =>
      cases c with
      | ok code =>
          obtain ⟨vs, rfl⟩ := ih (t := step m t code) h
          exact ⟨code :: vs, rfl⟩
      | error e => exact nomatch h

/-- Where folding ends, the codes are all there. -/
theorem fold_eq_ok_iff {m : Int} {cs : List (Except Fault Int)} {t t' : Int} :
    fold m cs t = .ok t' ↔ ∃ vs : List Int, cs = vs.map .ok ∧ t' = appendCodes m t vs := by
  constructor
  · intro h
    obtain ⟨vs, rfl⟩ := exists_codes_of_fold h
    rw [fold_ok] at h
    exact ⟨vs, rfl, (Except.ok.inj h).symm⟩
  · rintro ⟨vs, rfl, rfl⟩
    exact fold_ok m vs t

/-- Where it stops, the first code is missing, and those before it were folded. -/
theorem fold_eq_error_iff {m : Int} {cs : List (Except Fault Int)} {t : Int} {s : Stopped} :
    fold m cs t = .error s ↔ ∃ (vs : List Int) (rest : List (Except Fault Int)),
      cs = vs.map .ok ++ .error s.fault :: rest ∧ s.total = appendCodes m t vs := by
  constructor
  · intro h
    induction cs generalizing t with
    | nil => exact nomatch h
    | cons c cs ih =>
        cases c with
        | error e =>
            cases h
            exact ⟨[], cs, rfl, rfl⟩
        | ok code =>
            obtain ⟨vs, rest, rfl, htotal⟩ := ih (t := step m t code) h
            exact ⟨code :: vs, rest, rfl, htotal⟩
  · rintro ⟨vs, rest, rfl, htotal⟩
    rw [fold_append, fold_ok]
    show Except.error (Stopped.mk (appendCodes m t vs) s.fault) = _
    rw [← htotal]

/-! ## Appending -/

mutual

/-- **APPENDING IS FOLDING CODES**, whatever the multiplier and the total are. -/
theorem append_eq_fold (m : Int) (v : Value) (t : Int) : append m v t = fold m (codes v) t := by
  cases v with
  | list xs => exact appendAll_eq_fold m xs t
  | tuple xs => exact appendAll_eq_fold m xs t
  | illFormed points => exact (fold_ok m _ t).symm
  | text s => exact (fold_ok m _ t).symm
  | bytes mutable octets => exact (fold_ok m _ t).symm
  | range a b c => exact (fold_ok m _ t).symm
  | set frozen xs => exact (fold_single m _ t).symm
  | dict es => exact (fold_single m _ t).symm
  | record n fs => exact (fold_single m _ t).symm
  | charRange r negated => exact (fold_single m _ t).symm
  | _ => rfl

theorem appendAll_eq_fold (m : Int) (xs : List Value) (t : Int) :
    appendAll m xs t = fold m (codesOfAll xs) t := by
  cases xs with
  | nil => rfl
  | cons x xs =>
      rw [appendAll, codesOfAll, fold_append, append_eq_fold m x t]
      cases fold m (codes x) t with
      | ok t => exact appendAll_eq_fold m xs t
      | error s => rfl

end

/-- The fields of a record are appended one after another. -/
theorem appendFields_eq_appendAll (m : Int) (fs : List (FieldInfo × Option Value)) (t : Int) :
    appendFields m fs t = appendAll m (hashedFields fs) t := by
  induction fs generalizing t with
  | nil => rfl
  | cons f fs ih =>
      obtain ⟨f, v⟩ := f
      cases v with
      | none => rw [appendFields, hashedFields_none, ih]
      | some v =>
          rw [appendFields, hashedFields_some]
          split
          · rw [appendAll]
            cases append m v t with
            | ok t => exact ih t
            | error s => rfl
          · exact ih t

/-- A call folds its codes. -/
theorem Builder.receive_eq_fold (b : Builder) (call : Call) :
    b.receive call = fold b.multiplier call.codes b.total := by
  cases call with
  | value v => exact append_eq_fold b.multiplier v b.total
  | base code => exact (fold_single b.multiplier _ b.total).symm

/-- **CALLS FOLD THE CODES OF EACH**, one call after another, and keep the multiplier. -/
theorem Builder.receiveAll_eq_fold (b : Builder) (calls : List Call) :
    b.receiveAll calls = (fold b.multiplier (calls.flatMap Call.codes) b.total).map
      fun total => { b with total } := by
  induction calls generalizing b with
  | nil => rfl
  | cons call calls ih =>
      rw [Builder.receiveAll, List.flatMap_cons, fold_append, b.receive_eq_fold call]
      cases fold b.multiplier call.codes b.total with
      | ok total => exact ih { b with total }
      | error s => rfl

end Likeness.HashCode
