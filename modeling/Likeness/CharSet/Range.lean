import Likeness.Fault

/-!
# Ranges of characters

A span holds the characters between two bounds.  A range holds those of its span,
or, when it is negated, all others.  The bounds are in order: a span given
backwards is turned round when it is built.

A definition names ranges.  It is read from left to right, and at each place the
longest reading that fits is taken, in this order: `^a-e`, `a-e`, `^a`, `a`.  So a
`^` at the end, and a `-` that cannot join two characters, stand for themselves.
-/

namespace Likeness

/-- An inclusive run of characters. -/
structure CharSpan where
  first : Char
  last : Char
  /-- The bounds are in order. -/
  ordered : first ≤ last := by decide

/-- An inclusive run of characters, or its complement. -/
structure CharRange extends CharSpan where
  negated : Bool

namespace CharSpan

/-- Two spans are the same when their bounds agree. -/
def same (r s : CharSpan) : Bool := r.first == s.first && r.last == s.last

theorem ext_of_same {r s : CharSpan} (h : r.same s = true) : r = s := by
  obtain ⟨a, b, _⟩ := r
  obtain ⟨c, d, _⟩ := s
  simp only [same, Bool.and_eq_true, beq_iff_eq] at h
  obtain ⟨rfl, rfl⟩ := h
  rfl

theorem same_self (r : CharSpan) : r.same r = true := by simp [same]

instance : DecidableEq CharSpan := fun r s =>
  if h : r.same s = true then isTrue (ext_of_same h)
  else isFalse fun e => h (e ▸ same_self r)

/-- The span between two characters given in either order. -/
def between (a b : Char) : CharSpan :=
  if h : a ≤ b then ⟨a, b, h⟩ else ⟨b, a, (Char.le_total b a).resolve_right h⟩

/-- The span of one character. -/
def single (c : Char) : CharSpan := ⟨c, c, Char.le_refl c⟩

/-- The span between two bounds given as texts, each of one character. -/
def ofTexts (start finish : String) : Except Fault CharSpan :=
  match start.toList, finish.toList with
  | [a], [b] => .ok (between a b)
  | _, _ => .error .wideBounds

/-- Texts in the order of their characters' code points. -/
def textAtMost : List Char → List Char → Bool
  | [], _ => true
  | _ :: _, [] => false
  | a :: s, b :: t => a.toNat < b.toNat || a == b && textAtMost s t

/-- A text stands between the bounds, in the order of texts. -/
def containsText (r : CharSpan) (s : List Char) : Bool :=
  textAtMost [r.first] s && textAtMost s [r.last]

/-- The code points between the bounds, in order. -/
def codes (r : CharSpan) : List Nat :=
  (List.range (r.last.toNat + 1 - r.first.toNat)).map (r.first.toNat + ·)

/-- The definition of a span: `a` or `a-e`. -/
def definition (r : CharSpan) : List Char :=
  if r.first = r.last then [r.first] else [r.first, '-', r.last]

end CharSpan

namespace CharRange

/-- Two ranges are the same range when span and direction agree. -/
def same (r s : CharRange) : Bool := r.toCharSpan.same s.toCharSpan && r.negated == s.negated

theorem ext_of_same {r s : CharRange} (h : r.same s = true) : r = s := by
  obtain ⟨a, n⟩ := r
  obtain ⟨b, m⟩ := s
  simp only [same, Bool.and_eq_true, beq_iff_eq] at h
  obtain ⟨h, rfl⟩ := h
  rw [CharSpan.ext_of_same h]

theorem same_self (r : CharRange) : r.same r = true := by simp [same, CharSpan.same_self]

instance : DecidableEq CharRange := fun r s =>
  if h : r.same s = true then isTrue (ext_of_same h)
  else isFalse fun e => h (e ▸ same_self r)

/-- The range between two characters given in either order. -/
def between (a b : Char) (negated : Bool) : CharRange := ⟨.between a b, negated⟩

/-- The range of one character. -/
def single (c : Char) (negated : Bool) : CharRange := ⟨.single c, negated⟩

/-- A text stands between the bounds, in the order of texts, or outside them
    when the range is negated. -/
def containsText (r : CharRange) (s : List Char) : Bool :=
  r.toCharSpan.containsText s != r.negated

/-- A character belongs to the range. -/
def contains (r : CharRange) (c : Char) : Bool := r.containsText [c]

/-- The definition of a range: that of its span, behind a `^` when it is negated. -/
def definition (r : CharRange) : List Char :=
  (if r.negated then ['^'] else []) ++ r.toCharSpan.definition

/-- The ranges that a definition names, in order. -/
def parse : List Char → List CharRange
  | '^' :: a :: '-' :: b :: rest => between a b true :: parse rest
  | a :: '-' :: b :: rest => between a b false :: parse rest
  | '^' :: a :: rest => single a true :: parse rest
  | a :: rest => single a false :: parse rest
  | [] => []

end CharRange

end Likeness
