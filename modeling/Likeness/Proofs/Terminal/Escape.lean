import Likeness.Terminal.Markup
import Mathlib.Data.List.Basic
import Mathlib.Tactic.SplitIfs

/-! # Escaped texts are markup

    Markup is refused when a tag turns off what is not on, or names something that
    cannot be read.  A text is escaped by putting backslashes in front of its tags,
    so that their number is odd, and then no tag of it turns anything on or off
    (`Markup.render_escape`).

    More than that, an escaped text can stand between a tag that turns a colour on
    and one that turns it off: what stands behind it is no part of a tag of it, and
    backslashes at its end do no harm (`Markup.reads_escape`). -/

namespace Likeness.Terminal

namespace Markup

/-! ## Tags -/

/-- What stands in the brackets of a tag. -/
def IsBody (body : List Char) : Prop :=
  ∃ c more, body = c :: more ∧ opensTag c = true ∧ more.all isInner = true

theorem bracketed?_eq_some {cs body after : List Char} :
    bracketed? cs = some (body, after) ↔ IsBody body ∧ cs = '[' :: (body ++ ']' :: after) := by
  constructor
  · intro h
    unfold bracketed? at h
    split at h
    · rename_i c rest
      split_ifs at h with hc
      split at h
      · rename_i after' hafter
        obtain ⟨rfl, rfl⟩ := Prod.mk.inj (Option.some.inj h)
        refine ⟨⟨c, _, rfl, hc, List.all_takeWhile⟩, ?_⟩
        rw [List.cons_append, ← hafter, List.takeWhile_append_dropWhile]
      · exact nomatch h
    · exact nomatch h
  · rintro ⟨⟨c, more, rfl, hc, hmore⟩, rfl⟩
    rw [List.all_eq_true] at hmore
    simp only [List.cons_append, bracketed?, hc, if_true]
    rw [List.dropWhile_append_of_pos hmore, List.takeWhile_append_of_pos hmore]
    simp [isInner]

/-- Backslashes in front of a text. -/
def slashes (n : Nat) (cs : List Char) : List Char := List.replicate n '\\' ++ cs

theorem slashes_succ (n : Nat) (cs : List Char) : slashes (n + 1) cs = '\\' :: slashes n cs := by
  rw [slashes, List.replicate_succ]
  rfl

/-- Every text is some backslashes and a text that begins with none. -/
theorem exists_slashes (cs : List Char) :
    ∃ n rest, cs = slashes n rest ∧ rest.head? ≠ some '\\' := by
  induction cs with
  | nil => exact ⟨0, [], rfl, nofun⟩
  | cons c cs ih =>
      by_cases hc : c = '\\'
      · obtain ⟨n, rest, rfl, hrest⟩ := ih
        exact ⟨n + 1, rest, by rw [hc, slashes_succ], hrest⟩
      · exact ⟨0, c :: cs, rfl, fun h => hc (Option.some.inj h)⟩

theorem cut_slashes (n : Nat) {cs : List Char} (h : cs.head? ≠ some '\\') :
    (slashes n cs).takeWhile (· = '\\') = List.replicate n '\\' ∧
      (slashes n cs).dropWhile (· = '\\') = cs := by
  induction n with
  | zero =>
      cases cs with
      | nil => exact ⟨rfl, rfl⟩
      | cons c cs =>
          have hc : ¬ c = '\\' := fun hc => h (congrArg some hc)
          simp [slashes, hc]
  | succ n ih => simpa [slashes_succ, List.replicate_succ] using ih

theorem tag?_slashes (n : Nat) {cs : List Char} (h : cs.head? ≠ some '\\') :
    tag? (slashes n cs) = (bracketed? cs).map fun p => (.tag n p.1, p.2) := by
  obtain ⟨htake, hdrop⟩ := cut_slashes n h
  rw [tag?, htake, hdrop, List.length_replicate]

/-- A tag is a body in brackets, behind some backslashes. -/
theorem tag?_eq_some {cs after : List Char} {t : Piece} :
    tag? cs = some (t, after) ↔ ∃ n body, IsBody body ∧ t = .tag n body ∧
      cs = slashes n ('[' :: (body ++ ']' :: after)) := by
  constructor
  · intro h
    obtain ⟨n, rest, rfl, hrest⟩ := exists_slashes cs
    rw [tag?_slashes n hrest] at h
    obtain ⟨⟨body, after'⟩, hbracketed, heq⟩ := Option.map_eq_some_iff.mp h
    obtain ⟨rfl, rfl⟩ := Prod.mk.inj heq
    obtain ⟨hbody, rfl⟩ := bracketed?_eq_some.mp hbracketed
    exact ⟨n, body, hbody, rfl, rfl⟩
  · rintro ⟨n, body, hbody, rfl, rfl⟩
    rw [tag?_slashes n (by simp), bracketed?_eq_some.mpr ⟨hbody, rfl⟩]
    rfl

/-! ## Texts that begin with no tag -/

/-- A tag could go on with this text behind its opening bracket. -/
def opens (cs : List Char) : Bool := cs.head?.any opensTag

/-- The first bracket of a text is a closing one. -/
def closes (cs : List Char) : Bool := (cs.dropWhile isInner).head? = some ']'

theorem tag?_backslash_eq_none {cs : List Char} : tag? ('\\' :: cs) = none ↔ tag? cs = none := by
  obtain ⟨n, rest, rfl, hrest⟩ := exists_slashes cs
  rw [← slashes_succ, tag?_slashes _ hrest, tag?_slashes _ hrest, Option.map_eq_none_iff,
    Option.map_eq_none_iff]

theorem tag?_bracket_eq_none {cs : List Char} :
    tag? ('[' :: cs) = none ↔ (opens cs && closes cs) = false := by
  have hcut : tag? (slashes 0 ('[' :: cs)) = _ := tag?_slashes 0 (by simp)
  rw [show slashes 0 ('[' :: cs) = '[' :: cs from rfl] at hcut
  rw [hcut, Option.map_eq_none_iff]
  cases cs with
  | nil => simp [bracketed?, opens]
  | cons c cs =>
      by_cases hc : opensTag c = true
      · have hinner : isInner c = true := by
          simp only [opensTag, isInner, Bool.or_eq_true, Bool.and_eq_true,
            decide_eq_true_eq] at hc ⊢
          constructor
          all_goals
            rintro rfl
            simp at hc
        simp only [bracketed?, hc, if_true, opens, closes, List.dropWhile_cons, hinner]
        cases cs.dropWhile isInner with
        | nil => simp
        | cons d ds =>
            by_cases hd : d = ']'
            · simp [hd, hc]
            · simp [hd, hc]
      · simp [bracketed?, hc, opens]

theorem tag?_other {c : Char} (hslash : c ≠ '\\') (hbracket : c ≠ '[') (cs : List Char) :
    tag? (c :: cs) = none := by
  have hcut : tag? (slashes 0 (c :: cs)) = _ :=
    tag?_slashes 0 fun h => hslash (Option.some.inj h)
  rw [show slashes 0 (c :: cs) = c :: cs from rfl] at hcut
  rw [hcut, Option.map_eq_none_iff, bracketed?]
  rintro c' rest heq
  exact absurd (List.cons.inj heq).1 hbracket

theorem tag?_slashes_nil (n : Nat) : tag? (slashes n []) = none := by
  rw [tag?_slashes n (by simp)]
  rfl

/-! ## The pieces of a text -/

theorem pieces_nil : pieces [] = [] := by
  rw [pieces]

theorem pieces_of_some {cs after : List Char} {t : Piece} (h : tag? cs = some (t, after)) :
    pieces cs = t :: pieces after := by
  cases cs with
  | nil => cases h
  | cons c cs =>
      rw [pieces]
      split
      · rename_i t' after' h'
        obtain ⟨rfl, rfl⟩ := Prod.mk.inj (Option.some.inj (h'.symm.trans h))
        rfl
      · rename_i h'
        cases h.symm.trans h'

theorem pieces_of_none {c : Char} {cs : List Char} (h : tag? (c :: cs) = none) :
    pieces (c :: cs) = cons c (pieces cs) := by
  rw [pieces]
  split
  · rename_i h'
    cases h.symm.trans h'
  · rfl

/-- A text is nothing, or a tag and what follows it, or a character that no tag begins
    with and what follows that. -/
theorem pieces_induction {P : List Char → Prop} (nil : P [])
    (tag : ∀ n body after, IsBody body → P after → P (slashes n ('[' :: (body ++ ']' :: after))))
    (plain : ∀ c cs, tag? (c :: cs) = none → P cs → P (c :: cs)) (cs : List Char) : P cs := by
  induction cs using pieces.induct with
  | case1 => exact nil
  | case2 c cs t after h ih =>
      obtain ⟨n, body, hbody, -, heq⟩ := tag?_eq_some.mp h
      rw [heq]
      exact tag n body after hbody ih
  | case3 c cs h ih => exact plain c cs h ih

/-! ## Shielded texts -/

/-- A text with backslashes put in front of its tags. -/
def shielded (cs : List Char) : List Char := (pieces cs).flatMap Piece.escaped

theorem shielded_nil : shielded [] = [] := by
  rw [shielded, pieces_nil]
  rfl

theorem shielded_tag (n : Nat) {body : List Char} (hbody : IsBody body) (after : List Char) :
    shielded (slashes n ('[' :: (body ++ ']' :: after)))
      = slashes (2 * n + 1) ('[' :: (body ++ ']' :: shielded after)) := by
  rw [shielded, pieces_of_some (tag?_eq_some.mpr ⟨n, body, hbody, rfl, rfl⟩), List.flatMap_cons,
    Piece.escaped, slashes, shielded]
  simp

theorem shielded_plain {c : Char} {cs : List Char} (h : tag? (c :: cs) = none) :
    shielded (c :: cs) = c :: shielded cs := by
  rw [shielded, pieces_of_none h, shielded]
  match pieces cs with
  | [] => rfl
  | .plain cs :: ps => rfl
  | .tag n body :: ps => rfl

theorem shielded_slashes (n : Nat) : shielded (slashes n []) = slashes n [] := by
  induction n with
  | zero => exact shielded_nil
  | succ n ih =>
      have hnone := tag?_slashes_nil (n + 1)
      rw [slashes_succ] at hnone ⊢
      rw [shielded_plain hnone, ih]

/-- A text that completes no tag in front of it. -/
def Apart (cs : List Char) : Prop := opens cs = false ∧ closes cs = false

theorem apart_nil : Apart [] := ⟨rfl, rfl⟩

theorem apart_bracket (cs : List Char) : Apart ('[' :: cs) := ⟨rfl, rfl⟩

theorem closes_slashes (n : Nat) (cs : List Char) : closes (slashes n cs) = closes cs := by
  induction n with
  | zero => rfl
  | succ n ih =>
      rw [slashes_succ, ← ih]
      rfl

theorem Apart.slashes {cs : List Char} (h : Apart cs) (n : Nat) : Apart (slashes n cs) := by
  refine ⟨?_, (closes_slashes n cs).trans h.2⟩
  cases n with
  | zero => exact h.1
  | succ n =>
      rw [slashes_succ]
      rfl

theorem opens_shielded (cs : List Char) {rest : List Char} (h : Apart rest) :
    opens (shielded cs ++ rest) = opens cs := by
  induction cs using pieces_induction with
  | nil =>
      rw [shielded_nil]
      exact h.1
  | tag n body after hbody _ =>
      rw [shielded_tag n hbody, slashes_succ]
      cases n with
      | zero => rfl
      | succ n =>
          rw [slashes_succ]
          rfl
  | plain c cs hplain _ =>
      rw [shielded_plain hplain]
      rfl

theorem closes_shielded (cs : List Char) {rest : List Char} (h : Apart rest) :
    closes (shielded cs ++ rest) = closes cs := by
  induction cs using pieces_induction with
  | nil =>
      rw [shielded_nil]
      exact h.2
  | tag n body after hbody _ =>
      rw [shielded_tag n hbody, closes_slashes, slashes, List.append_assoc]
      exact closes_slashes (2 * n + 1) _
  | plain c cs hplain ih =>
      rw [shielded_plain hplain]
      by_cases hc : isInner c = true
      · simpa [closes, List.dropWhile_cons, hc] using ih
      · simp [closes, hc]

/-- What stands behind a shielded text completes no tag of it.  A text of backslashes alone
    is the only one that adds to a tag behind it. -/
theorem tag?_shielded {cs : List Char} {n : Nat} {rest : List Char} (hrest : Apart rest)
    (h : tag? cs = none) :
    tag? (shielded cs ++ slashes n rest) = none ∨ ∃ m, cs = slashes m [] := by
  induction cs with
  | nil => exact .inr ⟨0, rfl⟩
  | cons c cs ih =>
      rw [shielded_plain h, List.cons_append]
      by_cases hslash : c = '\\'
      · subst hslash
        rcases ih (tag?_backslash_eq_none.mp h) with hnone | ⟨m, rfl⟩
        · exact .inl (tag?_backslash_eq_none.mpr hnone)
        · exact .inr ⟨m + 1, (slashes_succ m []).symm⟩
      · left
        by_cases hbracket : c = '['
        · subst hbracket
          rw [tag?_bracket_eq_none] at h ⊢
          rwa [opens_shielded cs (hrest.slashes n), closes_shielded cs (hrest.slashes n)]
        · exact tag?_other hslash hbracket _

/-! ## Reading -/

/-- A tag turns some styles that are on into others, wherever it is read. -/
def Turns (before : List Opened) (body : List Char) (after : List Opened) : Prop :=
  ∀ p : Progress, p.styles = before → p.apply body = .ok { p with styles := after }

/-- Pieces that can be read when some styles are on. -/
inductive Reads : List Opened → List Piece → Prop where
  | nil {styles : List Opened} : Reads styles []
  | plain {styles : List Opened} {cs : List Char} {ps : List Piece} (h : Reads styles ps) :
      Reads styles (.plain cs :: ps)
  /-- A tag that is plain text. -/
  | shown {styles : List Opened} {n : Nat} {body : List Char} {ps : List Piece} (hn : n % 2 = 1)
      (h : Reads styles ps) : Reads styles (.tag n body :: ps)
  | turns {styles next : List Opened} {n : Nat} {body : List Char} {ps : List Piece}
      (hn : n % 2 = 0) (hturns : Turns styles body next) (h : Reads next ps) :
      Reads styles (.tag n body :: ps)

namespace Reads

variable {styles : List Opened} {ps : List Piece}

theorem exists_progress (h : Reads styles ps) :
    ∀ p : Progress, p.styles = styles → ∃ q, ps.foldlM Progress.read p = .ok q := by
  induction h with
  | nil => exact fun p _ => ⟨p, rfl⟩
  | @plain styles cs ps _ ih =>
      intro p hp
      exact ih ((p.add (openBrackets cs)).move cs.length) hp
  | @shown styles n body ps hn _ ih =>
      intro p hp
      have hread : p.read (.tag n body) = .ok ((((p.add (List.replicate (n / 2) '\\')).move n).add
          ('[' :: body ++ [']'])).move (body.length + 2)) := by
        rw [Progress.read, if_pos hn]
        rfl
      rw [List.foldlM_cons, hread]
      exact ih _ hp
  | @turns styles next n body ps hn hturns _ ih =>
      intro p hp
      have hbefore : ((p.add (List.replicate (n / 2) '\\')).move n).styles = styles := hp
      have hread : p.read (.tag n body)
          = .ok (({ (p.add (List.replicate (n / 2) '\\')).move n with styles := next }).move
              (body.length + 2)) := by
        rw [Progress.read, if_neg (by omega), hturns _ hbefore]
        rfl
      rw [List.foldlM_cons, hread]
      exact ih _ rfl

theorem cons (h : Reads styles ps) (c : Char) : Reads styles (cons c ps) := by
  cases h with
  | nil => exact .plain .nil
  | plain h => exact .plain h
  | shown hn h => exact .plain (.shown hn h)
  | turns hn hturns h => exact .plain (.turns hn hturns h)

/-- Markup that can be read is shown. -/
theorem render {s : String} (h : Reads [] (pieces s.toList)) : ∃ text, render s = .ok text := by
  rw [Markup.render]
  split_ifs
  · obtain ⟨q, hq⟩ := h.exists_progress ⟨0, [], []⟩ rfl
    exact ⟨_, congrArg (Except.map fun p => String.ofList p.shown) hq⟩
  · exact ⟨_, rfl⟩

end Reads

/-- A text without an opening bracket is shown. -/
theorem render_plain {s : String} (h : '[' ∉ s.toList) : ∃ text, render s = .ok text := by
  have hcontains : ¬ s.toList.contains '[' = true := by rwa [List.contains_iff_mem]
  exact ⟨_, if_neg hcontains⟩

/-- Characters that are no part of a tag are read whatever follows them. -/
theorem reads_append {styles : List Opened} {cs rest : List Char}
    (h : ∀ c ∈ cs, c ≠ '\\' ∧ c ≠ '[') (hrest : Reads styles (pieces rest)) :
    Reads styles (pieces (cs ++ rest)) := by
  induction cs with
  | nil => exact hrest
  | cons c cs ih =>
      obtain ⟨hslash, hbracket⟩ := h c List.mem_cons_self
      rw [List.cons_append, pieces_of_none (tag?_other hslash hbracket _)]
      exact (ih fun d hd => h d (List.mem_cons_of_mem _ hd)).cons c

theorem reads_slashes (styles : List Opened) (n : Nat) : Reads styles (pieces (slashes n [])) := by
  induction n with
  | zero =>
      rw [slashes, List.replicate_zero, List.nil_append, pieces_nil]
      exact .nil
  | succ n ih =>
      have hnone := tag?_slashes_nil (n + 1)
      rw [slashes_succ] at hnone ⊢
      rw [pieces_of_none hnone]
      exact ih.cons _

/-! ## Escaped texts -/

/-- **A SHIELDED TEXT CHANGES NO STYLE**: what stands behind it is read as it would be behind
    some backslashes. -/
theorem reads_shielded {styles : List Opened} (cs : List Char) {rest : List Char}
    (hrest : Apart rest) (h : ∀ n, Reads styles (pieces (slashes n rest))) (n : Nat) :
    Reads styles (pieces (shielded cs ++ slashes n rest)) := by
  induction cs using pieces_induction with
  | nil =>
      rw [shielded_nil]
      exact h n
  | tag m body after hbody ih =>
      have htag : tag? (shielded (slashes m ('[' :: (body ++ ']' :: after))) ++ slashes n rest)
          = some (.tag (2 * m + 1) body, shielded after ++ slashes n rest) := by
        refine tag?_eq_some.mpr ⟨2 * m + 1, body, hbody, rfl, ?_⟩
        rw [shielded_tag m hbody]
        simp [slashes]
      rw [pieces_of_some htag]
      exact .shown (by omega) ih
  | plain c cs hplain ih =>
      rcases tag?_shielded (n := n) hrest hplain with hnone | ⟨m, hm⟩
      · rw [shielded_plain hplain, List.cons_append] at hnone ⊢
        rw [pieces_of_none hnone]
        exact ih.cons c
      · rw [hm, shielded_slashes, slashes, List.append_nil, slashes, ← List.append_assoc,
          ← List.replicate_add]
        exact h (m + n)

theorem doubleLast_eq (cs : List Char) : ∃ n, doubleLast cs = cs ++ List.replicate n '\\' := by
  unfold doubleLast
  split
  · exact ⟨0, (List.append_nil cs).symm⟩
  · exact ⟨1, rfl⟩
  · exact ⟨0, (List.append_nil cs).symm⟩

/-- An escaped text is read in front of all that completes no tag of it. -/
theorem reads_escape {styles : List Opened} (s : String) {rest : List Char} (hrest : Apart rest)
    (h : ∀ n, Reads styles (pieces (slashes n rest))) :
    Reads styles (pieces ((escape s).toList ++ rest)) := by
  obtain ⟨n, hlast⟩ := doubleLast_eq (shielded s.toList)
  have hescape : (escape s).toList = shielded s.toList ++ List.replicate n '\\' := by
    rw [escape, String.toList_ofList]
    exact hlast
  rw [hescape, List.append_assoc]
  exact reads_shielded s.toList hrest h n

/-- **AN ESCAPED TEXT IS MARKUP**. -/
theorem render_escape (s : String) : ∃ text, render (escape s) = .ok text := by
  refine Reads.render ?_
  rw [← List.append_nil (escape s).toList]
  exact reads_escape s apart_nil (reads_slashes [])

end Markup

/-! ## Colours -/

open Markup (Opened Progress Turns Reads pieces slashes Apart)

/-- The colours in which results are shown. -/
inductive Shade where
  | red
  | yellow
  | green

namespace Shade

/-- The name of a colour. -/
def name : Shade → List Char
  | red => ['r', 'e', 'd']
  | yellow => ['y', 'e', 'l', 'l', 'o', 'w']
  | green => ['g', 'r', 'e', 'e', 'n']

/-- Whatever the list of colours says, it is a colour or none. -/
theorem isNamed (c : Shade) : ∃ b, Color.isNamed c.name = .ok b := by
  cases hknown : (Text.words Text.isWhiteSpace Color.names.toList).contains c.name with
  | true => exact ⟨true, if_pos hknown⟩
  | false =>
      have hother : Color.isNamed c.name = _ := if_neg (Bool.eq_false_iff.mp hknown)
      rw [hother]
      clear hother hknown
      cases c <;> exact ⟨false, rfl⟩

/-- The name of a colour is its own normal form. -/
theorem normalForm (c : Shade) : Style.normalForm c.name = .ok c.name := by
  obtain ⟨b, hb⟩ := c.isNamed
  have hsmall : Text.small c.name = c.name := by cases c <;> decide +kernel
  have hwords : Text.words Text.isBlank c.name = [c.name] := by cases c <;> decide +kernel
  have htrim : Text.trimBoth Text.isBlank c.name = c.name := by cases c <;> decide +kernel
  have hattribute : Attribute.ofWord? c.name = none := by cases c <;> decide +kernel
  have hon : c.name ≠ ['o', 'n'] := by cases c <;> decide
  have hnot : c.name ≠ ['n', 'o', 't'] := by cases c <;> decide
  have hlink : c.name ≠ ['l', 'i', 'n', 'k'] := by cases c <;> decide
  have hnone : c.name ≠ "none".toList := by cases c <;> decide
  rw [Style.normalForm, hwords]
  simp only [htrim, hsmall]
  rw [if_neg hnone]
  simp only [Style.ofWords, hsmall, hattribute, hb, if_neg hon, if_neg hnot, if_neg hlink]
  cases b <;> cases c <;> rfl

/-- The style that the tag of a colour turns on. -/
def opened (c : Shade) : Opened := ⟨c.name, none⟩

theorem turns_on (c : Shade) (styles : List Opened) : Turns styles c.name (c.opened :: styles) := by
  rintro p rfl
  have hname : c.name.takeWhile (· ≠ '=') = c.name := by cases c <;> decide
  have hrest : c.name.dropWhile (· ≠ '=') = [] := by cases c <;> decide
  unfold Progress.apply
  simp only [hname, hrest]
  split
  · rename_i closed hslash
    cases c <;> exact nomatch hslash
  · rw [c.normalForm]
    rfl

theorem turns_off (c : Shade) (styles : List Opened) :
    Turns (c.opened :: styles) ('/' :: c.name) styles := by
  intro p hp
  have hname : ('/' :: c.name).takeWhile (· ≠ '=') = '/' :: c.name := by cases c <;> decide
  have htrim : Text.trimBoth Text.isBlank c.name = c.name := by cases c <;> decide +kernel
  have hne : c.name ≠ [] := by cases c <;> decide
  have hhead : c.name.head? ≠ some '@' := by cases c <;> decide
  unfold Progress.apply
  simp only [hname, htrim, if_neg hne, c.normalForm, hp, bind, Except.bind,
    Progress.withoutStyle?, opened, if_true, if_neg hhead]

/-- A text between the tags of a colour. -/
def around (c : Shade) (cs : List Char) : List Char :=
  '[' :: (c.name ++ ']' :: (cs ++ '[' :: ('/' :: c.name ++ [']'])))

theorem tag?_closing (c : Shade) (n : Nat) :
    Markup.tag? (slashes n ('[' :: ('/' :: c.name ++ [']'])))
      = some (.tag n ('/' :: c.name), []) := by
  have hinner : c.name.all Markup.isInner = true := by cases c <;> decide
  exact Markup.tag?_eq_some.mpr ⟨n, _, ⟨'/', c.name, rfl, by decide, hinner⟩, rfl, rfl⟩

/-- The tag that turns a colour off can be read behind any number of backslashes: if it is not
    plain text, the colour is on. -/
theorem reads_closing (c : Shade) (n : Nat) :
    Reads [c.opened] (pieces (slashes n ('[' :: ('/' :: c.name ++ [']'])))) := by
  rw [Markup.pieces_of_some (c.tag?_closing n), Markup.pieces_nil]
  rcases Nat.mod_two_eq_zero_or_one n with hn | hn
  · exact .turns hn (c.turns_off []) .nil
  · exact .shown hn .nil

/-- A text can be read in colour if it can be read in front of all that completes no tag of
    it. -/
theorem reads_around (c : Shade) {cs : List Char}
    (h : ∀ rest, Apart rest → (∀ n, Reads [c.opened] (pieces (slashes n rest))) →
      Reads [c.opened] (pieces (cs ++ rest))) : Reads [] (pieces (c.around cs)) := by
  have htag : Markup.tag? (c.around cs)
      = some (.tag 0 c.name, cs ++ '[' :: ('/' :: c.name ++ [']'])) := by
    refine Markup.tag?_eq_some.mpr ⟨0, c.name, ?_, rfl, rfl⟩
    cases c with
    | red => exact ⟨'r', ['e', 'd'], rfl, by decide, by decide⟩
    | yellow => exact ⟨'y', ['e', 'l', 'l', 'o', 'w'], rfl, by decide, by decide⟩
    | green => exact ⟨'g', ['r', 'e', 'e', 'n'], rfl, by decide, by decide⟩
  rw [Markup.pieces_of_some htag]
  exact .turns rfl (c.turns_on []) (h _ (Markup.apart_bracket _) c.reads_closing)

end Shade

end Likeness.Terminal
