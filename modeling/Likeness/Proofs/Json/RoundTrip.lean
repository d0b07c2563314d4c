import Likeness.Proofs.Json.Doubles
import Likeness.Proofs.Text.Drafts
import Likeness.Proofs.Text.Lines

/-! # Values are read as they were written

    What JSON holds is written, on one line or with its parts on lines of their
    own, and is read again as it was.  The induction is on how a value is nested:
    the form of a list or an object is put together from those of its parts.

    The main result is `Json.read_write`. -/

namespace Likeness.Json

open Text (Draft)

/-- The values of JSON, with parts that are nested at most so deep: integers that are not too
    long, all doubles, and objects whose names are texts and differ. -/
inductive Holds : Nat → Value → Prop where
  | null {nested : Nat} : Holds nested .null
  | bool {nested : Nat} (b : Bool) : Holds nested (.bool b)
  | int {nested : Nat} {n : Int} (h : ∃ cs, integer n = .ok cs) : Holds nested (.int n)
  | real {nested : Nat} (x : Float) : Holds nested (.real x)
  | text {nested : Nat} (s : String) : Holds nested (.text s)
  | list {nested : Nat} {xs : List Value} (h : ∀ x ∈ xs, Holds nested x) :
      Holds (nested + 1) (.list xs)
  | object {nested : Nat} {es : List (String × Value)} (hnames : (es.map (·.1)).Nodup)
      (h : ∀ e ∈ es, Holds nested e.2) :
      Holds (nested + 1) (.dict (es.map fun e => (.text e.1, e.2)))

/-! ## Layouts -/

/-- A layout that sets the parts of a value apart by blanks only. -/
def Layout.Blank (l : Layout) : Prop := ∀ s, l.indent = some s → s.all isBlank = true

theorem Layout.blank_inline : Layout.inline.Blank := fun _ h => nomatch h

theorem Layout.blank_blanks (n : Nat) : (Layout.blanks n).Blank := by
  rintro s ⟨⟩
  rw [List.all_eq_true]
  intro c hc
  rw [List.eq_of_mem_replicate hc]
  rfl

/-- What stands in front of an item is blank. -/
theorem Layout.lead_blank {l : Layout} (hl : l.Blank) (level : Nat) :
    (l.lead level).all isBlank = true := by
  unfold Layout.lead
  cases hindent : l.indent with
  | none => rfl
  | some s =>
      have hall : ((List.replicate level s).flatten).all isBlank = true := by
        rw [List.all_eq_true]
        intro c hc
        obtain ⟨part, hpart, hc⟩ := List.mem_flatten.mp hc
        rw [List.eq_of_mem_replicate hpart] at hc
        exact List.all_eq_true.mp (hl s hindent) c hc
      exact hall

/-- What stands between two items is a comma and blanks. -/
theorem Layout.comma_blank {l : Layout} (hl : l.Blank) (level : Nat) :
    ∃ blanks, l.comma level = ',' :: blanks ∧ blanks.all isBlank = true := by
  unfold Layout.comma
  cases l.indent with
  | none => exact ⟨[' '], rfl, rfl⟩
  | some s => exact ⟨l.lead level, rfl, l.lead_blank hl level⟩

/-- A character that stands in texts of a layout: a control character only to set parts
    apart. -/
def Layout.shows (l : Layout) (c : Char) : Bool :=
  Quoted.isInline c || l.indent.any fun s => c == '\n' || s.contains c

theorem Layout.shows_of_inline (l : Layout) {cs : List Char} (h : cs.all Quoted.isInline = true) :
    cs.all l.shows = true := by
  rw [List.all_eq_true] at h ⊢
  intro c hc
  rw [Layout.shows, h c hc]
  rfl

theorem Layout.lead_shows (l : Layout) (level : Nat) : (l.lead level).all l.shows = true := by
  unfold Layout.lead Layout.shows
  cases l.indent with
  | none => rfl
  | some s =>
      rw [List.all_eq_true]
      intro c hc
      rcases List.mem_cons.mp hc with rfl | hc
      · rfl
      · obtain ⟨part, hpart, hc⟩ := List.mem_flatten.mp hc
        rw [List.eq_of_mem_replicate hpart] at hc
        simp [hc]

theorem Layout.comma_shows (l : Layout) (level : Nat) : (l.comma level).all l.shows = true := by
  unfold Layout.comma
  cases l.indent with
  | none => exact l.shows_of_inline rfl
  | some s =>
      rw [List.all_cons, l.lead_shows level, Bool.and_true, Layout.shows]
      rfl

theorem skipBlanks_append {blanks : List Char} (h : blanks.all isBlank = true) {c : Char}
    (hc : isBlank c = false) (rest : List Char) : skipBlanks (blanks ++ c :: rest) = c :: rest := by
  induction blanks with
  | nil => exact List.dropWhile_cons_of_neg (by rw [hc]; exact Bool.false_ne_true)
  | cons b blanks ih =>
      rw [List.all_cons, Bool.and_eq_true] at h
      exact (List.dropWhile_cons_of_pos h.1).trans (ih h.2)

/-- A text that begins with blanks or a delimiter. -/
theorem delimited_append {blanks : List Char} (h : blanks.all isBlank = true) {c : Char}
    (hc : isDelimiter c = true) (rest : List Char) : Delimited (blanks ++ c :: rest) := by
  cases blanks with
  | nil => exact .cons hc rest
  | cons b blanks =>
      rw [List.all_cons, Bool.and_eq_true] at h
      refine .cons ?_ _
      rw [isDelimiter, h.1]
      rfl

/-! ## Parts -/

/-- A value that is written so that it is read again, in characters that its layout shows. -/
def Written (l : Layout) (level nested : Nat) (v : Value) : Prop :=
  ∃ cs, draft l level v = .of cs ∧ Form v nested cs ∧
    cs.all l.shows = true

theorem draft_scalar (l : Layout) (level : Nat) {v : Value} {form : Except Fault (List Char)}
    (h : scalarForm? v = some form) : draft l level v = .ofExcept form := by
  cases v with
  | null | bool | int | real | nan | text | illFormed =>
      cases h
      rfl
  | _ => exact nomatch h

theorem draft_of_scalar (l : Layout) (level : Nat) {v : Value} {cs : List Char}
    (h : scalarForm? v = some (.ok cs)) : draft l level v = .of cs :=
  draft_scalar l level h

/-- A part as it is written behind what stands in front of it. -/
def draftBehind (l : Layout) (level : Nat) (front : List Char) (v : Value) : Draft :=
  match scalarForm? v with
  | some form => .ofExcept (form.map fun cs => front ++ cs)
  | none => .of front ++ draft l level v

theorem draftBehind_eq {l : Layout} {level : Nat} {v : Value} {cs : List Char}
    (h : draft l level v = .of cs) (front : List Char) :
    draftBehind l level front v = .of (front ++ cs) := by
  unfold draftBehind
  cases hform : scalarForm? v with
  | none => rw [h, Draft.of_append_of]
  | some form =>
      rw [draft_scalar l level hform] at h
      rw [Draft.ofExcept_eq_of h]
      rfl

theorem draftItems_cons (l : Layout) (level : Nat) (front : List Char) (x : Value)
    (xs : List Value) :
    draftItems l level front (x :: xs)
      = draftBehind l level front x ++ draftItems l level (l.comma level) xs := rfl

theorem itemsFrom_last {fuel depth : Nat} {cs rest tail : List Char} {x : Value}
    (hx : valueFrom fuel depth cs = .ok (x, rest)) (hrest : skipBlanks rest = ']' :: tail) :
    itemsFrom (fuel + 1) depth cs = .ok ([x], tail) := by
  simp only [itemsFrom, hx, hrest, bind, Except.bind]

theorem itemsFrom_more {fuel depth : Nat} {cs rest more tail : List Char} {x : Value}
    {xs : List Value} (hx : valueFrom fuel depth cs = .ok (x, rest))
    (hrest : skipBlanks rest = ',' :: more)
    (hxs : itemsFrom fuel depth (skipBlanks more) = .ok (xs, tail)) :
    itemsFrom (fuel + 1) depth cs = .ok (x :: xs, tail) := by
  simp only [itemsFrom, hx, hrest, hxs, bind, Except.bind]

theorem isBlank_opening {c : Char} (h : isOpening c = true) : isBlank c = false :=
  have hbounds := isOpening_bounds h
  (not_blank_of_bounds hbounds.1 hbounds.2.1).1

/-- The items of a list, and how they are read from behind its opening bracket. -/
theorem items_written {l : Layout} (hl : l.Blank) {level nested : Nat} {xs : List Value}
    (hne : xs ≠ []) (h : ∀ x ∈ xs, Written l level nested x) (front : List Char) :
    ∃ cs, draftItems l level front xs = .of (front ++ cs) ∧
      (∃ c rest, cs = c :: rest ∧ isOpening c = true) ∧
      cs.all l.shows = true ∧
      ∀ {blanks tail : List Char} {fuel depth : Nat}, blanks.all isBlank = true →
        2 * (cs.length + 1) ≤ fuel → depth + nested ≤ depthLimit →
        itemsFrom fuel depth (cs ++ (blanks ++ ']' :: tail)) = .ok (xs, tail) := by
  -- The induction is on the items; what stands in front of the first is a bracket or a comma.
  induction xs generalizing front with
  | nil => exact absurd rfl hne
  | cons x xs ih =>
      obtain ⟨xcs, hdraft, hform, hshown⟩ := h x List.mem_cons_self
      cases xs with
      | nil =>
          refine ⟨xcs, ?_, hform.opening, hshown, ?_⟩
          · rw [draftItems_cons, draftBehind_eq hdraft]
            exact congrArg Draft.of (List.append_nil _)
          · intro blanks tail fuel depth hblanks hfuel hdepth
            obtain ⟨fuel, rfl⟩ : ∃ k, fuel = k + 1 := ⟨fuel - 1, by omega⟩
            exact itemsFrom_last
              (hform.reads (delimited_append hblanks rfl tail) (by omega) hdepth)
              (skipBlanks_append hblanks rfl tail)
      | cons y ys =>
          obtain ⟨gap, hcomma, hgap⟩ := l.comma_blank hl level
          obtain ⟨ycs, hdrafts, ⟨c, rest, rfl, hc⟩, hshowns, hreads⟩ :=
            ih (List.cons_ne_nil y ys) (fun z hz => h z (List.mem_cons_of_mem _ hz))
              (l.comma level)
          refine ⟨xcs ++ (l.comma level ++ c :: rest), ?_, ?_, ?_, ?_⟩
          · rw [draftItems_cons, draftBehind_eq hdraft, hdrafts, Draft.of_append_of,
              List.append_assoc]
          · obtain ⟨d, more, rfl, hd⟩ := hform.opening
            exact ⟨d, _, rfl, hd⟩
          · rw [List.all_append, List.all_append, hshown, l.comma_shows level, hshowns]
            rfl
          · intro blanks tail fuel depth hblanks hfuel hdepth
            obtain ⟨fuel, rfl⟩ : ∃ k, fuel = k + 1 := ⟨fuel - 1, by omega⟩
            rw [hcomma, List.length_append, List.length_append, List.length_cons] at hfuel
            simp only [hcomma, List.append_assoc, List.cons_append]
            refine itemsFrom_more (hform.reads (.cons rfl _) (by omega) hdepth) rfl ?_
            rw [skipBlanks_append hgap (isBlank_opening hc)]
            exact hreads hblanks (by omega) hdepth

/-! ## Objects -/

/-- The entries of an object whose names are texts. -/
abbrev entriesOf (es : List (String × Value)) : List (Value × Value) :=
  es.map fun e => (.text e.1, e.2)

theorem draftEntries_cons (l : Layout) (level : Nat) (front : List Char) (name : String)
    (v : Value) (es : List (String × Value)) :
    draftEntries l level front (entriesOf ((name, v) :: es))
      = .of (front ++ Quoted.encode name.toList) ++ .of [':', ' '] ++ draft l level v
        ++ draftEntries l level (l.comma level) (entriesOf es) := rfl

/-- A name is read up to the value behind it. -/
theorem entriesFrom_name {fuel depth : Nat} {name : String} {cs rest : List Char} {v : Value}
    (hv : valueFrom fuel depth (skipBlanks cs) = .ok (v, rest)) :
    entriesFrom (fuel + 1) depth (Quoted.encode name.toList ++ ':' :: cs)
      = match skipBlanks rest with
        | '\x7d' :: rest => .ok ([(.text name, v)], rest)
        | ',' :: rest => do
          let (entries, rest) ← entriesFrom fuel depth (skipBlanks rest)
          .ok ((.text name, v) :: entries, rest)
        | rest => .error (.at .commaExpected rest.length) := by
  obtain ⟨body, hbody, hread⟩ := quoted_encode name (':' :: cs)
  have hname : Value.ofCodes (name.toList.map Char.toNat) = .text name := by
    rw [Value.ofCodes_toNat, String.ofList_toList]
  rw [hbody, entriesFrom, hread]
  show (valueFrom fuel depth (skipBlanks cs) >>= fun r => _) = _
  rw [hv]
  simp only [← hname]
  rfl

theorem entriesFrom_last {fuel depth : Nat} {name : String} {cs rest tail : List Char} {v : Value}
    (hv : valueFrom fuel depth (skipBlanks cs) = .ok (v, rest))
    (hrest : skipBlanks rest = '\x7d' :: tail) :
    entriesFrom (fuel + 1) depth (Quoted.encode name.toList ++ ':' :: cs)
      = .ok ([(.text name, v)], tail) := by
  rw [entriesFrom_name hv, hrest]
  rfl

theorem entriesFrom_more {fuel depth : Nat} {name : String} {cs rest more tail : List Char}
    {v : Value} {es : List (Value × Value)}
    (hv : valueFrom fuel depth (skipBlanks cs) = .ok (v, rest))
    (hrest : skipBlanks rest = ',' :: more)
    (hes : entriesFrom fuel depth (skipBlanks more) = .ok (es, tail)) :
    entriesFrom (fuel + 1) depth (Quoted.encode name.toList ++ ':' :: cs)
      = .ok ((.text name, v) :: es, tail) := by
  rw [entriesFrom_name hv, hrest]
  show (entriesFrom fuel depth (skipBlanks more) >>= fun r => _) = _
  rw [hes]
  rfl

/-- The blank in front of the value of an entry is skipped, and nothing behind it. -/
theorem Form.skip_gap {v : Value} {nested : Nat} {cs : List Char} (h : Form v nested cs)
    (more : List Char) : skipBlanks (' ' :: (cs ++ more)) = cs ++ more := by
  obtain ⟨c, rest, rfl, hc⟩ := h.opening
  exact skipBlanks_append (show [' '].all isBlank = true from rfl) (isBlank_opening hc) _

/-- An entry: its name, a colon and its value. -/
def entryText (name : String) (cs : List Char) : List Char :=
  Quoted.encode name.toList ++ (':' :: ' ' :: cs)

theorem entryText_shows (l : Layout) (name : String) {cs : List Char}
    (h : cs.all l.shows = true) : (entryText name cs).all l.shows = true := by
  have hvalue : ([':', ' '] ++ cs).all l.shows = true := by
    rw [List.all_append, l.shows_of_inline rfl, h]
    rfl
  rw [entryText, List.all_append, l.shows_of_inline (Quoted.encode_inline _)]
  exact hvalue

theorem draftEntries_entryText {l : Layout} {level : Nat} {v : Value} {cs : List Char}
    (h : draft l level v = .of cs) (front : List Char) (name : String)
    (es : List (String × Value)) :
    draftEntries l level front (entriesOf ((name, v) :: es))
      = .of (front ++ entryText name cs)
        ++ draftEntries l level (l.comma level) (entriesOf es) := by
  rw [draftEntries_cons, h, entryText]
  simp only [Draft.of_append_of, List.append_assoc, List.cons_append, List.nil_append]

/-- The entries of an object, and how they are read from behind its opening brace. -/
theorem entries_written {l : Layout} (hl : l.Blank) {level nested : Nat}
    {es : List (String × Value)} (hne : es ≠ []) (h : ∀ e ∈ es, Written l level nested e.2)
    (front : List Char) :
    ∃ cs, draftEntries l level front (entriesOf es) = .of (front ++ cs) ∧
      (∃ rest, cs = '"' :: rest) ∧
      cs.all l.shows = true ∧
      ∀ {blanks tail : List Char} {fuel depth : Nat}, blanks.all isBlank = true →
        2 * (cs.length + 1) ≤ fuel → depth + nested ≤ depthLimit →
        entriesFrom fuel depth (cs ++ (blanks ++ '\x7d' :: tail)) = .ok (entriesOf es, tail) := by
  induction es generalizing front with
  | nil => exact absurd rfl hne
  | cons e es ih =>
      obtain ⟨name, v⟩ := e
      obtain ⟨vcs, hdraft, hform, hshown⟩ := h _ List.mem_cons_self
      have hentry := entryText_shows l name hshown
      cases es with
      | nil =>
          refine ⟨entryText name vcs, ?_, ⟨_, rfl⟩, hentry, ?_⟩
          · rw [draftEntries_entryText hdraft]
            exact congrArg Draft.of (List.append_nil _)
          · intro blanks tail fuel depth hblanks hfuel hdepth
            obtain ⟨fuel, rfl⟩ : ∃ k, fuel = k + 1 := ⟨fuel - 1, by omega⟩
            simp only [entryText, List.length_append, List.length_cons] at hfuel
            simp only [entryText, List.append_assoc, List.cons_append]
            refine entriesFrom_last ?_ (skipBlanks_append hblanks rfl tail)
            rw [hform.skip_gap]
            exact hform.reads (delimited_append hblanks rfl tail) (by omega) hdepth
      | cons f fs =>
          obtain ⟨gap, hcomma, hgap⟩ := l.comma_blank hl level
          obtain ⟨fcs, hdrafts, ⟨rest, rfl⟩, hshowns, hreads⟩ :=
            ih (List.cons_ne_nil f fs) (fun e he => h e (List.mem_cons_of_mem _ he))
              (l.comma level)
          refine ⟨entryText name vcs ++ (l.comma level ++ '"' :: rest), ?_, ⟨_, rfl⟩, ?_, ?_⟩
          · rw [draftEntries_entryText hdraft, hdrafts, Draft.of_append_of, List.append_assoc]
          · rw [List.all_append, List.all_append, hentry, l.comma_shows level, hshowns]
            rfl
          · intro blanks tail fuel depth hblanks hfuel hdepth
            obtain ⟨fuel, rfl⟩ : ∃ k, fuel = k + 1 := ⟨fuel - 1, by omega⟩
            simp only [entryText, hcomma, List.length_append, List.length_cons] at hfuel
            simp only [entryText, hcomma, List.append_assoc, List.cons_append]
            refine entriesFrom_more ((congrArg _ (hform.skip_gap _)).trans
              (hform.reads (.cons rfl _) (by omega) hdepth)) rfl ?_
            rw [skipBlanks_append hgap rfl]
            exact hreads hblanks (by rw [List.length_cons]; omega) hdepth

theorem putEntry_new {es : List (String × Value)} {name : String} (h : name ∉ es.map (·.1))
    (v : Value) :
    Value.putEntry (entriesOf es) (.text name) v = entriesOf (es ++ [(name, v)]) := by
  induction es with
  | nil => rfl
  | cons e es ih =>
      rw [List.map_cons, List.mem_cons, not_or] at h
      have hother : Value.equal (.text e.1) (.text name) = false := by
        show (e.1 == name) = false
        exact beq_eq_false_iff_ne.mpr (Ne.symm h.1)
      show (if Value.equal (.text e.1) (.text name) then _ else
        (.text e.1, e.2) :: Value.putEntry (entriesOf es) (.text name) v) = _
      rw [hother, ih h.2]
      rfl

/-- Entries under different names all stay, in their order. -/
theorem dictOf_entriesOf {es : List (String × Value)} (h : (es.map (·.1)).Nodup) :
    Value.dictOf (entriesOf es) = .dict (entriesOf es) := by
  have hfold : ∀ (more done : List (String × Value)), ((done ++ more).map (·.1)).Nodup →
      (entriesOf more).foldl (fun es e => Value.putEntry es e.1 e.2) (entriesOf done)
        = entriesOf (done ++ more) := by
    intro more
    induction more with
    | nil =>
        intro done _
        rw [List.append_nil]
        rfl
    | cons e more ih =>
        intro done hnames
        have hnew : e.1 ∉ done.map (·.1) := by
          rw [List.map_append] at hnames
          exact fun hmem => (List.nodup_append.mp hnames).2.2 _ hmem _ List.mem_cons_self rfl
        show (entriesOf more).foldl _ (Value.putEntry (entriesOf done) (.text e.1) e.2) = _
        rw [putEntry_new hnew, ih (done ++ [(e.1, e.2)])]
        · rw [List.append_assoc]
          rfl
        · rw [List.append_assoc]
          exact hnames
  exact congrArg Value.dict (hfold es [] h)

/-! ## Lists and objects -/

theorem valueFrom_list {fuel depth : Nat} {rest more tail : List Char} {c : Char}
    {xs : List Value} (hdepth : ¬ depthLimit ≤ depth) (hrest : skipBlanks rest = c :: more)
    (hc : c ≠ ']') (hxs : itemsFrom fuel (depth + 1) (c :: more) = .ok (xs, tail)) :
    valueFrom (fuel + 1) depth ('[' :: rest) = .ok (.list xs, tail) := by
  have hquote : ¬ '[' = '"' := by decide
  rw [valueFrom, if_neg hquote, if_pos rfl, if_neg hdepth, hrest]
  split
  · next heq => exact absurd (List.cons.inj heq).1 hc
  · rw [hxs]
    rfl

theorem valueFrom_object {fuel depth : Nat} {rest more tail : List Char}
    {es : List (Value × Value)} (hdepth : ¬ depthLimit ≤ depth)
    (hrest : skipBlanks rest = '"' :: more)
    (hes : entriesFrom fuel (depth + 1) ('"' :: more) = .ok (es, tail)) :
    valueFrom (fuel + 1) depth ('\x7b' :: rest) = .ok (Value.dictOf es, tail) := by
  have hquote : ¬ '\x7b' = '"' := by decide
  have hbracket : ¬ '\x7b' = '[' := by decide
  rw [valueFrom, if_neg hquote, if_neg hbracket, if_pos rfl, if_neg hdepth, hrest]
  show (entriesFrom fuel (depth + 1) ('"' :: more) >>= fun r => _) = _
  rw [hes]
  rfl

/-- Parts between two brackets. -/
def bracketed (l : Layout) (level : Nat) (first last : Char) (cs : List Char) : List Char :=
  first :: (l.lead (level + 1) ++ (cs ++ (l.lead level ++ [last])))

theorem bracketed_getLast? (l : Layout) (level : Nat) (first last : Char) (cs : List Char) :
    (bracketed l level first last cs).getLast? = some last := by
  simp only [bracketed, ← List.cons_append, ← List.append_assoc, List.getLast?_append]
  rfl

theorem bracketed_shows (l : Layout) (level : Nat) {first last : Char} {cs : List Char}
    (hends : [first, last].all Quoted.isInline = true) (h : cs.all l.shows = true) :
    (bracketed l level first last cs).all l.shows = true := by
  have hshown := l.shows_of_inline hends
  simp only [List.all_cons, Bool.and_eq_true] at hshown
  simp only [bracketed, List.all_cons, List.all_append, l.lead_shows, h, hshown.1, hshown.2.1,
    List.all_nil, Bool.and_self]

/-- A list is written so that it is read again when its items are. -/
theorem list_written {l : Layout} (hl : l.Blank) {level nested : Nat} {xs : List Value}
    (h : ∀ x ∈ xs, Written l (level + 1) nested x) : Written l level (nested + 1) (.list xs) := by
  by_cases hne : xs = []
  · subst hne
    refine ⟨['[', ']'], rfl, ⟨⟨_, _, rfl, rfl⟩, ⟨_, rfl, rfl⟩, ?_⟩,
      l.shows_of_inline rfl⟩
    intro fuel depth tail _ hfuel hdepth
    obtain ⟨fuel, rfl⟩ : ∃ k, fuel = k + 1 := ⟨fuel - 1, by
      rw [List.length_cons] at hfuel
      omega⟩
    exact if_neg (by omega)
  · obtain ⟨cs, hdraft, ⟨c, rest, rfl, hc⟩, hshown, hreads⟩ :=
      items_written hl hne h ('[' :: l.lead (level + 1))
    have hlead := l.lead_blank hl (level + 1)
    refine ⟨bracketed l level '[' ']' (c :: rest), ?_,
      ⟨⟨_, _, rfl, rfl⟩, ⟨']', bracketed_getLast? .., rfl⟩, ?_⟩, bracketed_shows l level rfl hshown⟩
    · rw [draft, if_neg (by rwa [List.isEmpty_iff]), hdraft]
      simp only [bracketed, Draft.of_append_of, List.append_assoc, List.cons_append]
    · intro fuel depth tail _ hfuel hdepth
      simp only [bracketed, List.length_cons, List.length_append] at hfuel
      obtain ⟨fuel, rfl⟩ : ∃ k, fuel = k + 1 := ⟨fuel - 1, by omega⟩
      simp only [bracketed, List.append_assoc, List.cons_append]
      refine valueFrom_list (by omega) (skipBlanks_append hlead (isBlank_opening hc) _)
        (isOpening_bounds hc).2.2.1 ?_
      exact hreads (l.lead_blank hl level) (by rw [List.length_cons]; omega) (by omega)

/-- An object is written so that it is read again when the values of its entries are, and
    their names differ. -/
theorem object_written {l : Layout} (hl : l.Blank) {level nested : Nat}
    {es : List (String × Value)} (hnames : (es.map (·.1)).Nodup)
    (h : ∀ e ∈ es, Written l (level + 1) nested e.2) :
    Written l level (nested + 1) (.dict (entriesOf es)) := by
  by_cases hne : es = []
  · subst hne
    refine ⟨['\x7b', '\x7d'], rfl, ⟨⟨_, _, rfl, rfl⟩, ⟨_, rfl, rfl⟩, ?_⟩,
      l.shows_of_inline rfl⟩
    intro fuel depth tail _ hfuel hdepth
    obtain ⟨fuel, rfl⟩ : ∃ k, fuel = k + 1 := ⟨fuel - 1, by
      rw [List.length_cons] at hfuel
      omega⟩
    exact if_neg (by omega)
  · obtain ⟨cs, hdraft, ⟨rest, rfl⟩, hshown, hreads⟩ :=
      entries_written hl hne h []
    have hlead := l.lead_blank hl (level + 1)
    refine ⟨bracketed l level '\x7b' '\x7d' ('"' :: rest), ?_,
      ⟨⟨_, _, rfl, rfl⟩, ⟨'\x7d', bracketed_getLast? .., rfl⟩, ?_⟩,
      bracketed_shows l level rfl hshown⟩
    · have hentries : ¬ (entriesOf es).isEmpty = true := by
        rwa [List.isEmpty_iff, List.map_eq_nil_iff]
      rw [draft, if_neg hentries, hdraft]
      simp only [bracketed, Draft.of_append_of, List.append_assoc, List.cons_append,
        List.nil_append]
    · intro fuel depth tail _ hfuel hdepth
      simp only [bracketed, List.length_cons, List.length_append] at hfuel
      obtain ⟨fuel, rfl⟩ : ∃ k, fuel = k + 1 := ⟨fuel - 1, by omega⟩
      simp only [bracketed, List.append_assoc, List.cons_append]
      rw [← dictOf_entriesOf hnames]
      refine valueFrom_object (by omega) (skipBlanks_append hlead rfl _) ?_
      exact hreads (l.lead_blank hl level) (by rw [List.length_cons]; omega) (by omega)

/-! ## All values -/

/-- No character of a number is a control character. -/
theorem numeral_inline {cs : List Char} (h : cs.all Decimal.isNumeral = true) :
    cs.all Quoted.isInline = true := by
  rw [List.all_eq_true] at h ⊢
  intro c hc
  have hbounds := isNumeral_bounds (h c hc)
  exact decide_eq_true (by omega)

theorem integer_numeral {n : Int} {cs : List Char} (h : integer n = .ok cs) :
    cs.all Decimal.isNumeral = true := by
  unfold integer at h
  dsimp only at h
  split_ifs at h
  cases h
  exact Decimal.intText_numeral n

/-- **WHAT JSON HOLDS IS WRITTEN**, at every level and in every layout that sets parts apart
    by blanks, in a form from which it is read again. -/
theorem Holds.written {nested : Nat} {v : Value} (h : Holds nested v) {l : Layout}
    (hl : l.Blank) (level : Nat) : Written l level nested v := by
  -- The induction is on how the value is nested; its parts stand one level deeper.
  induction h generalizing level with
  | null =>
      exact ⟨['n', 'u', 'l', 'l'], draft_of_scalar l level rfl,
        form_scalar _ ⟨_, _, rfl, rfl⟩ ⟨_, rfl, rfl⟩ rfl, l.shows_of_inline rfl⟩
  | bool b =>
      cases b with
      | false =>
          exact ⟨['f', 'a', 'l', 's', 'e'], draft_of_scalar l level rfl,
            form_scalar _ ⟨_, _, rfl, rfl⟩ ⟨_, rfl, rfl⟩ rfl, l.shows_of_inline rfl⟩
      | true =>
          exact ⟨['t', 'r', 'u', 'e'], draft_of_scalar l level rfl,
            form_scalar _ ⟨_, _, rfl, rfl⟩ ⟨_, rfl, rfl⟩ rfl, l.shows_of_inline rfl⟩
  | int hn =>
      obtain ⟨cs, hcs⟩ := hn
      have hnumeral := integer_numeral hcs
      exact ⟨cs, draft_of_scalar l level (congrArg some hcs),
        form_number _ hnumeral (scalar_integer hcs), l.shows_of_inline (numeral_inline hnumeral)⟩
  | real x =>
      have hnumeral : (Decimal.Layout.json.text x).toList.all Decimal.isNumeral = true :=
        Decimal.Layout.text_numeral (by decide) (by decide) x
      exact ⟨_, draft_of_scalar l level rfl, form_number _ hnumeral (scalar_double x),
        l.shows_of_inline (numeral_inline hnumeral)⟩
  | text s =>
      exact ⟨_, draft_of_scalar l level rfl, form_text s _,
        l.shows_of_inline (Quoted.encode_inline s.toList)⟩
  | list _ ih => exact list_written hl fun x hx => ih x hx (level + 1)
  | object hnames _ ih => exact object_written hl hnames fun e he => ih e he (level + 1)

/-- A value from which nothing is left but blanks. -/
theorem Form.read {v : Value} {cs : List Char} (h : Form v depthLimit cs) {blanks : List Char}
    (hblanks : blanks.all isBlank = true) : read (cs ++ blanks) = .ok v := by
  obtain ⟨c, rest, rfl, hc⟩ := h.opening
  have hbounds := isOpening_bounds hc
  have hmark : ¬ (c :: rest ++ blanks).head? = some '\ufeff' := by
    rintro ⟨⟩
    exact absurd hbounds.2.1 (by decide)
  have hfront : skipBlanks (c :: rest ++ blanks) = c :: rest ++ blanks :=
    List.dropWhile_cons_of_neg (by rw [isBlank_opening hc]; exact Bool.false_ne_true)
  have hback : skipBlanks blanks = [] :=
    List.dropWhile_eq_nil_iff.mpr (List.all_eq_true.mp hblanks)
  have hvalue : valueFrom (2 * (c :: rest ++ blanks).length + 1) 0 (c :: rest ++ blanks)
      = .ok (v, blanks) := by
    refine h.reads ?_ ?_ (Nat.le_of_eq (Nat.zero_add _))
    · intro d hd
      rw [isDelimiter, List.all_eq_true.mp hblanks d (List.mem_of_mem_head? hd)]
      rfl
    · rw [List.length_append]
      omega
  simp only [Json.read, if_neg hmark, hfront, hvalue, hback, bind, Except.bind]

/-- A value neither begins nor ends with a blank. -/
theorem Form.framed {v : Value} {nested : Nat} {cs : List Char} (h : Form v nested cs) :
    Text.Framed Text.isBlank cs := by
  constructor
  · obtain ⟨c, rest, rfl, hc⟩ := h.opening
    have hbounds := isOpening_bounds hc
    exact ⟨c, rfl, (not_blank_of_bounds hbounds.1 hbounds.2.1).2⟩
  · obtain ⟨c, hlast, hc⟩ := h.closing
    have hbounds := isClosing_bounds hc
    exact ⟨c, hlast, (not_blank_of_bounds hbounds.1 hbounds.2).2⟩

/-- **A VALUE IS READ AS IT WAS WRITTEN**, with blanks behind it or without.  Its text neither
    begins nor ends with a blank, and it holds control characters only to set parts apart. -/
theorem read_write {v : Value} (h : Holds depthLimit v) {l : Layout} (hl : l.Blank) :
    ∃ cs, write l v = .of cs ∧
      (∀ blanks, blanks.all isBlank = true → read (cs ++ blanks) = .ok v) ∧
      Text.Framed Text.isBlank cs ∧ cs.all l.shows = true := by
  obtain ⟨cs, hdraft, hform, hshown⟩ := h.written hl 0
  exact ⟨cs, hdraft, fun _ => hform.read, hform.framed, hshown⟩

end Likeness.Json
