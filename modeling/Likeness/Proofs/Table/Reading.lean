import Likeness.Table.Row
import Mathlib.Data.List.Basic

/-! # Reading a table again

    A table is read by what reads tables with a tab between fields: quotes around
    a field are dropped, doubled ones in it count once, and a row ends at a line
    feed, at a carriage return, or at both, unless they are in quotes.

    A field with a carriage return is not quoted for it, so a table is not always
    read as it was written.  The main result is `Table.read_encode_iff`: it is,
    exactly when no field has a carriage return without another reason to be
    quoted. -/

namespace Likeness.Table

/-! ## What reads a table -/

/-- Where a reader stands. -/
inductive Stand where
  | rowStart
  | fieldStart
  | plain
  | quoted
  /-- Behind a quote in a quoted field: its end, or the first of two. -/
  | quoteSeen
  /-- Behind a carriage return that ended a row. -/
  | returned
  deriving Repr, DecidableEq

/-- The field that was begun ends at the next tab or line. -/
def Stand.isOpen : Stand → Bool
  | .fieldStart | .plain | .quoteSeen => true
  | .rowStart | .quoted | .returned => false

/-- What was read of a table: rows, fields of a row, characters of a field. -/
structure Reader where
  stand : Stand
  field : List Char
  row : List (List Char)
  rows : List (List (List Char))
  deriving Repr, DecidableEq

namespace Reader

/-- One more character of the field. -/
def push (r : Reader) (stand : Stand) (c : Char) : Reader :=
  { r with stand := stand, field := r.field ++ [c] }

/-- The field is over, and the row goes on. -/
def endField (r : Reader) : Reader :=
  { r with stand := .fieldStart, field := [], row := r.row ++ [r.field] }

/-- The row is over. -/
def endRow (r : Reader) (stand : Stand) : Reader :=
  { stand := stand, field := [], row := [], rows := r.rows ++ [r.row] }

/-- The field is over at a tab, and the row with it at the end of a line. -/
def delimit (r : Reader) (c : Char) (otherwise : Reader) : Reader :=
  if c = '\t' then r.endField
  else if c = '\n' then r.endField.endRow .rowStart
  else if c = '\r' then r.endField.endRow .returned
  else otherwise

/-- One more character at the start of a field. -/
def beginField (r : Reader) (c : Char) : Reader :=
  r.delimit c (if c = '"' then { r with stand := .quoted } else r.push .plain c)

/-- One more character at the start of a row; a line without characters is a row
    without fields. -/
def beginRow (r : Reader) (c : Char) : Reader :=
  if c = '\n' then r.endRow .rowStart
  else if c = '\r' then r.endRow .returned
  else r.beginField c

/-- One more character. -/
def step (r : Reader) (c : Char) : Reader :=
  match r.stand with
  | .rowStart => r.beginRow c
  | .fieldStart => r.beginField c
  | .plain => r.delimit c (r.push .plain c)
  | .quoted => if c = '"' then { r with stand := .quoteSeen } else r.push .quoted c
  | .quoteSeen => if c = '"' then r.push .quoted c else r.delimit c (r.push .plain c)
  | .returned => if c = '\n' then { r with stand := .rowStart } else r.beginRow c

/-- More characters. -/
def feed (r : Reader) (cs : List Char) : Reader := cs.foldl step r

/-- The rows when there are no more characters; the last line need not end. -/
def finish (r : Reader) : List (List (List Char)) :=
  match r.stand with
  | .rowStart | .returned => r.rows
  | .fieldStart | .plain | .quoted | .quoteSeen => (r.endField.endRow .rowStart).rows

/-- Nothing was read. -/
def start : Reader := ⟨.rowStart, [], [], []⟩

end Reader

/-- The rows of a table. -/
def read (cs : List Char) : List (List (List Char)) := (Reader.start.feed cs).finish

/-- A field that is quoted if it has a carriage return. -/
def Legible (field : List Char) : Prop := '\r' ∈ field → field.any needsQuotes = true

/-! ## Reading a field -/

namespace Reader

variable {field : List Char} {row : List (List Char)} {rows : List (List (List Char))}

theorem feed_append (r : Reader) (cs ds : List Char) : r.feed (cs ++ ds) = (r.feed cs).feed ds :=
  List.foldl_append

theorem step_tab {stand : Stand} (h : stand.isOpen = true) :
    (⟨stand, field, row, rows⟩ : Reader).step '\t' = ⟨.fieldStart, [], row ++ [field], rows⟩ := by
  cases stand with
  | fieldStart | plain | quoteSeen => rfl
  | rowStart | quoted | returned => exact nomatch h

theorem step_lineFeed {stand : Stand} (h : stand.isOpen = true) :
    (⟨stand, field, row, rows⟩ : Reader).step '\n'
      = ⟨.rowStart, [], [], rows ++ [row ++ [field]]⟩ := by
  cases stand with
  | fieldStart | plain | quoteSeen => rfl
  | rowStart | quoted | returned => exact nomatch h

theorem step_return {stand : Stand} (h : stand.isOpen = true) :
    (⟨stand, field, row, rows⟩ : Reader).step '\r'
      = ⟨.returned, [], [], rows ++ [row ++ [field]]⟩ := by
  cases stand with
  | fieldStart | plain | quoteSeen => rfl
  | rowStart | quoted | returned => exact nomatch h

/-- A character that neither delimits a field nor quotes is one more of the field. -/
theorem step_plain {stand : Stand} (h : stand = .fieldStart ∨ stand = .plain) {c : Char}
    (hquotes : needsQuotes c = false) (hreturn : c ≠ '\r') :
    (⟨stand, field, row, rows⟩ : Reader).step c = ⟨.plain, field ++ [c], row, rows⟩ := by
  simp only [needsQuotes, Bool.or_eq_false_iff, beq_eq_false_iff_ne] at hquotes
  obtain ⟨⟨htab, hquote⟩, hfeed⟩ := hquotes
  rcases h with rfl | rfl
  · simp only [step, beginField, delimit, push, if_neg htab, if_neg hfeed, if_neg hreturn,
      if_neg hquote]
  · simp only [step, delimit, push, if_neg htab, if_neg hfeed, if_neg hreturn]

variable (field row rows)

/-- Characters that neither delimit a field nor quote are read as they are. -/
theorem feed_plain {stand : Stand} (h : stand = .fieldStart ∨ stand = .plain) {cs : List Char}
    (hquotes : cs.any needsQuotes = false) (hreturn : '\r' ∉ cs) :
    ∃ stand', stand'.isOpen = true ∧
      (⟨stand, field, row, rows⟩ : Reader).feed cs = ⟨stand', field ++ cs, row, rows⟩ := by
  induction cs generalizing stand field with
  | nil =>
      refine ⟨stand, ?_, by rw [List.append_nil]; rfl⟩
      rcases h with rfl | rfl
      · rfl
      · rfl
  | cons c cs ih =>
      rw [List.any_cons, Bool.or_eq_false_iff] at hquotes
      rw [List.mem_cons, not_or] at hreturn
      obtain ⟨stand', hopen, hfeed⟩ := ih (field ++ [c]) (Or.inr rfl) hquotes.2 hreturn.2
      refine ⟨stand', hopen, ?_⟩
      rw [feed, List.foldl_cons, step_plain h hquotes.1 (Ne.symm hreturn.1)]
      rw [List.append_assoc] at hfeed
      exact hfeed

/-- Two quotes in a quoted field are one, and no other character ends it. -/
theorem feed_doubled (cs : List Char) :
    (⟨.quoted, field, row, rows⟩ : Reader).feed
        (cs.flatMap fun c => if c = '"' then ['"', '"'] else [c])
      = ⟨.quoted, field ++ cs, row, rows⟩ := by
  induction cs generalizing field with
  | nil =>
      rw [List.append_nil]
      rfl
  | cons c cs ih =>
      have hfirst : (⟨.quoted, field, row, rows⟩ : Reader).feed
          (if c = '"' then ['"', '"'] else [c]) = ⟨.quoted, field ++ [c], row, rows⟩ := by
        by_cases hc : c = '"'
        · subst hc
          rfl
        · rw [if_neg hc]
          exact if_neg hc
      rw [List.flatMap_cons, feed_append, hfirst, ih, List.append_assoc]
      rfl

/-- A quoted field is read without its quotes. -/
theorem feed_quote (cs : List Char) :
    (⟨.fieldStart, [], row, rows⟩ : Reader).feed (quote cs) = ⟨.quoteSeen, cs, row, rows⟩ := by
  rw [quote, feed_append]
  show ((⟨.quoted, [], row, rows⟩ : Reader).feed _).feed ['"'] = _
  rw [feed_doubled]
  rfl

theorem feed_encodeField {cs : List Char} (h : Legible cs) :
    ∃ stand, stand.isOpen = true ∧
      (⟨.fieldStart, [], row, rows⟩ : Reader).feed (encodeField cs) = ⟨stand, cs, row, rows⟩ := by
  rw [encodeField]
  split_ifs with hquotes
  · exact ⟨.quoteSeen, rfl, feed_quote row rows cs⟩
  · exact feed_plain [] row rows (Or.inl rfl) (eq_false_of_ne_true hquotes)
      fun hreturn => hquotes (h hreturn)

/-! ## Reading a row -/

theorem joinFields_cons_cons (f g : List Char) (fs : List (List Char)) :
    joinFields (f :: g :: fs) = f ++ '\t' :: joinFields (g :: fs) := rfl

/-- A row of legible fields is read up to its line feed. -/
theorem feed_joinFields {fs : List (List Char)} (hne : fs ≠ []) (h : ∀ f ∈ fs, Legible f) :
    (⟨.fieldStart, [], row, rows⟩ : Reader).feed (joinFields (fs.map encodeField) ++ ['\n'])
      = ⟨.rowStart, [], [], rows ++ [row ++ fs]⟩ := by
  induction fs generalizing row with
  | nil => exact absurd rfl hne
  | cons f fs ih =>
      obtain ⟨stand, hopen, hfield⟩ :=
        feed_encodeField row rows (h f List.mem_cons_self)
      cases fs with
      | nil =>
          show (Reader.feed _ (encodeField f ++ ['\n'])) = _
          rw [feed_append, hfield]
          exact step_lineFeed hopen
      | cons g gs =>
          have hrest := ih (row ++ [f]) (List.cons_ne_nil g gs)
            fun k hk => h k (List.mem_cons_of_mem _ hk)
          rw [List.map_cons, List.map_cons, joinFields_cons_cons, List.append_assoc, feed_append,
            hfield]
          show (Reader.step _ '\t').feed (joinFields ((g :: gs).map encodeField) ++ ['\n']) = _
          rw [step_tab hopen, hrest, List.append_assoc]
          rfl

/-- Only a line feed and a carriage return do more at the start of a row than at the
    start of a field. -/
theorem feed_rowStart {c : Char} (hfeed : c ≠ '\n') (hreturn : c ≠ '\r') (cs : List Char) :
    (⟨.rowStart, [], [], rows⟩ : Reader).feed (c :: cs)
      = (⟨.fieldStart, [], [], rows⟩ : Reader).feed (c :: cs) := by
  rw [feed, feed, List.foldl_cons, List.foldl_cons]
  congr 1
  show beginRow _ c = beginField _ c
  rw [beginRow, if_neg hfeed, if_neg hreturn]
  rfl

/-- A row with a character does not begin with a line feed, and only with a carriage
    return if its first field does. -/
theorem joinFields_begins {fs : List (List Char)} (hne : fs ≠ []) (hblank : fs ≠ [[]]) :
    ∃ c cs, joinFields (fs.map encodeField) ++ ['\n'] = c :: cs ∧ c ≠ '\n' ∧
      ((∀ f ∈ fs, Legible f) → c ≠ '\r') := by
  obtain ⟨f, fs, rfl⟩ := List.exists_cons_of_ne_nil hne
  obtain ⟨rest, hjoin⟩ :
      ∃ rest, joinFields ((f :: fs).map encodeField) = encodeField f ++ rest := by
    cases fs with
    | nil => exact ⟨[], (List.append_nil _).symm⟩
    | cons g gs => exact ⟨_, rfl⟩
  cases f with
  | nil =>
      obtain ⟨g, gs, rfl⟩ := List.exists_cons_of_ne_nil fun h => hblank (congrArg _ h)
      exact ⟨'\t', _, rfl, by decide, fun _ => by decide⟩
  | cons c cs =>
      by_cases hquotes : (c :: cs).any needsQuotes = true
      · refine ⟨'"', (quote (c :: cs)).tail ++ rest ++ ['\n'], ?_, by decide, fun _ => by decide⟩
        rw [hjoin, encodeField, if_pos hquotes]
        rfl
      · refine ⟨c, cs ++ rest ++ ['\n'], ?_, ?_, ?_⟩
        · rw [hjoin, encodeField, if_neg hquotes]
          rfl
        · rintro rfl
          exact hquotes rfl
        · rintro hlegible rfl
          exact hquotes (hlegible _ List.mem_cons_self List.mem_cons_self)

/-- A row of legible fields is read as it was written. -/
theorem feed_encodeRow {fs : List (List Char)} (h : ∀ f ∈ fs, Legible f) :
    (⟨.rowStart, [], [], rows⟩ : Reader).feed (encodeRow fs)
      = ⟨.rowStart, [], [], rows ++ [fs]⟩ := by
  by_cases hne : fs = []
  · subst hne
    rfl
  · by_cases hblank : fs = [[]]
    · subst hblank
      rfl
    · obtain ⟨c, cs, hbegins, hfeed, hreturn⟩ := joinFields_begins hne hblank
      have hrow := feed_joinFields [] rows hne h
      rw [encodeRow.eq_2 fs hblank]
      rw [hbegins] at hrow ⊢
      rw [feed_rowStart rows hfeed (hreturn h), hrow]
      rfl

/-! ## Rows that are read otherwise -/

theorem rows_delimit {r : Reader} (otherwise : Reader) (h : r.rows <+: otherwise.rows) (c : Char) :
    r.rows <+: (r.delimit c otherwise).rows := by
  unfold delimit
  split_ifs
  · exact List.prefix_rfl
  · exact List.prefix_append _ _
  · exact List.prefix_append _ _
  · exact h

theorem rows_beginField (r : Reader) (c : Char) : r.rows <+: (r.beginField c).rows := by
  refine rows_delimit _ ?_ c
  split_ifs
  · exact List.prefix_rfl
  · exact List.prefix_rfl

theorem rows_beginRow (r : Reader) (c : Char) : r.rows <+: (r.beginRow c).rows := by
  unfold beginRow
  split_ifs
  · exact List.prefix_append _ _
  · exact List.prefix_append _ _
  · exact rows_beginField r c

/-- What was read stays. -/
theorem rows_step (r : Reader) (c : Char) : r.rows <+: (r.step c).rows := by
  have hmore : r.rows <+: (r.delimit c (r.push .plain c)).rows :=
    rows_delimit (r.push .plain c) (List.prefix_refl r.rows) c
  unfold step
  cases r.stand with
  | rowStart => exact rows_beginRow r c
  | fieldStart => exact rows_beginField r c
  | plain => exact hmore
  | quoted =>
      dsimp only
      split_ifs
      · exact List.prefix_rfl
      · exact List.prefix_rfl
  | quoteSeen =>
      dsimp only
      split_ifs
      · exact List.prefix_rfl
      · exact hmore
  | returned =>
      dsimp only
      split_ifs
      · exact List.prefix_rfl
      · exact rows_beginRow r c

theorem rows_feed (r : Reader) (cs : List Char) : r.rows <+: (r.feed cs).rows := by
  induction cs generalizing r with
  | nil => exact List.prefix_rfl
  | cons c cs ih => exact (rows_step r c).trans (ih _)

theorem rows_finish (r : Reader) : r.rows <+: r.finish := by
  unfold finish
  cases r.stand with
  | rowStart | returned => exact List.prefix_rfl
  | fieldStart | plain | quoted | quoteSeen => exact List.prefix_append _ _

/-- A field that is not legible ends the row at its first carriage return. -/
theorem feed_illegible {f : List Char} (h : ¬ Legible f) (rest : List Char) :
    ∃ g, g ≠ f ∧
      rows ++ [row ++ [g]]
        <+: ((⟨.fieldStart, [], row, rows⟩ : Reader).feed (encodeField f ++ rest)).rows := by
  rw [Legible, Classical.not_imp] at h
  obtain ⟨hmem, hquotes⟩ := h
  obtain ⟨g, tail, rfl, hfirst⟩ := List.eq_append_cons_of_mem hmem
  refine ⟨g, ?_, ?_⟩
  · intro hg
    exact absurd (hg.symm ▸ hmem) hfirst
  · have hplain : g.any needsQuotes = false := by
      rw [List.any_append, Bool.or_eq_true, not_or] at hquotes
      exact eq_false_of_ne_true hquotes.1
    obtain ⟨stand, hopen, hfeed⟩ :=
      feed_plain [] row rows (Or.inl rfl) hplain hfirst
    rw [List.nil_append] at hfeed
    rw [encodeField, if_neg hquotes, List.append_assoc, feed_append, hfeed]
    show _ <+: ((Reader.step _ '\r').feed (tail ++ rest)).rows
    rw [step_return hopen]
    exact rows_feed ⟨.returned, [], [], _⟩ _

/-- A row with a field that is not legible ends early. -/
theorem feed_joinFields_illegible {fs : List (List Char)} (h : ∃ f ∈ fs, ¬ Legible f)
    (rest : List Char) :
    ∃ gs, gs ≠ fs ∧
      rows ++ [row ++ gs]
        <+: ((⟨.fieldStart, [], row, rows⟩ : Reader).feed
          (joinFields (fs.map encodeField) ++ rest)).rows := by
  induction fs generalizing row with
  | nil =>
      obtain ⟨_, hmem, _⟩ := h
      exact nomatch hmem
  | cons f fs ih =>
      by_cases hf : Legible f
      · obtain ⟨g, gs, rfl⟩ : ∃ g gs, fs = g :: gs := by
          refine List.exists_cons_of_ne_nil ?_
          rintro rfl
          obtain ⟨k, hk, hbad⟩ := h
          rw [List.mem_singleton.mp hk] at hbad
          exact hbad hf
        -- This field is read as it was written, and the row ends in a later one.
        obtain ⟨stand, hopen, hfield⟩ := feed_encodeField row rows hf
        obtain ⟨hs, hne, hprefix⟩ := ih (row ++ [f]) <| by
          obtain ⟨k, hk, hbad⟩ := h
          rcases List.mem_cons.mp hk with rfl | hk
          · exact absurd hf hbad
          · exact ⟨k, hk, hbad⟩
        refine ⟨f :: hs, fun heq => hne (List.cons.inj heq).2, ?_⟩
        rw [List.map_cons, List.map_cons, joinFields_cons_cons, List.append_assoc, feed_append,
          hfield]
        show _ <+: ((Reader.step _ '\t').feed (joinFields ((g :: gs).map encodeField) ++ rest)).rows
        rw [List.append_assoc row] at hprefix
        rw [step_tab hopen]
        exact hprefix
      · obtain ⟨more, hmore⟩ : ∃ more,
            joinFields ((f :: fs).map encodeField) ++ rest = encodeField f ++ more := by
          cases fs with
          | nil => exact ⟨rest, rfl⟩
          | cons g gs => exact ⟨_, List.append_assoc _ _ _⟩
        obtain ⟨g, hne, hprefix⟩ := feed_illegible row rows hf more
        refine ⟨[g], fun heq => hne (List.cons.inj heq).1, ?_⟩
        rw [hmore]
        exact hprefix

/-- A row with a field that is not legible is read as another one. -/
theorem feed_encodeRow_illegible {fs : List (List Char)} (h : ∃ f ∈ fs, ¬ Legible f)
    (rest : List Char) :
    ∃ gs, gs ≠ fs ∧
      rows ++ [gs] <+: ((⟨.rowStart, [], [], rows⟩ : Reader).feed (encodeRow fs ++ rest)).rows := by
  obtain ⟨f, hmem, hf⟩ := h
  have hne : fs ≠ [] := List.ne_nil_of_mem hmem
  have hblank : fs ≠ [[]] := by
    rintro rfl
    rw [List.mem_singleton.mp hmem] at hf
    exact hf fun hreturn => nomatch hreturn
  obtain ⟨c, cs, hbegins, hfeed, -⟩ := joinFields_begins hne hblank
  obtain ⟨gs, hgs, hprefix⟩ :=
    feed_joinFields_illegible [] rows ⟨f, hmem, hf⟩ (['\n'] ++ rest)
  rw [← List.append_assoc, hbegins] at hprefix
  rw [encodeRow.eq_2 fs hblank, hbegins]
  by_cases hreturn : c = '\r'
  · subst hreturn
    exact ⟨[], hne.symm, rows_feed ⟨.returned, [], [], rows ++ [[]]⟩ (cs ++ rest)⟩
  · refine ⟨gs, hgs, ?_⟩
    rw [List.cons_append, feed_rowStart rows hfeed hreturn]
    exact hprefix

end Reader

/-! ## Reading a table -/

theorem feed_encode {rows : List (List (List Char))} (done : List (List (List Char)))
    (h : ∀ fs ∈ rows, ∀ f ∈ fs, Legible f) :
    (⟨.rowStart, [], [], done⟩ : Reader).feed (encode rows)
      = ⟨.rowStart, [], [], done ++ rows⟩ := by
  induction rows generalizing done with
  | nil =>
      rw [List.append_nil]
      rfl
  | cons fs rows ih =>
      rw [encode, List.flatMap_cons, Reader.feed_append,
        Reader.feed_encodeRow done (h fs List.mem_cons_self), ← encode,
        ih (done ++ [fs]) fun gs hgs => h gs (List.mem_cons_of_mem _ hgs), List.append_assoc]
      rfl

theorem feed_encode_ne {rows : List (List (List Char))} (done : List (List (List Char)))
    (h : ∃ fs ∈ rows, ∃ f ∈ fs, ¬ Legible f) :
    ¬ done ++ rows = ((⟨.rowStart, [], [], done⟩ : Reader).feed (encode rows)).finish := by
  induction rows generalizing done with
  | nil =>
      obtain ⟨_, hmem, _⟩ := h
      exact nomatch hmem
  | cons fs rows ih =>
      rw [encode, List.flatMap_cons, ← encode]
      by_cases hfs : ∀ f ∈ fs, Legible f
      · obtain ⟨gs, hgs, hbad⟩ := h
        have hrest : ∃ fs ∈ rows, ∃ f ∈ fs, ¬ Legible f := by
          rcases List.mem_cons.mp hgs with rfl | hgs
          · obtain ⟨f, hf, hillegible⟩ := hbad
            exact absurd (hfs f hf) hillegible
          · exact ⟨gs, hgs, hbad⟩
        have hne := ih (done ++ [fs]) hrest
        rw [Reader.feed_append, Reader.feed_encodeRow done hfs]
        rwa [List.append_assoc] at hne
      · simp only [not_forall] at hfs
        obtain ⟨f, hf, hillegible⟩ := hfs
        obtain ⟨gs, hgs, hprefix⟩ :=
          Reader.feed_encodeRow_illegible done ⟨f, hf, hillegible⟩ (encode rows)
        intro heq
        have hread := hprefix.trans (Reader.rows_finish _)
        rw [← heq, List.prefix_append_right_inj] at hread
        exact hgs (List.cons_prefix_cons.mp hread).1

/-- **A TABLE IS READ AS IT WAS WRITTEN** exactly when every field with a carriage return
    is quoted for another reason. -/
theorem read_encode_iff (rows : List (List (List Char))) :
    read (encode rows) = rows ↔ ∀ fs ∈ rows, ∀ f ∈ fs, Legible f := by
  constructor
  · intro hread
    by_contra hbad
    simp only [not_forall] at hbad
    obtain ⟨fs, hfs, f, hf, hillegible⟩ := hbad
    exact feed_encode_ne [] ⟨fs, hfs, f, hf, hillegible⟩ hread.symm
  · intro hlegible
    rw [read, Reader.start, feed_encode [] hlegible]
    rfl

end Likeness.Table
