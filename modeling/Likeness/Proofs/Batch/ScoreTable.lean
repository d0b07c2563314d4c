import Likeness.Batch.Artefacts
import Likeness.Proofs.Decimal.Characters
import Likeness.Proofs.Results
import Likeness.Proofs.Table.Reading
import Likeness.Proofs.Text.Drafts

/-! # The table of scores

    A table that was written is the heading and the rows, so whether it is read
    again as it was written is a matter of its fields (`Table.read_encode_iff`).
    In the table of scores the numbers are legible, and the texts of a record are
    what they are.

    The main result is `Artefacts.tables_read_back`. -/

namespace Likeness

namespace Table

/-- The fields of a row. -/
theorem draftFields_eq_of {fields : List Value} {cs : List Char}
    (h : draftFields fields = .of cs) :
    ∃ row, fields.mapM fieldText = .ok row ∧ cs = encodeRow row := by
  have hrow := Text.Draft.ofExcept_eq_of h
  cases hfields : fields.mapM fieldText with
  | error e =>
      rw [hfields] at hrow
      exact nomatch hrow
  | ok row =>
      rw [hfields] at hrow
      exact ⟨row, rfl, (Except.ok.inj hrow).symm⟩

/-- Rows that were written. -/
theorem draftRows_eq_of {rows : List (List Value)} {cs : List Char}
    (h : Text.Draft.concat (rows.map draftFields) = .of cs) :
    ∃ table, rows.mapM (·.mapM fieldText) = .ok table ∧ cs = encode table := by
  induction rows generalizing cs with
  | nil => exact ⟨[], rfl, (congrArg Text.Draft.chars h).symm⟩
  | cons fields rows ih =>
      obtain ⟨as, bs, has, hbs, rfl⟩ := Text.Draft.concat_cons_eq_of h
      obtain ⟨row, hrow, rfl⟩ := draftFields_eq_of has
      obtain ⟨table, htable, rfl⟩ := ih hbs
      refine ⟨row :: table, ?_, rfl⟩
      rw [mapM_cons_ok _ hrow, htable]
      rfl

theorem write_eq_concat (heading : List Value) (rows : List (List Value)) :
    write (.list heading) (.list (rows.map .list))
      = Text.Draft.concat ((heading :: rows).map draftFields) := by
  show draftFields heading ++ Text.Draft.concat ((rows.map .list).map draftRow) = _
  rw [List.map_map]
  rfl

theorem fieldTexts (row : List String) :
    (row.map Value.text).mapM fieldText = .ok (row.map String.toList) := by
  rw [List.mapM_map]
  exact mapM_ok fun _ _ => rfl

/-- A row of texts is written. -/
theorem draftFields_texts (row : List String) :
    draftFields (row.map .text) = .of (encodeRow (row.map String.toList)) := by
  rw [draftFields, fieldTexts]
  rfl

/-- Rows of texts are written. -/
theorem draftRows_texts (rows : List (List String)) :
    Text.Draft.concat ((rows.map (·.map .text)).map draftFields)
      = .of (encode (rows.map (·.map String.toList))) := by
  induction rows with
  | nil => rfl
  | cons row rows ih =>
      show draftFields (row.map .text)
        ++ Text.Draft.concat ((rows.map (·.map .text)).map draftFields) = _
      rw [draftFields_texts, ih]
      rfl

/-- A table of texts is written, and it is read as it was written exactly when its fields
    are legible. -/
theorem read_write_texts (heading : List String) (rows : List (List String)) :
    ∃ cs, write (.list (heading.map .text)) (.list ((rows.map (·.map .text)).map .list)) = .of cs ∧
      (read cs = (heading :: rows).map (·.map String.toList) ↔
        ∀ row ∈ heading :: rows, ∀ field ∈ row, Legible field.toList) := by
  refine ⟨_, (write_eq_concat _ _).trans (draftRows_texts (heading :: rows)), ?_⟩
  rw [read_encode_iff]
  simp only [List.forall_mem_map]

end Table

namespace Artefacts

/-! ## The fields of a record -/

/-- A score as the table has it. -/
def scoreText : Score Float → List Char
  | .whole n => (Decimal.intText n).toList
  | .real x => (Decimal.fixedText 4 x).toList

/-- Whether a bound was exceeded, as the table has it. -/
def exceededText : Option Bool → List Char
  | none => []
  | some true => ['1']
  | some false => ['0']

/-- The fields of a record. -/
def fields (r : Record Float) : List (List Char) :=
  [r.pairId.toList, scoreText r.score, exceededText r.exceeded, r.left.toList, r.right.toList]

/-- The names of the fields. -/
def names : List String := ["pair_id", "score", "exceeded", "left", "right"]

theorem fieldText_score {s : Score Float} {cs : List Char}
    (h : Table.fieldText (scoreField s) = .ok cs) : cs = scoreText s := by
  cases s with
  | real x => exact (Except.ok.inj h).symm
  | whole n =>
      have hinteger : Json.integer n = .ok cs := h
      unfold Json.integer at hinteger
      split_ifs at hinteger
      exact (Except.ok.inj hinteger).symm

theorem fieldText_exceeded (exceeded : Option Bool) :
    Table.fieldText (Value.ofOption (fun b => .int (if b then 1 else 0)) exceeded)
      = .ok (exceededText exceeded) := by
  match exceeded with
  | none => rfl
  | some true => rfl
  | some false => rfl

/-- The values of a row. -/
def rowValues (r : Record Float) : List Value :=
  [.text r.pairId, scoreField r.score,
    Value.ofOption (fun b => .int (if b then 1 else 0)) r.exceeded, .text r.left, .text r.right]

/-- What was written of a record are its fields. -/
theorem fieldTexts_row {r : Record Float} {fs : List (List Char)}
    (h : (rowValues r).mapM Table.fieldText = .ok fs) : fs = fields r := by
  obtain ⟨_, _, hid, h₁, rfl⟩ := mapM_cons_eq_ok h
  obtain ⟨_, _, hscore, h₂, rfl⟩ := mapM_cons_eq_ok h₁
  obtain ⟨_, _, hexceeded, h₃, rfl⟩ := mapM_cons_eq_ok h₂
  obtain ⟨_, _, hleft, h₄, rfl⟩ := mapM_cons_eq_ok h₃
  obtain ⟨_, _, hright, h₅, rfl⟩ := mapM_cons_eq_ok h₄
  rw [fieldText_exceeded] at hexceeded
  cases hid
  cases hexceeded
  cases hleft
  cases hright
  cases h₅
  rw [fieldText_score hscore]
  rfl

/-- What was written of records are their fields, below the names of the fields. -/
theorem tableDraft_eq_of {records : List (Record Float)} {cs : List Char}
    (h : tableDraft records = .of cs) :
    cs = Table.encode (names.map String.toList :: records.map fields) := by
  have hdraft : tableDraft records = Text.Draft.concat
      ((names.map Value.text :: records.map rowValues).map Table.draftFields) := by
    rw [← Table.write_eq_concat, List.map_map]
    rfl
  obtain ⟨table, htable, rfl⟩ := Table.draftRows_eq_of (hdraft.symm.trans h)
  obtain ⟨_, rows, hnames, hrows, rfl⟩ := mapM_cons_eq_ok htable
  rw [List.mapM_map] at hrows
  rw [Table.fieldTexts] at hnames
  rw [eq_map_of_mapM hrows fun r fs => fieldTexts_row, Except.ok.inj hnames]

/-- A number is legible. -/
theorem legible_of_numeral {cs : List Char} (h : cs.all Decimal.isNumeral = true) :
    Table.Legible cs := by
  intro hreturn
  exact absurd (List.all_eq_true.mp h _ hreturn) (by decide)

theorem scoreText_numeral (s : Score Float) : (scoreText s).all Decimal.isNumeral = true := by
  cases s with
  | whole n => exact Decimal.intText_numeral n
  | real x => exact Decimal.fixedText_numeral 4 x

theorem exceededText_numeral (exceeded : Option Bool) :
    (exceededText exceeded).all Decimal.isNumeral = true := by
  match exceeded with
  | none => rfl
  | some true => rfl
  | some false => rfl

/-- The numbers in a row are legible. -/
theorem fields_legible (r : Record Float) :
    (∀ f ∈ fields r, Table.Legible f) ↔
      Table.Legible r.pairId.toList ∧ Table.Legible r.left.toList ∧
        Table.Legible r.right.toList := by
  have hscore := legible_of_numeral (scoreText_numeral r.score)
  have hexceeded := legible_of_numeral (exceededText_numeral r.exceeded)
  simp only [fields, List.forall_mem_cons, List.not_mem_nil, false_implies, implies_true,
    hscore, hexceeded, true_and, and_true]

/-- **TABLES ARE READ AS THEY WERE WRITTEN** when their fields are legible, and only then.
    A table of texts is always written.  The table of scores of some records, where it is
    written, is read as one row for each record below the names of the fields, exactly when
    the texts of all records are legible. -/
theorem tables_read_back (heading : List String) (rows : List (List String))
    (records : List (Record Float)) :
    (∃ cs, Table.write (.list (heading.map .text)) (.list ((rows.map (·.map .text)).map .list))
        = .of cs ∧
      (Table.read cs = (heading :: rows).map (·.map String.toList) ↔
        ∀ row ∈ heading :: rows, ∀ field ∈ row, Table.Legible field.toList)) ∧
    ∀ cs, tableDraft records = .of cs →
      (Table.read cs = names.map String.toList :: records.map fields ↔
        ∀ r ∈ records, Table.Legible r.pairId.toList ∧ Table.Legible r.left.toList ∧
          Table.Legible r.right.toList) := by
  refine ⟨Table.read_write_texts heading rows, fun cs h => ?_⟩
  have hreturn : ∀ f ∈ names.map String.toList, '\r' ∉ f := by decide
  have hnames : ∀ f ∈ names.map String.toList, Table.Legible f :=
    fun f hf hmem => absurd hmem (hreturn f hf)
  rw [tableDraft_eq_of h, Table.read_encode_iff, List.forall_mem_cons]
  refine (and_iff_right hnames).trans ?_
  rw [List.forall_mem_map]
  exact forall₂_congr fun r _ => fields_legible r

/-- A record with a tab, a quoted carriage return and a line feed in its texts. -/
theorem tables_read_back_quoted :
    let r : Record Float := ⟨"p1", "a\tb", "line\r\nbreak", "levenshtein", .whole 9, none⟩
    ∃ cs, tableDraft [r] = .of cs ∧ (∀ s ∈ [r], Table.Legible s.pairId.toList ∧
        Table.Legible s.left.toList ∧ Table.Legible s.right.toList) ∧
      Table.read cs = [names.map String.toList, fields r] := by
  intro r
  have hlegible : ∀ s ∈ [r], Table.Legible s.pairId.toList ∧
      Table.Legible s.left.toList ∧ Table.Legible s.right.toList := by
    intro s hs
    rw [List.mem_singleton.mp hs]
    exact ⟨fun h => absurd h (by decide), fun h => absurd h (by decide), fun _ => by decide⟩
  obtain ⟨cs, hcs⟩ : ∃ cs, tableDraft [r] = .of cs := ⟨_, rfl⟩
  exact ⟨cs, hcs, hlegible, ((tables_read_back [] [] [r]).2 cs hcs).mpr hlegible⟩

/-- **A CARRIAGE RETURN ENDS A ROW**: a record with one in a text, and nothing else that is
    quoted, is two rows of the table of scores. -/
theorem record_split_at_return :
    ∃ cs, tableDraft [⟨"p1", "x\ry", "xy", "levenshtein", .whole 1, none⟩] = .of cs ∧
      Table.read cs = [names.map String.toList,
        ["p1", "1", "", "x"].map String.toList, ["y", "xy"].map String.toList] := by
  refine ⟨_, rfl, ?_⟩
  decide +kernel

end Artefacts

end Likeness
