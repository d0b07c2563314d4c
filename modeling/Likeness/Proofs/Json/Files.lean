import Likeness.Batch.Artefacts
import Likeness.Proofs.Json.RoundTrip
import Likeness.Proofs.Session.Work

/-! # Files of JSON

    A file holds one value with a line feed behind it, or a list of values with
    one on each line.  No character of a value on one line is a line break, and no
    value begins or ends with a blank, so lines are neither cut nor trimmed
    (`linesFrom_written`).  Both kinds of files are read as they were written
    (`readRecords_run`, `documentAt_eq`).

    Where something was written to its end, its integers are not too long
    (`entries_hold`); nothing has to be known about them before.

    A file is read as the lines that hold something (`linesFrom_filled`).  What a line
    says is made of texts, numbers, arrays and objects, never of octets
    (`read_not_octets`). -/

namespace Likeness.Json

open Text (Draft)

/-- What JSON holds, it holds at a smaller depth too. -/
theorem Holds.mono {m n : Nat} {v : Value} (h : Holds m v) (hmn : m ≤ n) : Holds n v := by
  induction h generalizing n with
  | null => exact .null
  | bool b => exact .bool b
  | int hn => exact .int hn
  | real x => exact .real x
  | text s => exact .text s
  | list _ ih =>
      obtain ⟨k, rfl⟩ : ∃ k, n = k + 1 := ⟨n - 1, by omega⟩
      exact .list fun x hx => ih x hx (by omega)
  | object hnames _ ih =>
      obtain ⟨k, rfl⟩ : ∃ k, n = k + 1 := ⟨n - 1, by omega⟩
      exact .object hnames fun e he => ih e he (by omega)

/-! ## What was written to its end -/

/-- A value without parts; JSON holds it if it is not an integer that is too long. -/
inductive Atom : Value → Prop where
  | null : Atom .null
  | bool (b : Bool) : Atom (.bool b)
  | int (n : Int) : Atom (.int n)
  | real (x : Float) : Atom (.real x)
  | text (s : String) : Atom (.text s)

theorem Atom.holds {l : Layout} {level nested : Nat} {v : Value} {cs : List Char} (h : Atom v)
    (hdraft : draft l level v = .of cs) : Holds nested v := by
  cases h with
  | null => exact .null
  | bool b => exact .bool b
  | int n => exact .int ⟨cs, Draft.ofExcept_eq_of hdraft⟩
  | real x => exact .real x
  | text s => exact .text s

/-- All values of an object that was written were written. -/
theorem draftEntries_eq_of {l : Layout} {level : Nat} {front cs : List Char}
    {es : List (String × Value)} (h : draftEntries l level front (entriesOf es) = .of cs) :
    ∀ e ∈ es, ∃ vcs, draft l level e.2 = .of vcs := by
  induction es generalizing front cs with
  | nil => exact fun e he => nomatch he
  | cons e es ih =>
      rw [draftEntries_cons] at h
      obtain ⟨as, bs, hfirst, hrest, -⟩ := Draft.append_eq_of h
      obtain ⟨_, vcs, -, hvalue, -⟩ := Draft.append_eq_of hfirst
      intro f hf
      rcases List.mem_cons.mp hf with rfl | hf
      · exact ⟨vcs, hvalue⟩
      · exact ih hrest f hf

/-- The entries of an object that was written to its end, if none of them has parts. -/
theorem entries_hold {l : Layout} {nested : Nat} {cs : List Char} {es : List (String × Value)}
    (h : ∀ e ∈ es, Atom e.2) (hwrite : write l (.dict (entriesOf es)) = .of cs) :
    ∀ e ∈ es, Holds nested e.2 := by
  intro e he
  have hne : ¬ (entriesOf es).isEmpty = true := by
    rw [List.isEmpty_iff, List.map_eq_nil_iff]
    exact List.ne_nil_of_mem he
  rw [write, draft, if_neg hne] at hwrite
  obtain ⟨_, _, hwrite, -, -⟩ := Draft.append_eq_of hwrite
  obtain ⟨_, _, hwrite, -, -⟩ := Draft.append_eq_of hwrite
  obtain ⟨_, _, -, hentries, -⟩ := Draft.append_eq_of hwrite
  obtain ⟨vcs, hvalue⟩ := draftEntries_eq_of hentries e he
  exact (h e he).holds hvalue

/-! ## Lines that hold something -/

/-- The lines that hold something, without the blanks around it. -/
def filled (ls : List (List Char)) : List (List Char) :=
  (ls.map (Text.trimBoth Text.isBlank)).filter fun l => !l.isEmpty

theorem filled_cons (l : List Char) (ls : List (List Char)) :
    filled (l :: ls)
      = if (Text.trimBoth Text.isBlank l).isEmpty then filled ls
        else Text.trimBoth Text.isBlank l :: filled ls := by
  rw [filled, List.map_cons, List.filter_cons]
  cases (Text.trimBoth Text.isBlank l).isEmpty with
  | true => rfl
  | false => rfl

/-- Blank lines are not read, wherever they are. -/
theorem linesFrom_filled {path : String} {ls : List (List Char)} {vs : List Value}
    (h : (filled ls).mapM read = .ok vs) (number : Nat) : linesFrom path number ls = .ok vs := by
  induction ls generalizing vs number with
  | nil => exact (congrArg Except.ok (Except.ok.inj h) : _)
  | cons l ls ih =>
      rw [filled_cons] at h
      by_cases hblank : (Text.trimBoth Text.isBlank l).isEmpty = true
      · rw [if_pos hblank] at h
        rw [linesFrom, if_pos hblank]
        exact ih h (number + 1)
      · rw [if_neg hblank] at h
        obtain ⟨v, rest, hread, hrest, rfl⟩ := mapM_cons_eq_ok h
        have hline : line path number (Text.trimBoth Text.isBlank l) = .ok v := by
          rw [line, hread]
          rfl
        rw [linesFrom, if_neg hblank, hline, ih hrest (number + 1)]
        rfl

/-! ## What a document holds -/

theorem number_atom {cs rest : List Char} {v : Value} (h : number cs = .ok (v, rest)) :
    Atom v := by
  rw [number_eq] at h
  cases hwhole : wholePart? (numberSign cs).2 with
  | none =>
      rw [hwhole] at h
      exact nomatch h
  | some parts =>
      rw [hwhole] at h
      dsimp only [numberOf] at h
      split_ifs at h
      · cases h
        exact .int _
      · cases h
        exact .int _
      · split at h
        · cases h
          exact .real _
        · exact nomatch h

theorem named_atom : ∀ n ∈ namedValues, Atom n.2 := by
  simp only [namedValues, List.forall_mem_cons]
  exact ⟨.null, .bool _, .bool _, .real _, .real _, .real _, List.forall_mem_nil _⟩

/-- A value that is neither a text nor an array nor an object has no parts. -/
theorem scalar_atom {cs rest : List Char} {v : Value} (h : scalar cs = .ok (v, rest)) :
    Atom v := by
  cases hnamed : named? cs with
  | none =>
      rw [scalar_of_none hnamed] at h
      exact number_atom h
  | some r =>
      rw [scalar_of_some hnamed] at h
      cases h
      obtain ⟨n, hn, hcut⟩ := List.exists_of_findSome?_eq_some hnamed
      obtain ⟨_, -, hvalue⟩ := Option.map_eq_some_iff.mp hcut
      cases hvalue
      exact named_atom n hn

/-- What a value that was read is. -/
inductive Shape : Value → Prop where
  | atom {v : Value} (h : Atom v) : Shape v
  | codes (codes : List Nat) : Shape (.ofCodes codes)
  | list (items : List Value) : Shape (.list items)
  | empty : Shape (.dict [])
  | object {fuel depth : Nat} {cs rest : List Char} {entries : List (Value × Value)}
      (h : entriesFrom fuel depth cs = .ok (entries, rest)) : Shape (.dictOf entries)

theorem valueFrom_shape {fuel depth : Nat} {cs rest : List Char} {v : Value}
    (h : valueFrom fuel depth cs = .ok (v, rest)) : Shape v := by
  cases fuel with
  | zero => exact nomatch h
  | succ fuel =>
      cases cs with
      | nil => exact nomatch h
      | cons c tail =>
          rw [valueFrom] at h
          split_ifs at h
          · obtain ⟨r, -, hvalue⟩ := map_eq_ok h
            cases hvalue
            exact .codes r.1
          · split at h
            · cases h
              exact .list []
            · obtain ⟨items, -, hvalue⟩ := bind_eq_ok h
              cases hvalue
              exact .list _
          · split at h
            · cases h
              exact .empty
            · obtain ⟨entries, hentries, hvalue⟩ := bind_eq_ok h
              cases hvalue
              exact .object hentries
          · exact .atom (scalar_atom h)

/-- A value that is made of octets. -/
def isOctets : Value → Bool
  | .bytes _ _ => true
  | _ => false

theorem Shape.not_octets {v : Value} (h : Shape v) : isOctets v = false := by
  cases h with
  | atom h =>
      cases h with
      | _ => rfl
  | codes codes =>
      rw [Value.ofCodes]
      split_ifs
      · rfl
      · rfl
  | list => rfl
  | empty => rfl
  | object => rfl

theorem entriesFrom_not_octets {fuel depth : Nat} {cs rest : List Char}
    {entries : List (Value × Value)} (h : entriesFrom fuel depth cs = .ok (entries, rest)) :
    ∀ e ∈ entries, isOctets e.2 = false := by
  induction fuel generalizing depth cs rest entries with
  | zero => cases h
  | succ fuel ih =>
      cases cs with
      | nil => cases h
      | cons c tail =>
          by_cases hquote : c = '"'
          · subst hquote
            rw [entriesFrom] at h
            obtain ⟨⟨name, _⟩, -, h⟩ := bind_eq_ok h
            dsimp only at h
            split at h
            · obtain ⟨⟨v, _⟩, hfirst, h⟩ := bind_eq_ok h
              have hv : isOctets v = false := (valueFrom_shape hfirst).not_octets
              dsimp only at h
              split at h
              · cases h
                exact List.forall_mem_singleton.mpr hv
              · obtain ⟨⟨more, _⟩, hmore, h⟩ := bind_eq_ok h
                cases h
                exact List.forall_mem_cons.mpr ⟨hv, ih hmore⟩
              · cases h
            · cases h
          · rw [entriesFrom] at h
            · cases h
            · intro _ _ _ htext
              exact hquote (List.cons.inj htext).1

theorem putEntry_not_octets {es : List (Value × Value)} {k v : Value}
    (hes : ∀ e ∈ es, isOctets e.2 = false) (hv : isOctets v = false) :
    ∀ e ∈ Value.putEntry es k v, isOctets e.2 = false := by
  induction es with
  | nil => exact List.forall_mem_singleton.mpr hv
  | cons e es ih =>
      obtain ⟨he, hes⟩ := List.forall_mem_cons.mp hes
      rw [Value.putEntry]
      split_ifs
      · exact List.forall_mem_cons.mpr ⟨hv, hes⟩
      · exact List.forall_mem_cons.mpr ⟨he, ih hes⟩

/-- **NO ENTRY OF A DOCUMENT IS OCTETS**, so its texts are texts. -/
theorem read_not_octets {cs : List Char} {entries : List (Value × Value)}
    (h : read cs = .ok (.dict entries)) : ∀ e ∈ entries, isOctets e.2 = false := by
  rw [read] at h
  split_ifs at h
  obtain ⟨⟨v, rest⟩, hv, h⟩ := bind_eq_ok h
  dsimp only at h
  split at h
  · obtain rfl := Except.ok.inj h
    have hshape := valueFrom_shape hv
    generalize hdict : Value.dict entries = v at hshape
    cases hshape with
    | atom hatom =>
        cases hdict
        cases hatom
    | codes codes =>
        rw [Value.ofCodes] at hdict
        split_ifs at hdict
        cases hdict
    | list => cases hdict
    | empty =>
        cases hdict
        exact List.forall_mem_nil _
    | object hentries =>
        cases hdict
        have hall := entriesFrom_not_octets hentries
        refine List.foldlRecOn _ _
          (motive := fun es : List (Value × Value) => ∀ e ∈ es, isOctets e.2 = false)
          (List.forall_mem_nil _) ?_
        intro es hes e he
        exact putEntry_not_octets hes (hall e he)
  · cases h

end Likeness.Json

namespace Likeness.Artefacts

open Text (Draft)

/-! ## One value on each line -/

theorem linesDraft_cons (v : Value) (vs : List Value) :
    linesDraft (v :: vs)
      = .ofExcept ((Json.write .inline v).finished.map fun cs => cs ++ ['\n']) ++ linesDraft vs :=
  rfl

/-- All values of a file that was written were written. -/
theorem linesDraft_eq_of {vs : List Value} {cs : List Char} (h : linesDraft vs = .of cs) :
    ∀ v ∈ vs, ∃ l, Json.write .inline v = .of l := by
  induction vs generalizing cs with
  | nil => exact fun v hv => nomatch hv
  | cons v vs ih =>
      rw [linesDraft_cons] at h
      obtain ⟨_, _, hline, hrest, -⟩ := Draft.append_eq_of h
      intro w hw
      rcases List.mem_cons.mp hw with rfl | hw
      · have hfinished := Draft.ofExcept_eq_of hline
        cases hw : (Json.write .inline w).finished with
        | error e =>
            rw [hw] at hfinished
            exact nomatch hfinished
        | ok l => exact ⟨l, Draft.finished_eq_ok hw⟩
      · exact ih hrest w hw

/-- The lines of values, none of which holds a break, and how they are read. -/
theorem linesFrom_written {vs : List Value} (h : ∀ v ∈ vs, Json.Holds Json.depthLimit v) :
    ∃ ls, linesDraft vs = .of (ls.flatMap fun l => l ++ ['\n']) ∧
      (∀ l ∈ ls, '\n' ∉ l ∧ '\r' ∉ l) ∧
      ∀ path number, Json.linesFrom path number ls = .ok vs := by
  induction vs with
  | nil => exact ⟨[], rfl, List.forall_mem_nil _, fun _ _ => rfl⟩
  | cons v vs ih =>
      obtain ⟨l, hwrite, hread, hframed, hshown⟩ :=
        Json.read_write (h v List.mem_cons_self) Json.Layout.blank_inline
      obtain ⟨ls, hlines, hbreaks, hrest⟩ := ih fun w hw => h w (List.mem_cons_of_mem _ hw)
      have hbreak : ∀ c, Json.Layout.inline.shows c = false → c ∉ l := by
        intro c hc hmem
        exact absurd ((List.all_eq_true.mp hshown c hmem).symm.trans hc) Bool.noConfusion
      refine ⟨l :: ls, ?_, ?_, ?_⟩
      · rw [linesDraft_cons, hwrite, hlines, List.flatMap_cons]
        rfl
      · intro m hm
        rcases List.mem_cons.mp hm with rfl | hm
        · exact ⟨hbreak '\n' (by decide), hbreak '\r' (by decide)⟩
        · exact hbreaks m hm
      · intro path number
        have hne : ¬ l.isEmpty = true := by rw [List.isEmpty_iff]; exact hframed.ne_nil
        have hline : Json.line path number l = .ok v := by
          rw [Json.line, ← List.append_nil l, hread [] rfl]
          rfl
        rw [Json.linesFrom, Text.trimBoth_framed hframed, if_neg hne, hline,
          hrest path (number + 1)]
        rfl

/-- The values of a file that holds their lines. -/
theorem readRecords_run {vs : List Value} (h : ∀ v ∈ vs, Json.Holds Json.depthLimit v) {p : Path}
    {s : Session} (hbytes : s.store.bytes p = .ok (Text.Utf8.encode (linesDraft vs).chars)) :
    (readRecords p).run s = (.ok vs, s) := by
  obtain ⟨ls, hlines, hbreaks, hread⟩ := linesFrom_written h
  rw [readRecords, Work.run_look, Store.lines, hbytes, hlines]
  show (Json.records p.text (Text.streamLines (Text.Utf8.encode
    (ls.flatMap fun l => l ++ ['\n']))), s) = _
  rw [Text.streamLines_encode hbreaks, Json.records, hread]
  rfl

/-! ## One value -/

/-- The value of the document in a file. -/
def documentAt (s : Store) (p : Path) : Except Fault Value := do
  Json.document (← s.text p)

/-- A value in a file was written to its end. -/
theorem documentDraft_eq_of {l : Json.Layout} {v : Value} {cs : List Char}
    (h : documentDraft l v = .of cs) : ∃ vcs, Json.write l v = .of vcs := by
  obtain ⟨vcs, _, hwrite, -, -⟩ := Draft.append_eq_of h
  exact ⟨vcs, hwrite⟩

/-- A value that JSON holds has a document. -/
theorem documentDraft_written {v : Value} (h : Json.Holds Json.depthLimit v) :
    ∃ cs, documentDraft layout v = .of cs ∧ '\r' ∉ cs ∧ Json.document cs = .ok v := by
  obtain ⟨cs, hwrite, hread, -, hshown⟩ := Json.read_write h (Json.Layout.blank_blanks 2)
  refine ⟨cs ++ ['\n'], ?_, ?_, ?_⟩
  · rw [documentDraft, layout, hwrite]
    rfl
  · intro hmem
    rcases List.mem_append.mp hmem with hmem | hmem
    · exact absurd (List.all_eq_true.mp hshown _ hmem) (by decide)
    · exact absurd (List.mem_singleton.mp hmem) (by decide)
  · rw [Json.document, hread ['\n'] rfl]
    rfl

/-- The value of a file that holds its document. -/
theorem documentAt_eq {v : Value} (h : Json.Holds Json.depthLimit v) {p : Path} {s : Store}
    (hbytes : s.bytes p = .ok (Text.Utf8.encode (documentDraft layout v).chars)) :
    documentAt s p = .ok v := by
  obtain ⟨cs, hdraft, hreturn, hread⟩ := documentDraft_written h
  rw [hdraft] at hbytes
  have hstored : s.bytes p = .ok (Text.Utf8.encode cs) := hbytes
  have htext : s.text p = .ok cs := by
    simp only [Store.text, hstored, Text.Utf8.decode_encode, Text.unifyBreaks_eq hreturn]
  rw [documentAt, htext]
  exact hread

end Likeness.Artefacts
