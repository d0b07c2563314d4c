import Likeness.Proofs.Batch.Failures
import Likeness.Proofs.Command.Accepted
import Likeness.Proofs.Session.Ends
import Likeness.Settings.File

/-! # What can be wrong with a file

    Settings, pairs and traces are read from files, and most of what can be wrong
    with them is a bad value (`Fault.isBadValue`), which commands explain.  Three
    things are not: the fault of a document that is no YAML, a product of settings
    that is beyond the range of a double, and a record that is nested too deep. -/

namespace Likeness

/-- A file that can be read, or nothing where a file could be. -/
def Store.Readable (s : Store) (p : Path) : Prop :=
  s.holds p = .ok false ∨ ∃ bytes, s.bytes p = .ok bytes

theorem Store.holds_of_pieces {s : Store} {p : Path} {pieces : Text.Pieces}
    (h : s.pieces p = .ok pieces) : s.holds p = .ok true := by
  obtain ⟨bytes, hbytes, -⟩ := map_eq_ok h
  exact holds_of_bytes hbytes

/-! ## Settings -/

theorem Match.times?_error {K : Type} [Scalar K] {x y : Score K} {e : Fault}
    (h : times? x y = .error e) : e = .outOfRange := by
  have hint : ∀ {n : Int} {g : K → Except Fault (Score K)}, (∀ z, ∃ u, g z = .ok u) →
      (Scalar.ofInt? n).elim (.error .outOfRange) g = .error e → e = .outOfRange := by
    intro n g hg hn
    cases hz : (Scalar.ofInt? n : Option K) with
    | none =>
        rw [hz] at hn
        exact (Except.error.inj hn).symm
    | some z =>
        rw [hz] at hn
        obtain ⟨u, hu⟩ := hg z
        exact nomatch hu.symm.trans hn
  cases x with
  | whole m =>
      cases y with
      | whole n => exact nomatch h
      | real y => exact hint (fun z => ⟨_, rfl⟩) h
  | real x =>
      cases y with
      | whole n => exact hint (fun z => ⟨_, rfl⟩) h
      | real y => exact nomatch h

namespace Settings

theorem ofEntries_error {entries : List (Value × Value)} {e : Fault}
    (h : ofEntries entries = .error e) : ∃ complaints, e = .invalid complaints := by
  simp only [ofEntries] at h
  split at h
  · cases h
  · exact ⟨_, (Except.error.inj h).symm⟩

/-- Settings are refused for what they say, or because the product of the factor and the limit is
    beyond the range of a double. -/
theorem read_error {v : Value} {e : Fault} (h : read Float v = .error e) :
    (∃ complaints, e = .invalid complaints) ∨ e = .outOfRange := by
  cases v with
  | dict entries =>
      obtain hentries | ⟨s, -, h⟩ := bind_eq_error h
      · exact .inl (ofEntries_error hentries)
      obtain hcheck | ⟨_, -, h⟩ := bind_eq_error h
      · obtain hproduct | ⟨product, -, hexceeds⟩ := bind_eq_error hcheck
        · exact .inr (Match.times?_error hproduct)
        · split_ifs at hexceeds
          exact .inl ⟨_, (Except.error.inj hexceeds).symm⟩
      · exact nomatch h
  | _ => exact .inl ⟨_, (Except.error.inj h).symm⟩

/-- The faults of a file of settings that are not explained by what they say. -/
inductive Unreadable (store : Store) (p : Path) : Fault → Prop where
  | document {pieces : Text.Pieces} {e : Fault} (hpieces : store.pieces p = .ok pieces)
      (h : Yaml.read pieces = .error e) : Unreadable store p e
  | product {pieces : Text.Pieces} {v : Value} (hpieces : store.pieces p = .ok pieces)
      (hread : Yaml.read pieces = .ok v)
      (h : read Float (if v.holds then v else .dict []) = .error .outOfRange) :
      Unreadable store p .outOfRange

/-- Settings are those that their file describes. -/
theorem load_run {named : Option Path} {default : Path} {bytes : List UInt8} {s : Session}
    (hbytes : s.store.bytes (named.getD default) = .ok bytes) :
    (load Float named default).run s
      = (Yaml.read (.ofBytes bytes) >>= ofDocument Float (named.getD default).text, s) := by
  have hpieces : s.store.pieces (named.getD default) = .ok (.ofBytes bytes) := by
    rw [Store.pieces, hbytes]
    rfl
  unfold load
  refine (Work.run_bind_of_ok (Work.run_holds (Store.holds_of_bytes hbytes)) _).trans ?_
  refine (Work.run_bind_of_ok (Work.run_look_ok hpieces) _).trans ?_
  exact Work.run_ofExcept _ s

/-- Without a file, settings that were not asked for are the default ones. -/
theorem load_missing {default : Path} {s : Session} (h : s.store.holds default = .ok false) :
    (load Float none default).run s = (.ok {}, s) :=
  Work.run_bind_of_ok (Work.run_holds h) _

/-- Settings that are loaded are accepted ones, and loading them changes nothing. -/
theorem ends_load {named : Option Path} {s : Session}
    (h : s.store.Readable (named.getD defaultFile)) :
    (load Float named defaultFile).Ends s (fun settings s' => s' = s ∧ settings.Accepted)
      (fun e => e.isBadValue = true ∨ e.isMissingFile = true ∨
        Unreadable s.store (named.getD defaultFile) e) := by
  rcases h with hmissing | ⟨bytes, hbytes⟩
  · cases named with
    | none => exact Work.ends_of_ok (load_missing hmissing) ⟨rfl, accepted_default⟩
    | some p =>
        refine Work.ends_after (Work.run_holds hmissing) ?_
        exact Work.ends_throw (.inr (.inl rfl))
  · have hpieces : s.store.pieces (named.getD defaultFile) = .ok (.ofBytes bytes) := by
      rw [Store.pieces, hbytes]
      rfl
    refine Work.Ends.of_run ((load_run hbytes).trans (Work.run_ofExcept _ s).symm)
      (Work.ends_ofExcept ?_ ?_)
    · intro settings hsettings
      obtain ⟨v, -, hread⟩ := bind_eq_ok hsettings
      exact ⟨rfl, _, mapError_eq_ok hread⟩
    · intro e he
      obtain hyaml | ⟨v, hv, hdocument⟩ := bind_eq_error he
      · exact .inr (.inr (.document hpieces hyaml))
      obtain ⟨e', hread, rfl⟩ := mapError_eq_error hdocument
      obtain ⟨complaints, rfl⟩ | rfl := read_error hread
      · exact .inl rfl
      · exact .inr (.inr (.product hpieces hv hread))

end Settings

/-! ## Records and pairs -/

namespace Json

/-- A file of records is refused for a bad value, or for its depth. -/
theorem line_error {path : String} {number : Nat} {cs : List Char} {e : Fault}
    (h : line path number cs = .error e) : e.isBadValue = true ∨ e = .nestedTooDeep := by
  unfold line at h
  cases hread : read cs with
  | ok v =>
      rw [hread] at h
      exact nomatch h
  | error refusal =>
      rw [hread] at h
      obtain rfl := Except.error.inj h
      cases refusal with
      | «at» => exact .inl rfl
      | tooManyDigits => exact .inl rfl
      | tooDeep => exact .inr rfl

theorem linesFrom_error {path : String} {ls : List (List Char)} {number : Nat} {e : Fault}
    (h : linesFrom path number ls = .error e) : e.isBadValue = true ∨ e = .nestedTooDeep := by
  induction ls generalizing number with
  | nil => cases h
  | cons l ls ih =>
      rw [linesFrom] at h
      split_ifs at h
      · exact ih h
      · obtain hline | ⟨v, -, hrest⟩ := bind_eq_error h
        · exact line_error hline
        · obtain hrest | ⟨vs, -, h⟩ := bind_eq_error hrest
          · exact ih hrest
          · cases h

theorem records_error {path : String} {t : Text.Streamed} {e : Fault}
    (h : records path t = .error e) : e.isBadValue = true ∨ e = .nestedTooDeep := by
  obtain hlines | ⟨vs, -, h⟩ := bind_eq_error h
  · exact linesFrom_error hlines
  · split at h
    · exact nomatch h
    · obtain rfl := Except.error.inj h
      exact .inl rfl

end Json

/-- A line of a file is nested too deep. -/
def Json.TooDeep (store : Store) (p : Path) : Prop :=
  ∃ t, store.lines p = .ok t ∧ records p.text t = .error .nestedTooDeep

theorem Store.lines_of_bytes {s : Store} {p : Path} {bytes : List UInt8}
    (h : s.bytes p = .ok bytes) : s.lines p = .ok (Text.streamLines bytes) := by
  rw [lines, h]
  rfl

theorem Store.holds_of_lines {s : Store} {p : Path} {t : Text.Streamed} (h : s.lines p = .ok t) :
    s.holds p = .ok true := by
  obtain ⟨bytes, hbytes, -⟩ := map_eq_ok h
  exact holds_of_bytes hbytes

namespace Artefacts

variable {p folder : Path} {s : Session} {t : Text.Streamed}

/-- The records of a file are those of its lines. -/
theorem readRecords_lines (h : s.store.lines p = .ok t) :
    (readRecords p).run s = (Json.records p.text t, s) := by
  rw [readRecords, Work.run_look, h]
  rfl

theorem loadTrace_lines (h : s.store.lines (folder.child "trace.jsonl") = .ok t) :
    (loadTrace folder).run s = (Json.records (folder.child "trace.jsonl").text t, s) := by
  have hholds := Work.run_holds (Store.holds_of_lines h)
  rw [loadTrace, Work.run_bind_of_ok hholds]
  exact readRecords_lines h

/-- A file of records is read, and nothing else happens. -/
theorem ends_records {w : Work (List Value)} (h : s.store.lines p = .ok t)
    (hrun : w.run s = (Json.records p.text t, s)) :
    w.Ends s (fun vs s' => s' = s ∧ Json.records p.text t = .ok vs)
      (fun e => e.isBadValue = true ∨ e = .nestedTooDeep ∧ Json.TooDeep s.store p) := by
  refine Work.Ends.of_run (hrun.trans (Work.run_ofExcept _ s).symm) (Work.ends_ofExcept ?_ ?_)
  · exact fun vs hvs => ⟨rfl, hvs⟩
  · intro e he
    rcases Json.records_error he with hbad | rfl
    · exact .inl hbad
    · exact .inr ⟨rfl, t, h, he⟩

end Artefacts

namespace Batch

theorem readPairs_error {path : String} {vs : List Value} {place : Nat} {e : Fault}
    (h : readPairs path place vs = .error e) : e.isBadValue = true := by
  rw [readPairs_eq] at h
  obtain ⟨v, -, hv⟩ := exists_of_mapM_error h
  obtain ⟨complaints, -, rfl⟩ := readPair_eq_error.mp hv
  rfl

/-- Pairs are loaded from a file that can be read, and nothing else happens. -/
theorem ends_loadPairs {p : Path} {s : Session} {bytes : List UInt8}
    (hbytes : s.store.bytes p = .ok bytes) :
    (loadPairs p).Ends s (fun _ s' => s' = s)
      (fun e => e.isBadValue = true ∨ e = .nestedTooDeep ∧ Json.TooDeep s.store p) := by
  refine Work.ends_after (Work.run_holds (Store.holds_of_bytes hbytes)) ?_
  have hlines := Store.lines_of_bytes hbytes
  refine Work.Ends.bind (Artefacts.ends_records hlines (Artefacts.readRecords_lines hlines)) ?_
  rintro vs s' ⟨rfl, -⟩
  exact Work.ends_ofExcept (fun _ _ => rfl) fun e he => .inl (readPairs_error he)

end Batch

/-- A trace is loaded, or it is missing, and nothing else happens. -/
theorem Artefacts.ends_loadTrace {folder : Path} {s : Session}
    (h : s.store.Readable (folder.child "trace.jsonl")) :
    (loadTrace folder).Ends s
      (fun vs s' => s' = s ∧ ∃ t, s.store.lines (folder.child "trace.jsonl") = .ok t ∧
        Json.records (folder.child "trace.jsonl").text t = .ok vs)
      (fun e => e.isBadValue = true ∨ e.isMissingFile = true ∨
        e = .nestedTooDeep ∧ Json.TooDeep s.store (folder.child "trace.jsonl")) := by
  rcases h with hmissing | ⟨bytes, hbytes⟩
  · refine Work.ends_after (Work.run_holds hmissing) ?_
    exact Work.ends_throw (.inr (.inl rfl))
  · have hlines := Store.lines_of_bytes hbytes
    refine (ends_records hlines (loadTrace_lines hlines)).mono ?_ ?_
    · rintro vs s' ⟨rfl, hvs⟩
      exact ⟨rfl, _, hlines, hvs⟩
    · rintro e (hbad | hdeep)
      · exact .inl hbad
      · exact .inr (.inr hdeep)

end Likeness
