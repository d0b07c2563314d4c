import Likeness.Proofs.Batch.Run
import Likeness.Proofs.Batch.Summary
import Likeness.Proofs.Json.Files

/-! # What a run leaves behind

    The trace of a run is read as the records that the run found; its summary is
    the summary of that trace; and a report holds both.  Nothing is assumed of the
    texts of the records: no line is cut, trimmed or dropped for any of them.

    The main result is `Artefacts.run_read_back`. -/

namespace Likeness

open Json (Atom Holds)

theorem Score.atom (s : Score Float) : Atom (.ofScore s) := by
  cases s with
  | whole n => exact .int n
  | real x => exact .real x

namespace Record

/-- The entries of a record as a value. -/
def entries (r : Record Float) : List (String × Value) := [
  ("pair_id", .text r.pairId), ("left", .text r.left), ("right", .text r.right),
  ("metric", .text r.metric), ("score", .ofScore r.score),
  ("exceeded", Value.ofOption .bool r.exceeded)]

theorem toValue_eq (r : Record Float) : r.toValue = .dict (Json.entriesOf r.entries) := rfl

theorem entries_atoms (r : Record Float) : ∀ e ∈ r.entries, Atom e.2 := by
  have hexceeded : Atom (Value.ofOption .bool r.exceeded) := by
    cases r.exceeded with
    | none => exact .null
    | some b => exact .bool b
  simp only [entries, List.forall_mem_cons, List.not_mem_nil, false_implies, implies_true, and_true]
  exact ⟨.text _, .text _, .text _, .text _, r.score.atom, hexceeded⟩

/-- A record that was written can be read. -/
theorem holds {r : Record Float} {cs : List Char}
    (hwrite : Json.write .inline r.toValue = .of cs) : Holds 1 r.toValue := by
  have hnames : (r.entries.map (·.1)).Nodup := by
    show ["pair_id", "left", "right", "metric", "score", "exceeded"].Nodup
    decide
  rw [toValue_eq] at hwrite ⊢
  exact .object hnames (Json.entries_hold r.entries_atoms hwrite)

end Record

namespace Summary

/-- What a summary of records reports has no parts. -/
theorem entries_atoms {records : List (Record Float)} {summary : Summary Float}
    (h : ofRecords (records.map Record.toValue) = .ok summary) :
    ∀ e ∈ summary.entries, Atom e.2 := by
  have hfound : ∀ v, IsScore (records.map Record.toValue) v → Atom v := by
    intro v hv
    obtain ⟨r, -, rfl⟩ := isScore_toValue hv
    exact r.score.atom
  obtain ⟨hleast, hgreatest, hmedian⟩ := ofRecords_found h
  simp only [entries, List.forall_mem_cons, List.not_mem_nil, false_implies, implies_true, and_true]
  refine ⟨.int _, .int _, ?_, ?_, ?_, ?_, ?_⟩
  · cases summary.mean with
    | none => exact .null
    | some s => exact s.atom
  · cases hmiddle : summary.median with
    | none => exact .null
    | some m =>
        cases m with
        | inl v => exact hfound v (hmedian v hmiddle)
        | inr s => exact s.atom
  · cases hfirst : summary.least with
    | none => exact .null
    | some v => exact hfound v (hleast v hfirst)
  · cases hlast : summary.greatest with
    | none => exact .null
    | some v => exact hfound v (hgreatest v hlast)
  · cases summary.exceededRate with
    | none => exact .null
    | some x => exact .real x

end Summary

namespace Artefacts

/-! ## Writing the files of a run -/

/-- The files of a run, each put into the store that the one before left. -/
structure Persisted (records : List (Record Float)) (folder : Path) (metric : String)
    (s s' : Session) : Prop where
  trace : ∃ cs, traceDraft records = .of cs ∧
    s'.store.bytes (folder.child "trace.jsonl") = .ok (Text.Utf8.encode cs)
  summary : ∃ summary cs, Summary.ofRecords (records.map Record.toValue) = .ok summary ∧
    documentDraft layout (summaryValue summary s.now metric) = .of cs ∧
    s'.store.bytes (folder.child "summary.json") = .ok (Text.Utf8.encode cs)

/-- **THE FILES OF A RUN ARE ALL THERE** when it has succeeded. -/
theorem persist_eq_ok {records : List (Record Float)} {folder : Path} {metric : String}
    {s s' : Session} (h : (persist records folder metric).run s = (.ok (), s')) :
    Persisted records folder metric s s' := by
  obtain ⟨_, s₁, hfolder, h⟩ := Work.run_bind_eq_ok h
  obtain ⟨-, hnow₁⟩ := Work.run_makeFolder_eq_ok hfolder
  obtain ⟨_, s₂, htrace, h⟩ := Work.run_bind_eq_ok h
  obtain ⟨htraceDraft, htrace, hnow₂⟩ := Work.run_writeDraft_eq_ok htrace
  obtain ⟨_, s₃, htable, h⟩ := Work.run_bind_eq_ok h
  obtain ⟨-, htable, hnow₃⟩ := Work.run_writeDraft_eq_ok htable
  obtain ⟨summary, s₄, hsummary, h⟩ := Work.run_bind_eq_ok h
  obtain ⟨hsummary, hsame⟩ := Work.run_ofExcept_eq_ok hsummary
  rw [hsame, Work.run_bind_of_ok (Work.run_get s₃)] at h
  obtain ⟨_, s₅, hwrite, h⟩ := Work.run_bind_eq_ok h
  obtain ⟨hsummaryDraft, hwrite, -⟩ := Work.run_writeDraft_eq_ok hwrite
  have hstore : s'.store = s₅.store := (congrArg (fun r => r.2.store) h).symm
  have hnow : s₃.now = s.now := hnow₃.trans (hnow₂.trans hnow₁)
  rw [hnow] at hsummaryDraft hwrite
  refine ⟨⟨_, htraceDraft, ?_⟩, ⟨summary, _, hsummary, hsummaryDraft, ?_⟩⟩
  all_goals rw [hstore]
  swap
  · exact Store.bytes_of_place hwrite
  -- The table and the summary are written beside the trace.
  have hbeside : s₃.store.bytes (folder.child "trace.jsonl") = _ :=
    Store.bytes_beside (by decide) (by decide) (by decide) (Store.bytes_of_place htrace) htable
  exact Store.bytes_beside (by decide) (by decide) (by decide) hbeside hwrite

/-! ## Reading them again -/

/-- A trace that is there is read by its lines. -/
theorem loadTrace_run {vs : List Value} (h : ∀ v ∈ vs, Holds Json.depthLimit v) {folder : Path}
    {s : Session} (hbytes : s.store.bytes (folder.child "trace.jsonl")
      = .ok (Text.Utf8.encode (linesDraft vs).chars)) :
    (loadTrace folder).run s = (.ok vs, s) := by
  have hholds : (Work.holds (folder.child "trace.jsonl")).run s = (.ok true, s) := by
    rw [Work.holds, Work.run_look, Store.holds_of_bytes hbytes]
  rw [loadTrace, Work.run_bind_of_ok hholds]
  exact readRecords_run h hbytes

/-- A summary that was written can be read, also without its time and the name of its metric. -/
theorem summary_holds {records : List (Record Float)} {summary : Summary Float}
    (hsummary : Summary.ofRecords (records.map Record.toValue) = .ok summary)
    {now : Instant} {metric : String} {cs : List Char}
    (hdraft : documentDraft layout (summaryValue summary now metric) = .of cs) :
    Holds 1 (summaryValue summary now metric) ∧ Holds 1 (mapping summary.entries) := by
  obtain ⟨_, hwrite⟩ := documentDraft_eq_of hdraft
  let named := [("generated_at", Value.text now.iso), ("metric", Value.text metric)]
  have hatoms : ∀ e ∈ summary.entries ++ named, Atom e.2 := by
    rw [List.forall_mem_append, List.forall_mem_cons, List.forall_mem_singleton]
    exact ⟨summary.entries_atoms hsummary, .text _, .text _⟩
  have hentries : ∀ e ∈ summary.entries ++ named, Holds 0 e.2 := Json.entries_hold hatoms hwrite
  have hnames : ((summary.entries ++ named).map (·.1)).Nodup := by
    show ["num_pairs", "num_scored", "mean_score", "median_score", "min_score", "max_score",
      "exceeded_rate", "generated_at", "metric"].Nodup
    decide
  refine ⟨.object hnames hentries,
    .object ?_ fun e he => hentries e (List.mem_append_left named he)⟩
  rw [List.map_append] at hnames
  exact (List.nodup_append.mp hnames).1

/-- A report on records that were read, put where its path leads. -/
theorem writeReport_run {records : List Value} {summary : Summary Float} {folder : Path}
    {destination : Option Path} {s : Session}
    (hload : (loadTrace folder).run s = (.ok records, s))
    (hsummary : Summary.ofRecords records = .ok summary)
    (hholds : Holds Json.depthLimit
      (mapping [("summary", mapping summary.entries), ("records", .list records)]))
    (hadmits : s.store.Admits (destination.getD (folder.child "report.json"))) :
    ∃ s', (writeReport folder destination).run s
        = (.ok (destination.getD (folder.child "report.json")), s') ∧
      documentAt s'.store (destination.getD (folder.child "report.json"))
        = .ok (mapping [("summary", mapping summary.entries), ("records", .list records)]) := by
  obtain ⟨cs, hdraft, -, -⟩ := documentDraft_written hholds
  obtain ⟨store, hstore⟩ := hadmits.place (Text.Utf8.encode cs)
  refine ⟨{ s with store := store }, ?_, ?_⟩
  · rw [writeReport, Work.run_bind_of_ok hload, Work.run_bind_of_ok
      (show (Work.ofExcept (Summary.ofRecords records)).run s = (.ok summary, s) by
        rw [Work.run_ofExcept, hsummary])]
    dsimp only
    rw [hdraft, Work.run_bind_of_ok (Work.run_writeDraft hstore)]
    rfl
  · refine documentAt_eq hholds ?_
    rw [hdraft]
    exact Store.bytes_of_place hstore

/-- A file of values is written where its path leads, and is read as their list. -/
theorem values_read_back {vs : List Value} (h : ∀ v ∈ vs, Holds Json.depthLimit v) {p : Path}
    {s : Session} (hadmits : s.store.Admits p) :
    ∃ s', (Work.writeDraft p (linesDraft vs)).run s = (.ok (), s') ∧
      (readRecords p).run s' = (.ok vs, s') := by
  obtain ⟨ls, hlines, -, -⟩ := linesFrom_written h
  obtain ⟨store, hstore⟩ := hadmits.place (Text.Utf8.encode (linesDraft vs).chars)
  refine ⟨{ s with store := store }, ?_, readRecords_run h (Store.bytes_of_place hstore)⟩
  rw [hlines] at hstore ⊢
  exact Work.run_writeDraft hstore

/-- Records that were written can be read. -/
theorem Persisted.records_hold {records : List (Record Float)} {folder : Path} {metric : String}
    {s s' : Session} (h : Persisted records folder metric s s') :
    ∀ v ∈ records.map Record.toValue, Holds 1 v := by
  obtain ⟨cs, htrace, -⟩ := h.trace
  intro v hv
  obtain ⟨_, hwrite⟩ := linesDraft_eq_of htrace v hv
  obtain ⟨record, -, rfl⟩ := List.mem_map.mp hv
  exact Record.holds hwrite

/-- The trace of a run is read as its records. -/
theorem Persisted.loadTrace_run {records : List (Record Float)} {folder : Path} {metric : String}
    {s s' : Session} (h : Persisted records folder metric s s') :
    (loadTrace folder).run s' = (.ok (records.map Record.toValue), s') := by
  obtain ⟨cs, htrace, hbytes⟩ := h.trace
  refine Artefacts.loadTrace_run (fun v hv => (h.records_hold v hv).mono (by decide)) ?_
  rw [show linesDraft _ = _ from htrace]
  exact hbytes

/-- A report on records that JSON holds can be read. -/
theorem report_holds {records : List Value} (hrecords : ∀ v ∈ records, Holds 1 v)
    {entries : List (String × Value)} (hentries : Holds 1 (mapping entries)) :
    Holds 3 (mapping [("summary", mapping entries), ("records", .list records)]) := by
  have hnames : ["summary", "records"].Nodup := by decide
  refine .object hnames ?_
  rw [List.forall_mem_cons, List.forall_mem_singleton]
  exact ⟨hentries.mono (by decide), .list hrecords⟩

/-- **WHAT A RUN LEAVES IS READ AS IT WAS WRITTEN**.  A file of values, put where its path
    leads, is read as the list of these values.  After a run the trace is read as the list of
    the records that the run found; the summary that lies beside it is that of the trace, with
    its time and the name of its metric; and a report on it holds both. -/
theorem run_read_back :
    (∀ (vs : List Value) (p : Path) (s : Session), (∀ v ∈ vs, Holds Json.depthLimit v) →
      s.store.Admits p →
      ∃ s', (Work.writeDraft p (linesDraft vs)).run s = (.ok (), s') ∧
        (readRecords p).run s' = (.ok vs, s')) ∧
    ∀ (r : Runner Float) (pairs : List Pair) (folder : Path) (s s' : Session)
      (records : List (Record Float)),
      (Batch.runPairs r pairs (some folder)).run s = (.ok records, s') →
      (loadTrace folder).run s' = (.ok (records.map Record.toValue), s') ∧
      ∃ summary, Summary.ofRecords (records.map Record.toValue) = .ok summary ∧
        documentAt s'.store (folder.child "summary.json")
          = .ok (mapping (summary.entries
              ++ [("generated_at", .text s.now.iso), ("metric", .text r.name)])) ∧
        ∀ destination : Option Path,
          s'.store.Admits (destination.getD (folder.child "report.json")) →
          ∃ s'', (writeReport folder destination).run s'
              = (.ok (destination.getD (folder.child "report.json")), s'') ∧
            documentAt s''.store (destination.getD (folder.child "report.json"))
              = .ok (mapping [("summary", mapping summary.entries),
                  ("records", .list (records.map Record.toValue))]) := by
  refine ⟨fun vs p s hvs hadmits => values_read_back hvs hadmits, ?_⟩
  intro r pairs folder s s' records hrun
  obtain ⟨-, journal, hpersist⟩ := Batch.runPairs_eq_ok hrun
  -- Whatever the run found was written to its end, so JSON holds it; see `Persisted`.
  have hpersisted := persist_eq_ok hpersist
  obtain ⟨summary, cs, hsummary, hdraft, hbytes⟩ := hpersisted.summary
  obtain ⟨hholds, hplain⟩ := summary_holds hsummary hdraft
  have hreport := report_holds hpersisted.records_hold hplain
  refine ⟨hpersisted.loadTrace_run, summary, hsummary, ?_, fun destination hadmits =>
    writeReport_run hpersisted.loadTrace_run hsummary (hreport.mono (by decide)) hadmits⟩
  refine documentAt_eq (hholds.mono (by decide)) ?_
  rw [hbytes, hdraft]
  rfl

/-- Values on lines of their own, and a run over two pairs of which one holds a line break, a
    separator of lines and blanks at its ends. -/
theorem run_read_back_two :
    let s : Session := ⟨Store.empty, Journal.silent, [], ⟨2024, 5, 6, 7, 8, 9, 0⟩⟩
    let vs : List Value := [.text " a\r\n\u2028", .list [.real 0.1, .null]]
    let pairs : List Pair := [⟨some "p1", "line\r\nbreak", " \u2028 "⟩, ⟨none, "kitten", "sitting"⟩]
    let folder : Path := ⟨"", ["out"]⟩
    (∃ s', (Work.writeDraft (folder.child "values.jsonl") (linesDraft vs)).run s = (.ok (), s') ∧
      (readRecords (folder.child "values.jsonl")).run s' = (.ok vs, s')) ∧
    ∃ (r : Runner Float) (records : List (Record Float)) (s' s'' : Session),
      Runner.make Registry.builtin "levenshtein" false {} = .ok r ∧
      (Batch.runPairs r pairs (some folder)).run s = (.ok records, s') ∧ records.length = 2 ∧
      (loadTrace folder).run s' = (.ok (records.map Record.toValue), s') ∧
      (writeReport folder none).run s' = (.ok (folder.child "report.json"), s'') := by
  intro s vs pairs folder
  constructor
  · refine run_read_back.1 vs (folder.child "values.jsonl") s ?_ ⟨[], _, rfl⟩
    have hlist : Holds 1 (.list [.real 0.1, .null]) := by
      refine .list ?_
      rw [List.forall_mem_cons, List.forall_mem_singleton]
      exact ⟨.real _, .null⟩
    rw [List.forall_mem_cons, List.forall_mem_singleton]
    exact ⟨.text _, hlist.mono (by decide)⟩
  · obtain ⟨r, hmake, hrun⟩ : ∃ r : Runner Float,
        Runner.make Registry.builtin "levenshtein" false {} = .ok r ∧
        (match (Batch.runPairs r pairs (some folder)).run s with
          | (.ok records, s') => records.length == 2 &&
            (s'.store.place (folder.child "report.json") []).toBool
          | (.error _, _) => false) = true := by
      refine ⟨_, rfl, ?_⟩
      decide +kernel
    rcases hresult : (Batch.runPairs r pairs (some folder)).run s with ⟨result, s'⟩
    rw [hresult] at hrun
    cases result with
    | error e => exact nomatch hrun
    | ok records =>
        obtain ⟨hlength, hplace⟩ := Bool.and_eq_true _ _ ▸ hrun
        obtain ⟨hload, summary, -, -, hreport⟩ :=
          run_read_back.2 r pairs folder s s' records hresult
        have hadmits : s'.store.Admits (folder.child "report.json") := by
          cases hstore : s'.store.place (folder.child "report.json") [] with
          | error e =>
              rw [hstore] at hplace
              exact nomatch hplace
          | ok store => exact ⟨[], store, hstore⟩
        obtain ⟨s'', hwrite, -⟩ := hreport none hadmits
        exact ⟨r, records, s', s'', hmake, hresult, beq_iff_eq.mp hlength, hload, hwrite⟩

end Artefacts

end Likeness
