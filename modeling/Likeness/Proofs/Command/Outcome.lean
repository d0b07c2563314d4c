import Likeness.Proofs.Batch.Writing
import Likeness.Proofs.Command.Printing
import Likeness.Proofs.Command.Reading

/-! # How a run of the program ends

    A command explains a bad value and a missing file in a line, and the run ends as
    refused.  All other faults break it off.  Whatever stands in the files that are
    read, scoring finds a score and a run finds its summary, so few faults are left
    over: `Program.Unexplained` lists them, each with what brings it about, and
    `Program.run_explained` is the main result: nothing else breaks a run off.  Of a
    report the list is exact (`Program.report_broken_iff`).

    One of them is the level from which messages are reported: it is looked up
    behind the settings and before the command, where nobody explains anything
    (`Program.unknown_level_escapes`). -/

namespace Likeness

open Terminal.Markup (render)

/-! ## What a run may be asked -/

/-- A folder into which the files of a run can be put. -/
def Store.Writable (s : Store) (folder : Path) : Prop :=
  ∀ name ∈ Artefacts.fileNames, s.Admits (folder.child name)

theorem Store.writable_of_place {s : Store} {folder : Path}
    (h : ∀ name ∈ Artefacts.fileNames, (s.place (folder.child name) []).toBool = true) :
    s.Writable folder := by
  intro name hname
  have hplace := h name hname
  cases hstore : s.place (folder.child name) [] with
  | ok store => exact ⟨[], store, hstore⟩
  | error e =>
      rw [hstore] at hplace
      cases hplace

/-- What a request needs of a session: the files that it reads can be read or are missing, the
    files that it writes can be put where they belong, and no text is too long to be counted. -/
def Request.Supported (s : Session) : Request → Prop
  | .distance left right _ _ => Short left ∧ Short right
  | .batch pairs _ _ _ folder =>
      s.store.Readable pairs ∧
      (∀ qs, (Batch.loadPairs pairs).run s = (.ok qs, s) → ∀ q ∈ qs, Short q.left ∧ Short q.right) ∧
      ∀ name ∈ (Registry.builtin (K := Float)).sortedNames,
        s.store.Writable (folder.getD (Program.defaultFolder s.now name))
  | .report folder =>
      (∃ found, s.store.holds folder = .ok found) ∧ s.store.Readable (folder.child "trace.jsonl")
  | .matrix items _ => ∀ i ∈ items, Short i
  | .metrics | .help => True

/-- The file of records that a request reads. -/
def Request.recordsFile? : Request → Option Path
  | .batch pairs _ _ _ _ => some pairs
  | .report folder => some (folder.child "trace.jsonl")
  | _ => none

namespace Program

/-- A run ends well, or it has said in its last line why it does not. -/
def Explained (ending : Ending) (s : Session) : Prop :=
  ending.exitCode = 0 ∨ ending.exitCode = 1 ∧ ∃ message text,
    render (Shown.complaint message) = .ok text ∧ s.screen.getLast? = some (.line text)

/-- The faults that break a command off, each with what brings it about. -/
inductive Unanswered (store : Store) (request : Request) : Fault → Prop where
  | nested {path : Path} (hpath : request.recordsFile? = some path)
      (h : Json.TooDeep store path) : Unanswered store request .nestedTooDeep
  /-- The records of a trace are no mappings, their scores no numbers, or their numbers beyond
      the range of a double. -/
  | summary {folder : Path} {t : Text.Streamed} {records : List Value} {e : Fault}
      (hrequest : request = .report folder)
      (hlines : store.lines (folder.child "trace.jsonl") = .ok t)
      (hrecords : Json.records (folder.child "trace.jsonl").text t = .ok records)
      (h : Summary.ofRecords (K := Float) records = .error e)
      (hvalue : e.isBadValue = false) (hfile : e.isMissingFile = false) :
      Unanswered store request e
  /-- The name of the folder that is given has brackets that are no tags. -/
  | folder {pairs folder : Path} {metric : Option String} {threshold limit : Option Int} {e : Fault}
      (hrequest : request = .batch pairs metric threshold limit (some folder))
      (h : render (Shown.artefacts folder) = .error e) : Unanswered store request e

/-- The faults that break a run off. -/
inductive Unexplained (s : Session) (p : Preamble) (request : Request) : Fault → Prop where
  /-- The settings are no YAML, or their prefix limit is beyond the range of a double. -/
  | settings {e : Fault} (h : Settings.Unreadable s.store (p.settings.getD Settings.defaultFile) e)
      (hvalue : e.isBadValue = false) (hfile : e.isMissingFile = false) :
      Unexplained s p request e
  /-- No level has the name that is given, or else the one that the settings give. -/
  | level {settings : Settings} {name : String}
      (hsettings : (Settings.load Float p.settings Settings.defaultFile).run s = (.ok settings, s))
      (hname : name = String.ofList (Text.capitalise (levelName settings p.logLevel).toList))
      (h : Level.ofName? name = none) : Unexplained s p request (.unknownLevel name)
  | command {e : Fault} (h : Unanswered s.store request e) : Unexplained s p request e

/-! ## Explaining -/

section Explaining

variable {α : Type} {causes : Fault → Bool} {w : Work α} {next : α → Work Ending} {s : Session}
  {broken : Fault → Prop}

theorem run_explaining_ok {s' : Session} {a : α} (h : w.run s = (.ok a, s')) :
    (explaining causes w next).run s = (next a).run s' := by
  unfold explaining
  rw [Work.run_bind, Work.run_tryCatch, Work.run_map, h]
  rfl

theorem run_explaining_error {s' : Session} {e : Fault} (h : w.run s = (.error e, s')) :
    (explaining causes w next).run s
      = if causes e then (refuse e.message).run s' else (.error e, s') := by
  unfold explaining
  rw [Work.run_bind, Work.run_tryCatch, Work.run_map, h]
  cases hcause : causes e with
  | true => simp [Except.map, hcause]
  | false => simp [Except.map, hcause]

/-- A refusal is explained. -/
theorem ends_refuse (message : String) : (refuse message).Ends s Explained broken := by
  refine Work.Ends.bind (P := fun _ s' => ∃ text, render (Shown.complaint message) = .ok text ∧
    s'.screen.getLast? = some (.line text)) (Work.ends_printLine ?_ ?_) ?_
  · intro text htext
    exact ⟨text, htext, by simp⟩
  · intro e he
    obtain ⟨text, htext⟩ := Shown.render_complaint message
    exact nomatch he.symm.trans htext
  · rintro - s' ⟨text, htext, hlast⟩
    exact Work.ends_pure (.inr ⟨rfl, message, text, htext, hlast⟩)

/-- **WHAT IS LEFT UNEXPLAINED** of some work and of what goes on from it. -/
theorem ends_explaining {P : α → Session → Prop} {B : Fault → Prop}
    (hw : w.Ends s P B) (hstopped : ∀ e, B e → causes e = false → broken e)
    (hnext : ∀ a s', P a s' → (next a).Ends s' Explained broken) :
    (explaining causes w next).Ends s Explained broken := by
  rcases hw.cases with ⟨a, s', hrun, ha⟩ | ⟨e, s', hrun, he⟩
  · exact Work.Ends.of_run (run_explaining_ok hrun) (hnext a s' ha)
  · have hexplaining : (explaining causes w next).run s = _ := run_explaining_error hrun
    cases hcause : causes e with
    | true =>
        rw [hcause, if_pos rfl] at hexplaining
        exact Work.Ends.of_run hexplaining (ends_refuse e.message)
    | false =>
        rw [hcause, if_neg Bool.false_ne_true] at hexplaining
        exact Work.ends_of_error hexplaining (hstopped e he hcause)

/-- A line is printed, and the run goes on or is done. -/
theorem ends_shown_line {markup : String} (h : ∃ text, render markup = .ok text)
    {rest : Work Ending} (hrest : ∀ s', rest.Ends s' Explained broken) :
    (Work.printLine markup >>= fun _ => rest).Ends s Explained broken := by
  obtain ⟨text, htext⟩ := h
  refine Work.Ends.bind (P := fun _ _ => True) (Work.ends_printLine (fun _ _ => trivial) ?_) ?_
  · intro e he
    exact nomatch he.symm.trans htext
  · rintro - s' -
    exact hrest s'

/-- So is a table. -/
theorem ends_shown_grid {g : Terminal.Grid} (h : Shown.Renders g) {rest : Work Ending}
    (hrest : ∀ s', rest.Ends s' Explained broken) :
    (Work.printGrid g >>= fun _ => rest).Ends s Explained broken := by
  refine Work.Ends.bind (P := fun _ _ => True)
    (Work.ends_printGrid h.title h.columns h.rows fun _ => trivial) ?_
  rintro - s' -
  exact hrest s'

theorem ends_done : (pure .done : Work Ending).Ends s Explained broken :=
  Work.ends_pure (.inl rfl)

end Explaining

/-! ## The commands -/

section Commands

variable {settings : Settings} {s : Session} {broken : Fault → Prop}

/-- A bad value is explained by every command. -/
theorem not_bad {e : Fault} (h : e.isBadValue = true) (hne : e.isBadValue = false) : broken e :=
  nomatch h.symm.trans hne

theorem ends_distance (hs : settings.Accepted) {left right : String} (hleft : Short left)
    (hright : Short right) (metric : Option String) (threshold : Option Int) :
    (distance settings left right metric threshold).Ends s Explained broken := by
  refine ends_explaining (P := fun _ _ => True) (B := fun e => e.isBadValue = true)
    (Work.ends_ofExcept (fun _ _ => trivial) ?_) (fun _ => not_bad) ?_
  · intro e he
    exact Scoring.ofTexts_fault hs hleft hright he
  · rintro score s' -
    exact ends_shown_line (Shown.render_distance _ score) fun _ => ends_done

theorem ends_metrics : metrics.Ends s Explained broken :=
  ends_shown_grid Shown.metrics_renders fun _ => ends_done

theorem ends_matrix (hs : settings.Accepted) {items : List String} (hitems : ∀ i ∈ items, Short i)
    (metric : Option String) : (matrix settings items metric).Ends s Explained broken := by
  refine ends_explaining (B := fun e => e.isBadValue = true)
    (P := fun _ _ => Terminal.Markup.IsPlain
      (Scoring.chosen settings metric settings.threshold?).toList)
    (Work.ends_ofExcept ?_ ?_) (fun _ => not_bad) ?_
  · intro scores hscores
    obtain ⟨m, hm, -⟩ := bind_eq_ok hscores
    exact Scoring.isPlain_chosen hm
  · intro e he
    exact Scoring.ofItems_fault hs hitems he
  · intro scores s' hname
    exact ends_shown_grid (Shown.matrix_renders hname items scores) fun _ => ends_done

/-- A run is scored and written, or a bad value or the depth of a record prevents it. -/
theorem ends_runFile (hs : settings.Accepted) {r : Runner Float} {asked : Option String}
    {bound : Option Int} (hr : Scoring.runner Registry.builtin settings asked bound = .ok r)
    {pairs folder : Path} {bytes : List UInt8} (hbytes : s.store.bytes pairs = .ok bytes)
    (hshort : ∀ qs, (Batch.loadPairs pairs).run s = (.ok qs, s) →
      ∀ q ∈ qs, Short q.left ∧ Short q.right)
    (hfolder : s.store.Writable folder) (limit : Option Int) :
    (Batch.runFile r pairs limit (some folder)).Ends s (fun _ _ => True)
      (fun e => e.isBadValue = true ∨ e = .nestedTooDeep ∧ Json.TooDeep s.store pairs) := by
  rcases (Batch.ends_loadPairs hbytes).cases with ⟨qs, s', hrun, rfl⟩ | ⟨e, s', hrun, he⟩
  · refine Work.ends_after hrun ?_
    refine Work.ends_after (Work.run_report _ _ _) ?_
    have hselected : ∀ q ∈ Ranking.upTo limit qs, Short q.left ∧ Short q.right := by
      intro q hq
      refine hshort qs hrun q ?_
      cases limit with
      | none => exact hq
      | some n => exact List.mem_of_mem_take hq
    obtain ⟨records, hrecords, hmoderate⟩ := Scoring.runner_records hs hr hselected 1
    obtain ⟨journal, hscore⟩ := Batch.scoreFrom_run r (Ranking.upTo limit qs) 1 _
    rw [hrecords] at hscore
    refine Work.ends_after hscore ?_
    refine Work.ends_after (Work.run_report _ _ _) ?_
    refine Work.Ends.bind ((Artefacts.ends_persist hmoderate ?_ r.name).weaken ?_) ?_
    · exact hfolder
    · exact fun e he => .inl he
    · exact fun _ _ _ => Work.ends_pure trivial
  · exact Work.ends_of_error (Work.run_bind_of_error hrun _) he

theorem ends_batch (hs : settings.Accepted) {pairs : Path} {metric : Option String}
    {threshold limit : Option Int} {folder : Option Path}
    (h : (Request.batch pairs metric threshold limit folder).Supported s) :
    (batch settings pairs metric threshold limit folder).Ends s Explained
      (Unanswered s.store (.batch pairs metric threshold limit folder)) := by
  obtain ⟨hpairs, hshort, hfolder⟩ := h
  rcases hpairs with hmissing | ⟨bytes, hbytes⟩
  · exact Work.ends_after (Work.run_holds hmissing) (ends_refuse _)
  refine Work.ends_after (Work.run_holds (Store.holds_of_bytes hbytes)) ?_
  refine ends_explaining
    (P := fun result _ => ∀ e, render (Shown.artefacts result.2) = .error e →
      Unanswered s.store (.batch pairs metric threshold limit folder) e)
    (B := fun e => e.isBadValue = true ∨ e = .nestedTooDeep ∧ Json.TooDeep s.store pairs)
    ?_ ?_ ?_
  · refine Work.Ends.bind
      (P := fun r s' => s' = s ∧
        Scoring.runner Registry.builtin settings metric threshold = .ok r)
      (Work.ends_ofExcept (fun r hr => ⟨rfl, hr⟩) fun e he => .inl (Scoring.runner_fault he)) ?_
    rintro r s' ⟨rfl, hr⟩
    refine Work.ends_after (Work.run_get _) ?_
    refine Work.Ends.bind (P := fun _ _ => True)
      (ends_runFile hs hr hbytes hshort (hfolder r.name (Scoring.runner_name hr)) _) ?_
    rintro records s'' -
    refine Work.ends_pure ?_
    intro e he
    -- The folder that a run makes for itself can be named; so the fault is that of the one given.
    cases folder with
    | none =>
        obtain ⟨text, htext⟩ := Shown.render_defaultFolder s'.now (Scoring.isPlain_runner hr)
        exact nomatch he.symm.trans htext
    | some folder => exact .folder rfl he
  · rintro e (hbad | ⟨rfl, hdeep⟩) hcause
    · exact not_bad hbad hcause
    · exact .nested rfl hdeep
  · rintro ⟨records, folder⟩ s' hmarkup
    refine ends_shown_grid (Shown.records_renders records) ?_
    intro s''
    refine Work.Ends.bind (P := fun _ _ => True)
      (Work.ends_printLine (fun _ _ => trivial) hmarkup) ?_
    exact fun _ _ _ => ends_done

theorem ends_report {folder : Path} (h : (Request.report folder).Supported s) :
    (report folder).Ends s Explained (Unanswered s.store (.report folder)) := by
  obtain ⟨⟨found, hfound⟩, htrace⟩ := h
  refine Work.ends_after (Work.run_holds hfound) ?_
  cases found with
  | false => exact ends_refuse _
  | true =>
      refine ends_explaining
        (P := fun summary _ => ∃ records, Summary.ofRecords records = .ok summary)
        (B := fun e => e.isBadValue = false → e.isMissingFile = false →
          Unanswered s.store (.report folder) e) ?_ ?_ ?_
      · refine Work.Ends.bind ((Artefacts.ends_loadTrace htrace).weaken ?_) ?_
        · rintro e (hbad | hmissing | ⟨rfl, hdeep⟩) hvalue hfile
          · exact not_bad hbad hvalue
          · exact nomatch hmissing.symm.trans hfile
          · exact .nested rfl hdeep
        · rintro records s' ⟨rfl, t, hlines, hrecords⟩
          refine Work.ends_ofExcept ?_ ?_
          · exact fun summary hsummary => ⟨records, hsummary⟩
          · exact fun e he => .summary rfl hlines hrecords he
      · intro e he hcause
        obtain ⟨hvalue, hfile⟩ := Bool.or_eq_false_iff.mp hcause
        exact he hvalue hfile
      · rintro summary s' ⟨records, hsummary⟩
        exact ends_shown_grid (Shown.summary_renders hsummary) fun _ => ends_done

/-- **NO FAULT OF A REPORT IS LISTED IN VAIN**: those that are left unexplained are just those
    that break it off. -/
theorem report_broken_iff {folder : Path} {e : Fault} (hfolder : s.store.holds folder = .ok true)
    (htrace : s.store.Readable (folder.child "trace.jsonl")) :
    (∃ s', (report folder).run s = (.error e, s')) ↔ Unanswered s.store (.report folder) e := by
  constructor
  · rintro ⟨s', hrun⟩
    rcases (ends_report ⟨⟨true, hfolder⟩, htrace⟩).cases with
      ⟨a, s'', hdone, -⟩ | ⟨e', s'', hbroken, he⟩
    · cases (congrArg Prod.fst hrun).symm.trans (congrArg Prod.fst hdone)
    · rwa [Except.error.inj ((congrArg Prod.fst hrun).symm.trans (congrArg Prod.fst hbroken))]
  · intro he
    have hwork : (do
          let records ← Artefacts.loadTrace folder
          Work.ofExcept (Summary.ofRecords (K := Float) records)).run s = (.error e, s) ∧
        (e.isBadValue || e.isMissingFile) = false := by
      cases he with
      | nested hpath hdeep =>
          obtain rfl := Option.some.inj hpath
          obtain ⟨t, hlines, hrecords⟩ := hdeep
          refine ⟨Work.run_bind_of_error ?_ _, rfl⟩
          rw [Artefacts.loadTrace_lines hlines, hrecords]
      | summary hrequest hlines hrecords h hvalue hfile =>
          cases hrequest
          have hload := Artefacts.loadTrace_lines hlines
          rw [hrecords] at hload
          rw [hvalue, hfile, Work.run_bind_of_ok hload, Work.run_ofExcept, h]
          exact ⟨rfl, rfl⟩
      | folder hrequest => cases hrequest
    refine ⟨s, ?_⟩
    rw [report, Work.run_bind_of_ok (Work.run_holds hfolder)]
    refine (run_explaining_error hwork.1).trans ?_
    rw [hwork.2]
    rfl

/-- **WHATEVER IS ASKED** under accepted settings. -/
theorem ends_answer (hs : settings.Accepted) {request : Request} (h : request.Supported s) :
    (answer settings request).Ends s Explained (Unanswered s.store request) := by
  cases request with
  | distance left right metric threshold => exact ends_distance hs h.1 h.2 metric threshold
  | metrics => exact ends_metrics
  | batch pairs metric threshold limit folder => exact ends_batch hs h
  | report folder => exact ends_report h
  | matrix items metric => exact ends_matrix hs h metric
  | help => exact Work.ends_pure (.inl rfl)

end Commands

end Program

/-! ## The whole run -/

/-- What a request needs does not depend on what was reported. -/
theorem Request.Supported.of_journal {s : Session} {request : Request} (h : request.Supported s)
    (journal : Journal) : request.Supported { s with journal := journal } := by
  cases request with
  | batch pairs metric threshold limit folder =>
      obtain ⟨hpairs, hshort, hfolder⟩ := h
      refine ⟨hpairs, ?_, hfolder⟩
      intro qs hrun
      refine hshort qs ?_
      rw [Batch.loadPairs_run] at hrun ⊢
      have hloaded := congrArg Prod.fst hrun
      exact Prod.ext hloaded rfl
  | _ => exact h

/-- A name of a level is known, or the work that asks for it is broken off. -/
theorem Work.ends_reportFrom (name : String) (s : Session) :
    (reportFrom name).Ends s (fun _ s' => ∃ journal, s' = { s with journal := journal })
      (fun e => ∃ capital, capital = String.ofList (Text.capitalise name.toList) ∧
        Level.ofName? capital = none ∧ e = .unknownLevel capital) := by
  refine ends_after (run_modify _ s) ?_
  cases hlevel : Level.ofName? (String.ofList (Text.capitalise name.toList)) with
  | none => exact ends_throw ⟨_, rfl, hlevel, rfl⟩
  | some level => exact ends_pure ⟨_, rfl⟩

namespace Program

/-- Arguments that can be read are those of a command. -/
theorem run_eq_command {args : List String} {p : Preamble} (hp : Preamble.read args = .ok (some p))
    (s : Session) : (run args).run s = (command p).run s := by
  have hpreamble : (Work.ofExcept ((Preamble.read args).mapError .misused)).run s
      = (.ok (some p), s) := by
    rw [hp]
    rfl
  exact Work.run_bind_of_ok hpreamble _

/-- **NO OTHER FAULT BREAKS A RUN OFF**: when the arguments can be read and what is asked is
    supported, the run is done, or it was refused and has said why, or it was broken off by one
    of the faults that are listed as unexplained.  Nothing is assumed of the contents of the
    files that are read. -/
theorem run_explained {args : List String} {p : Preamble} {request : Request} {s : Session}
    (hp : Preamble.read args = .ok (some p))
    (hrequest : Request.read p.command p.rest = .ok request)
    (hsettings : s.store.Readable (p.settings.getD Settings.defaultFile))
    (h : request.Supported s) :
    (run args).Ends s Explained (Unexplained s p request) := by
  refine Work.Ends.of_run (run_eq_command hp s) ?_
  refine ends_explaining (Settings.ends_load hsettings).traced ?_ ?_
  · -- The settings are not loaded.
    rintro e (hbad | hmissing | hunreadable) hcause
    all_goals obtain ⟨hvalue, hfile⟩ := Bool.or_eq_false_iff.mp hcause
    · exact not_bad hbad hvalue
    · exact nomatch hmissing.symm.trans hfile
    · exact .settings hunreadable hvalue hfile
  · rintro settings s' ⟨hload, rfl, haccepted⟩
    refine Work.Ends.bind ((Work.ends_reportFrom (levelName settings p.logLevel) s').weaken ?_) ?_
    · rintro e ⟨name, hname, hlevel, rfl⟩
      exact .level hload hname hlevel
    · rintro - s'' ⟨journal, rfl⟩
      have hasked : (Work.ofExcept ((Request.read p.command p.rest).mapError .misused)).run
          { s' with journal := journal } = (.ok request, { s' with journal := journal }) := by
        rw [hrequest]
        rfl
      refine Work.ends_after hasked ?_
      exact (ends_answer haccepted (h.of_journal journal)).weaken fun e he => .command he

/-- A run over one pair that is given a folder: nothing that could be left unexplained is there,
    so it ends as it should. -/
theorem run_explained_batch :
    let pair := "\x7b\"left\": \"kitten\", \"right\": \"sitting\"\x7d\n"
    let s : Session := {
      store := ⟨[(["pairs.jsonl"], Text.Utf8.encode pair.toList)], []⟩
      journal := .silent, screen := [], now := ⟨2024, 5, 6, 7, 8, 9, 0⟩ }
    ∃ ending s', (run ["batch", "pairs.jsonl", "--run-path", "out"]).run s = (.ok ending, s') ∧
      Explained ending s' := by
  intro pair s
  have hp : Preamble.read ["batch", "pairs.jsonl", "--run-path", "out"]
      = .ok (some ⟨none, none, .batch, ["pairs.jsonl", "--run-path", "out"]⟩) := by decide +kernel
  have hrequest : Request.read .batch ["pairs.jsonl", "--run-path", "out"]
      = .ok (.batch ⟨"", ["pairs.jsonl"]⟩ none none none (some ⟨"", ["out"]⟩)) := by decide +kernel
  have hdefault : s.store.holds Settings.defaultFile = .ok false := by decide +kernel
  have hbytes : s.store.bytes ⟨"", ["pairs.jsonl"]⟩ = .ok (Text.Utf8.encode pair.toList) := by
    decide +kernel
  have hpairs : ((Json.records "pairs.jsonl" (Text.streamLines (Text.Utf8.encode pair.toList)) >>=
      Batch.readPairs "pairs.jsonl" 1).toOption.any fun qs =>
        qs.all fun q => Short q.left ∧ Short q.right) = true := by decide +kernel
  have hplaces : ∀ name ∈ Artefacts.fileNames,
      (s.store.place (Path.child ⟨"", ["out"]⟩ name) []).toBool = true := by decide +kernel
  have hsupported : Request.Supported s
      (.batch ⟨"", ["pairs.jsonl"]⟩ none none none (some ⟨"", ["out"]⟩)) := by
    refine ⟨.inr ⟨_, hbytes⟩, ?_, fun _ _ => Store.writable_of_place hplaces⟩
    intro qs hrun q hq
    rw [Batch.loadPairs_run] at hrun
    have hloaded : (Json.records "pairs.jsonl" (Text.streamLines (Text.Utf8.encode pair.toList))
        >>= Batch.readPairs "pairs.jsonl" 1) = .ok qs := congrArg Prod.fst hrun
    rw [hloaded] at hpairs
    exact of_decide_eq_true (List.all_eq_true.mp hpairs q hq)
  rcases (run_explained hp hrequest (.inl hdefault) hsupported).cases with
    ⟨ending, s', hrun, hexplained⟩ | ⟨e, s', -, he⟩
  · exact ⟨ending, s', hrun, hexplained⟩
  -- None of the faults that are left unexplained can be found here.
  exfalso
  cases he with
  | settings h =>
      cases h with
      | document hpieces => cases hdefault.symm.trans (Store.holds_of_pieces hpieces)
      | product hpieces => cases hdefault.symm.trans (Store.holds_of_pieces hpieces)
  | level hsettings hname h =>
      obtain rfl := Except.ok.inj (congrArg Prod.fst
        ((Settings.load_missing hdefault).symm.trans hsettings))
      subst hname
      exact absurd h (by decide +kernel)
  | command h =>
      cases h with
      | nested hpath hdeep =>
          obtain rfl := Option.some.inj hpath
          obtain ⟨t, hlines, hdeep⟩ := hdeep
          rw [Store.lines, hbytes] at hlines
          obtain rfl := Except.ok.inj hlines
          obtain ⟨qs, hqs, -⟩ := exists_ok_of_any hpairs
          obtain ⟨vs, hvs, -⟩ := bind_eq_ok hqs
          cases hvs.symm.trans hdeep
      | summary hrequest => cases hrequest
      | folder hrequest hmarkup =>
          cases hrequest
          have hplain : Terminal.Markup.IsPlain (Path.text ⟨"", ["out"]⟩).toList := by
            decide +kernel
          obtain ⟨text, htext⟩ := Shown.render_artefacts hplain
          cases hmarkup.symm.trans htext

/-! ## What is never explained -/

/-- **SETTINGS THAT CANNOT BE READ** break every run off, unless their fault is a bad value or
    a missing file. -/
theorem run_of_unread_settings {args : List String} {p : Preamble} {s : Session} {e : Fault}
    (hp : Preamble.read args = .ok (some p))
    (hload : (Settings.load Float p.settings Settings.defaultFile).run s = (.error e, s))
    (hvalue : e.isBadValue = false) (hfile : e.isMissingFile = false) :
    (run args).run s = (.error e, s) := by
  rw [run_eq_command hp, command, run_explaining_error hload, hvalue, hfile]
  rfl

/-- The work of reporting from a level that nobody knows is broken off. -/
theorem run_reportFrom_unknown {name : String}
    (h : Level.ofName? (String.ofList (Text.capitalise name.toList)) = none) (s : Session) :
    ∃ s', (Work.reportFrom name).run s
      = (.error (.unknownLevel (String.ofList (Text.capitalise name.toList))), s') := by
  refine ⟨{ s with journal := { s.journal with level := none } }, ?_⟩
  rw [Work.reportFrom, Work.run_bind_of_ok (Work.run_modify _ s), h]
  rfl

/-- **A LEVEL THAT NOBODY KNOWS** breaks every run off, whatever is asked. -/
theorem run_of_unknown_level {args : List String} {p : Preamble} {s : Session}
    {settings : Settings} (hp : Preamble.read args = .ok (some p))
    (hload : (Settings.load Float p.settings Settings.defaultFile).run s = (.ok settings, s))
    (hlevel : Level.ofName? (String.ofList (Text.capitalise (levelName settings p.logLevel).toList))
      = none) :
    ∃ s', (run args).run s = (.error (.unknownLevel
      (String.ofList (Text.capitalise (levelName settings p.logLevel).toList))), s') := by
  obtain ⟨s', hreport⟩ := run_reportFrom_unknown hlevel s
  refine ⟨s', ?_⟩
  rw [run_eq_command hp, command, run_explaining_ok hload, Work.run_bind_of_error hreport]

/-- Settings with such a level, where two texts are to be compared. -/
theorem unknown_level_escapes :
    let s : Session := {
      store := ⟨[(["s.yaml"], Text.Utf8.encode "log_level: LOUD\n".toList)], []⟩
      journal := .silent, screen := [], now := ⟨2024, 5, 6, 7, 8, 9, 0⟩ }
    ∃ s', (run ["--settings", "s.yaml", "distance", "a", "b"]).run s
      = (.error (.unknownLevel "LOUD"), s') := by
  intro s
  have hp : Preamble.read ["--settings", "s.yaml", "distance", "a", "b"]
      = .ok (some ⟨none, some ⟨"", ["s.yaml"]⟩, .distance, ["a", "b"]⟩) := by decide +kernel
  have hread : ((Yaml.read (.ofBytes (Text.Utf8.encode "log_level: LOUD\n".toList)) >>=
      Settings.ofDocument Float "s.yaml").toOption.any
        fun settings => settings.logLevel == "LOUD") = true := by decide +kernel
  have hbytes : s.store.bytes ⟨"", ["s.yaml"]⟩
      = .ok (Text.Utf8.encode "log_level: LOUD\n".toList) := by decide +kernel
  have hcapital : String.ofList (Text.capitalise "LOUD".toList) = "LOUD" := by decide +kernel
  have hlevel : Level.ofName? "LOUD" = none := by decide
  obtain ⟨settings, hsettings, hname⟩ := exists_ok_of_any hread
  have hload : (Settings.load Float (some ⟨"", ["s.yaml"]⟩) Settings.defaultFile).run s
      = (.ok settings, s) := by
    rw [Settings.load_run hbytes]
    exact congrArg (·, s) hsettings
  have hloud : levelName settings none = "LOUD" := beq_iff_eq.mp hname
  have hrun := run_of_unknown_level hp hload (by rw [hloud, hcapital, hlevel])
  rwa [hloud, hcapital] at hrun

end Program

end Likeness
