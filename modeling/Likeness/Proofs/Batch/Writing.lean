import Likeness.Proofs.Batch.ScoreTable
import Likeness.Proofs.Batch.Trace
import Likeness.Proofs.Command.Accepted
import Likeness.Proofs.Session.Ends

/-! # Writing the files of a run

    The three files of a run are made of numbers and texts, and of these only an
    integer can be refused, for it may have more digits than are written.  That is a
    bad value like others.  So where the files can be put, a run whose scores are
    bounded can fail to write them for nothing else (`Artefacts.ends_persist`); its
    summary is found, for the scores are bounded. -/

namespace Likeness

/-! ## Drafts that break off at long integers only -/

namespace Text.Draft

/-- Nothing but an integer that is too long breaks the draft off. -/
def LongOnly (d : Draft) : Prop := ∀ e, d.fault = some e → e = .tooManyDigits none

theorem longOnly_of (cs : List Char) : (of cs).LongOnly := nofun

theorem longOnly_ofExcept {r : Except Fault (List Char)}
    (h : ∀ e, r = .error e → e = .tooManyDigits none) : (ofExcept r).LongOnly := by
  cases r with
  | ok cs => exact longOnly_of cs
  | error e =>
      rintro _ ⟨⟩
      exact h e rfl

theorem LongOnly.append {d e : Draft} (hd : d.LongOnly) (he : e.LongOnly) : (d ++ e).LongOnly := by
  obtain ⟨cs, fault⟩ := d
  cases fault with
  | none => exact he
  | some f => exact hd

theorem longOnly_concat {ds : List Draft} (h : ∀ d ∈ ds, d.LongOnly) : (concat ds).LongOnly := by
  induction ds with
  | nil => exact longOnly_of []
  | cons d ds ih =>
      have hrest := ih fun e he => h e (List.mem_cons_of_mem d he)
      exact LongOnly.append (h d List.mem_cons_self) hrest

/-- The whole of a draft is missing for the same reason. -/
theorem LongOnly.finished {d : Draft} (hd : d.LongOnly) {e : Fault} (h : d.finished = .error e) :
    e = .tooManyDigits none := by
  obtain ⟨cs, fault⟩ := d
  cases fault with
  | none => exact nomatch h
  | some f =>
      exact hd e (congrArg some (Except.error.inj h))

end Text.Draft

open Text (Draft)

namespace Json

theorem integer_error {n : Int} {e : Fault} (h : integer n = .error e) :
    e = .tooManyDigits none := by
  unfold integer at h
  dsimp only at h
  split_ifs at h
  exact (Except.error.inj h).symm

theorem Atom.longOnly {v : Value} (h : Atom v) (l : Layout) (level : Nat) :
    (draft l level v).LongOnly := by
  cases h with
  | null => exact Draft.longOnly_of _
  | bool b => exact Draft.longOnly_of _
  | int n => exact Draft.longOnly_ofExcept fun e => integer_error
  | real x => exact Draft.longOnly_of _
  | text s => exact Draft.longOnly_of _

theorem draftEntries_longOnly {l : Layout} {level : Nat} {es : List (String × Value)}
    (h : ∀ e ∈ es, Atom e.2) (front : List Char) :
    (draftEntries l level front (entriesOf es)).LongOnly := by
  induction es generalizing front with
  | nil => exact Draft.longOnly_of []
  | cons e es ih =>
      rw [draftEntries_cons]
      have hfirst := (h e List.mem_cons_self).longOnly l level
      have hrest := ih (fun e' he' => h e' (List.mem_cons_of_mem e he')) (l.comma level)
      exact (((Draft.longOnly_of _).append (Draft.longOnly_of _)).append hfirst).append hrest

/-- An object of values without parts. -/
theorem write_longOnly {es : List (String × Value)} (h : ∀ e ∈ es, Atom e.2) (l : Layout) :
    (write l (.dict (entriesOf es))).LongOnly := by
  rw [write, draft]
  split_ifs
  · exact Draft.longOnly_of _
  · have hentries : (draftEntries l (0 + 1) [] (entriesOf es)).LongOnly :=
      draftEntries_longOnly h []
    exact (((Draft.longOnly_of _).append hentries).append (Draft.longOnly_of _)).append
      (Draft.longOnly_of _)

end Json

namespace Artefacts

open Json (Atom)

/-! ## The three files -/

theorem traceDraft_longOnly (records : List (Record Float)) : (traceDraft records).LongOnly := by
  refine Draft.longOnly_concat ?_
  intro d hd
  obtain ⟨v, hv, rfl⟩ := List.mem_map.mp hd
  obtain ⟨r, -, rfl⟩ := List.mem_map.mp hv
  refine Draft.longOnly_ofExcept ?_
  intro e he
  exact (Json.write_longOnly r.entries_atoms .inline).finished (map_eq_error he)

theorem fieldText_error {v : Value} {e : Fault} (h : Table.fieldText v = .error e) :
    e = .tooManyDigits none := by
  cases v with
  | int n => exact Json.integer_error h
  | _ => exact nomatch h

theorem tableDraft_longOnly (records : List (Record Float)) : (tableDraft records).LongOnly := by
  have hfields : ∀ fields : List Value, (Table.draftFields fields).LongOnly := by
    intro fields
    refine Draft.longOnly_ofExcept ?_
    intro e he
    obtain ⟨v, -, hv⟩ := exists_of_mapM_error (map_eq_error he)
    exact fieldText_error hv
  refine (hfields _).append (Draft.longOnly_concat ?_)
  intro d hd
  obtain ⟨v, hv, rfl⟩ := List.mem_map.mp hd
  obtain ⟨r, -, rfl⟩ := List.mem_map.mp hv
  exact hfields _

theorem summaryDraft_longOnly {records : List (Record Float)} {summary : Summary Float}
    (h : Summary.ofRecords (records.map Record.toValue) = .ok summary) (now : Instant)
    (metric : String) : (documentDraft layout (summaryValue summary now metric)).LongOnly := by
  have hatoms : ∀ e ∈ summary.entries ++ [("generated_at", .text now.iso),
      ("metric", .text metric)], Atom e.2 := by
    intro e he
    rcases List.mem_append.mp he with he | he
    · exact Summary.entries_atoms h e he
    · simp only [List.mem_cons, List.not_mem_nil, or_false] at he
      rcases he with rfl | rfl
      · exact .text now.iso
      · exact .text metric
  exact (Json.write_longOnly hatoms layout).append (Draft.longOnly_of _)

/-- The records of a run have a summary when their scores are bounded. -/
theorem exists_summary {records : List (Record Float)} (h : ∀ r ∈ records, r.score.Moderate) :
    ∃ summary : Summary Float, Summary.ofRecords (records.map Record.toValue) = .ok summary := by
  refine Summary.exists_ofRecords ?_ ?_
  · intro v hv
    obtain ⟨r, -, rfl⟩ := List.mem_map.mp hv
    exact ⟨_, rfl⟩
  · intro v hv _
    obtain ⟨r, hr, rfl⟩ := Summary.isScore_toValue hv
    refine ⟨r.score, ?_, h r hr⟩
    cases r.score with
    | whole n => rfl
    | real x => rfl

/-- The names of the files of a run. -/
def fileNames : List String := ["trace.jsonl", "scores.tsv", "summary.json"]

/-- **THE FILES OF A RUN ARE WRITTEN** where they can be put, or a bad value keeps one of them
    from being written to its end. -/
theorem ends_persist {records : List (Record Float)} {folder : Path} {s : Session}
    (hscores : ∀ r ∈ records, r.score.Moderate)
    (hadmits : ∀ name ∈ fileNames, s.store.Admits (folder.child name)) (metric : String) :
    (persist records folder metric).Ends s (fun _ _ => True) (·.isBadValue = true) := by
  have hlong : ∀ {d : Draft}, d.LongOnly → ∀ e, d.fault = some e → e.isBadValue = true := by
    rintro d hd e he
    rw [hd e he]
    rfl
  obtain ⟨summary, hsummary⟩ := exists_summary hscores
  obtain ⟨-, store, -, hmade, -⟩ := Store.admits_child.mp (hadmits "trace.jsonl" (by decide))
  -- Each file leaves the places of the files that come after it.
  refine Work.Ends.bind (P := fun _ s' => ∀ name ∈ fileNames, s'.store.Admits (folder.child name))
    (Work.ends_makeFolder hmade fun name hname => (hadmits name hname).made hmade) ?_
  rintro - s₁ h₁
  refine Work.Ends.bind (P := fun _ s' => s'.store.Admits (folder.child "scores.tsv") ∧
      s'.store.Admits (folder.child "summary.json"))
    (Work.ends_writeDraft (h₁ "trace.jsonl" (by decide)) (hlong (traceDraft_longOnly records))
      ?_) ?_
  · intro store hstore
    exact ⟨(h₁ "scores.tsv" (by decide)).beside (by decide) (by decide) (by decide) hstore,
      (h₁ "summary.json" (by decide)).beside (by decide) (by decide) (by decide) hstore⟩
  rintro - s₂ ⟨htable, hdocument⟩
  refine Work.Ends.bind (P := fun _ s' => s'.store.Admits (folder.child "summary.json"))
    (Work.ends_writeDraft htable (hlong (tableDraft_longOnly records)) ?_) ?_
  · intro store hstore
    exact hdocument.beside (by decide) (by decide) (by decide) hstore
  rintro - s₃ hdocument
  refine Work.Ends.bind (P := fun a s' => a = summary ∧ s' = s₃)
    (Work.ends_ofExcept_ok hsummary ⟨rfl, rfl⟩) ?_
  rintro _ s₄ ⟨rfl, rfl⟩
  refine Work.Ends.bind (P := fun a s' => a = s₄ ∧ s' = s₄) (Work.ends_get ⟨rfl, rfl⟩) ?_
  rintro _ s₅ ⟨rfl, rfl⟩
  refine Work.Ends.bind (P := fun _ _ => True)
    (Work.ends_writeDraft hdocument (hlong (summaryDraft_longOnly hsummary _ _))
      fun _ _ => trivial) ?_
  rintro - s₆ -
  exact Work.ends_report trivial

end Artefacts

end Likeness
