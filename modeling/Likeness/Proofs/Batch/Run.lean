import Likeness.Batch.Run
import Likeness.Proofs.Session.Work

/-! # The records of a run

    Scoring the pairs of a run reports each record and does nothing else: the
    records are those of the pairs, each at its place, whatever the session is
    (`Batch.scoreFrom_run`).  What a run writes comes after that, so a run that
    succeeds has found all of its records (`Batch.runPairs_eq_ok`). -/

namespace Likeness

variable {K : Type} [Scalar K]

namespace Runner

/-- The records of pairs, the first of which has a place. -/
def records (r : Runner K) (place : Nat) (pairs : List Pair) : Except Fault (List (Record K)) :=
  (pairs.zipIdx place).mapM fun p => r.record p.2 p.1

theorem records_cons (r : Runner K) (place : Nat) (p : Pair) (ps : List Pair) :
    r.records place (p :: ps)
      = (r.record place p).bind fun record =>
          (r.records (place + 1) ps).map (record :: ·) := by
  rw [records, List.zipIdx_cons, List.mapM_cons]
  show (r.record place p).bind _ = _
  cases r.record place p with
  | error e => rfl
  | ok record =>
      show (r.records (place + 1) ps >>= fun records => pure (record :: records)) = _
      cases r.records (place + 1) ps with
      | error e => rfl
      | ok records => rfl

end Runner

namespace Batch

/-- Scoring finds the records of the pairs, and changes nothing but the journal. -/
theorem scoreFrom_run (r : Runner K) (pairs : List Pair) :
    ∀ (place : Nat) (s : Session), ∃ journal,
      (scoreFrom r place pairs).run s = (r.records place pairs, { s with journal := journal }) := by
  induction pairs with
  | nil =>
      intro place s
      exact ⟨s.journal, rfl⟩
  | cons p ps ih =>
      intro place s
      rw [Runner.records_cons]
      cases hrecord : r.record place p with
      | error e =>
          refine ⟨s.journal, ?_⟩
          rw [scoreFrom, hrecord, Work.run_bind, Work.run_ofExcept]
          rfl
      | ok record =>
          obtain ⟨journal, hrest⟩ :=
            ih (place + 1) { s with journal := s.journal.add .debug record.progress }
          refine ⟨journal, ?_⟩
          rw [scoreFrom, hrecord, Work.run_bind_of_ok (Work.run_ofExcept _ _),
            Work.run_bind_of_ok (Work.run_report _ _ _), Work.run_bind, hrest]
          cases r.records (place + 1) ps with
          | error e => rfl
          | ok records => rfl

/-- The records of a run are the records of its pairs, and a run without a folder
    finds them. -/
theorem runPairs_none (r : Runner Float) (pairs : List Pair) (s : Session) :
    ((runPairs r pairs none).run s).1 = r.records 1 pairs := by
  obtain ⟨journal, hscore⟩ := scoreFrom_run r pairs 1 s
  rw [runPairs, Work.run_bind, hscore]
  cases r.records 1 pairs with
  | error e => rfl
  | ok records => rfl

/-- A run that succeeds has found the records of its pairs before anything was
    written, and wrote the files of the run. -/
theorem runPairs_eq_ok {r : Runner Float} {pairs : List Pair} {folder : Path} {s s' : Session}
    {records : List (Record Float)}
    (h : (runPairs r pairs (some folder)).run s = (.ok records, s')) :
    r.records 1 pairs = .ok records ∧ ∃ journal,
      (Artefacts.persist records folder r.name).run { s with journal := journal }
        = (.ok (), s') := by
  obtain ⟨found, s₁, hscore, h⟩ := Work.run_bind_eq_ok h
  obtain ⟨journal, hrun⟩ := scoreFrom_run r pairs 1 s
  rw [hrun] at hscore
  obtain ⟨hfound, rfl⟩ := Prod.mk.inj hscore
  obtain ⟨_, s₂, hreport, h⟩ := Work.run_bind_eq_ok h
  obtain ⟨-, rfl⟩ := Prod.mk.inj hreport
  obtain ⟨_, s₃, hpersist, h⟩ := Work.run_bind_eq_ok h
  obtain ⟨hrecords, rfl⟩ := Prod.mk.inj h
  cases hrecords
  exact ⟨hfound, _, hpersist⟩

end Batch

end Likeness
