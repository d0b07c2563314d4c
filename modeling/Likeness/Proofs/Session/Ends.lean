import Likeness.Proofs.Session.Work

/-! # How work ends

    Work that begins in a session has a result or is broken off by a fault.
    `Work.Ends` says what holds in the one case and in the other; of a broken
    piece of work only the fault matters, for nothing goes on from there.  There is
    one rule for each step that work is put together from, and a result is handed
    on from step to step (`Ends.bind`). -/

namespace Likeness.Work

variable {α β : Type} {s : Session} {broken : Fault → Prop}

/-- What holds at the end of work that begins in a session: `done` of its result and the
    session after it, or `broken` of the fault that broke it off. -/
def Ends (w : Work α) (s : Session) (done : α → Session → Prop) (broken : Fault → Prop) : Prop :=
  match w.run s with
  | (.ok a, s') => done a s'
  | (.error e, _) => broken e

theorem ends_of_ok {w : Work α} {s' : Session} {a : α} (h : w.run s = (.ok a, s'))
    {Q : α → Session → Prop} (ha : Q a s') : w.Ends s Q broken := by
  rw [Ends, h]
  exact ha

theorem ends_of_error {w : Work α} {s' : Session} {e : Fault} (h : w.run s = (.error e, s'))
    {Q : α → Session → Prop} (he : broken e) : w.Ends s Q broken := by
  rw [Ends, h]
  exact he

/-- Work ends in one of two ways. -/
theorem Ends.cases {w : Work α} {Q : α → Session → Prop} (h : w.Ends s Q broken) :
    (∃ a s', w.run s = (.ok a, s') ∧ Q a s') ∨ ∃ e s', w.run s = (.error e, s') ∧ broken e := by
  unfold Ends at h
  split at h
  · rename_i a s' hrun
    exact .inl ⟨a, s', hrun, h⟩
  · rename_i e s' hrun
    exact .inr ⟨e, s', hrun, h⟩

/-- Work ends as work does that runs alike. -/
theorem Ends.of_run {w w' : Work α} {s' : Session} {Q : α → Session → Prop}
    (hrun : w.run s = w'.run s') (h : w'.Ends s' Q broken) : w.Ends s Q broken := by
  rw [Ends, hrun]
  exact h

theorem Ends.mono {w : Work α} {Q Q' : α → Session → Prop} {broken' : Fault → Prop}
    (h : w.Ends s Q broken) (hdone : ∀ a s', Q a s' → Q' a s')
    (hbroken : ∀ e, broken e → broken' e) : w.Ends s Q' broken' := by
  rcases h.cases with ⟨a, s', hrun, ha⟩ | ⟨e, s', hrun, he⟩
  · exact ends_of_ok hrun (hdone a s' ha)
  · exact ends_of_error hrun (hbroken e he)

theorem Ends.weaken {w : Work α} {Q : α → Session → Prop} {broken' : Fault → Prop}
    (h : w.Ends s Q broken) (hbroken : ∀ e, broken e → broken' e) : w.Ends s Q broken' :=
  h.mono (fun _ _ ha => ha) hbroken

/-- The result that is handed on is that of the work. -/
theorem Ends.traced {w : Work α} {Q : α → Session → Prop} (h : w.Ends s Q broken) :
    w.Ends s (fun a s' => w.run s = (.ok a, s') ∧ Q a s') broken := by
  rcases h.cases with ⟨a, s', hrun, ha⟩ | ⟨e, s', hrun, he⟩
  · exact ends_of_ok hrun ⟨hrun, ha⟩
  · exact ends_of_error hrun he

/-- **WORK IS GONE ON WITH** from each of its results. -/
theorem Ends.bind {w : Work α} {f : α → Work β} {P : α → Session → Prop}
    {Q : β → Session → Prop} (h : w.Ends s P broken)
    (hf : ∀ a s', P a s' → (f a).Ends s' Q broken) : (w >>= f).Ends s Q broken := by
  rcases h.cases with ⟨a, s', hrun, ha⟩ | ⟨e, s', hrun, he⟩
  · rw [Ends, run_bind_of_ok hrun]
    exact hf a s' ha
  · exact ends_of_error (run_bind_of_error hrun f) he

/-- Work that is known to have a result is gone on with from that. -/
theorem ends_after {w : Work α} {f : α → Work β} {s' : Session} {a : α} {Q : β → Session → Prop}
    (hrun : w.run s = (.ok a, s')) (h : (f a).Ends s' Q broken) : (w >>= f).Ends s Q broken :=
  Ends.of_run (run_bind_of_ok hrun f) h

/-! ## Single steps -/

section Steps

variable {Q : α → Session → Prop}

theorem ends_pure {a : α} (h : Q a s) : (pure a : Work α).Ends s Q broken :=
  ends_of_ok (run_pure a s) h

theorem ends_throw {e : Fault} (h : broken e) : (throw e : Work α).Ends s Q broken :=
  ends_of_error (run_throw e s) h

theorem ends_ofExcept {r : Except Fault α} (hok : ∀ a, r = .ok a → Q a s)
    (herror : ∀ e, r = .error e → broken e) : (ofExcept r).Ends s Q broken := by
  cases r with
  | ok a => exact ends_of_ok (run_ofExcept _ s) (hok a rfl)
  | error e => exact ends_of_error (run_ofExcept _ s) (herror e rfl)

theorem ends_ofExcept_ok {r : Except Fault α} {a : α} (hr : r = .ok a) (h : Q a s) :
    (ofExcept r).Ends s Q broken := by
  rw [hr]
  exact ends_pure h

end Steps

variable {Q : Unit → Session → Prop}

theorem ends_get {Q : Session → Session → Prop} (h : Q s s) :
    (get : Work Session).Ends s Q broken :=
  ends_of_ok (run_get s) h

theorem ends_report {l : Level} {message : String}
    (h : Q () { s with journal := s.journal.add l message }) :
    (report l message).Ends s Q broken :=
  ends_of_ok (run_report l message s) h

/-- A line of markup is printed; what is no markup breaks the work off. -/
theorem ends_printLine {markup : String}
    (h : ∀ text, Terminal.Markup.render markup = .ok text →
      Q () { s with screen := s.screen ++ [.line text] })
    (hbroken : ∀ e, Terminal.Markup.render markup = .error e → broken e) :
    (printLine markup).Ends s Q broken := by
  refine Ends.bind (P := fun a s' => Terminal.Markup.render markup = .ok a ∧ s' = s)
    (ends_ofExcept (fun a ha => ⟨ha, rfl⟩) hbroken) ?_
  rintro a s' ⟨htext, rfl⟩
  exact ends_of_ok (run_modify _ _) (h a htext)

/-- A table of which every part is markup is printed. -/
theorem ends_printGrid {g : Terminal.Grid}
    (htitle : ∃ text, Terminal.Markup.render g.title = .ok text)
    (hcolumns : ∀ c ∈ g.columns, ∃ text, Terminal.Markup.render c = .ok text)
    (hrows : ∀ row ∈ g.rows, ∀ c ∈ row, ∃ text, Terminal.Markup.render c = .ok text)
    (h : ∀ shown, Q () { s with screen := s.screen ++ [.grid shown] }) :
    (printGrid g).Ends s Q broken := by
  obtain ⟨title, htitle⟩ := htitle
  obtain ⟨columns, hcolumns⟩ := exists_mapM hcolumns
  obtain ⟨rows, hrows⟩ := exists_mapM fun row hrow => exists_mapM (hrows row hrow)
  have hrun : (printGrid g).run s
      = (.ok (), { s with screen := s.screen ++ [.grid ⟨title, columns, rows⟩] }) := by
    rw [printGrid, htitle, hcolumns, hrows, run_bind_of_ok (run_ofExcept _ s),
      run_bind_of_ok (run_ofExcept _ s), run_bind_of_ok (run_ofExcept _ s)]
    rfl
  exact ends_of_ok hrun (h _)

theorem ends_makeFolder {p : Path} {store : Store} (hstore : s.store.makeFolder p = .ok store)
    (h : Q () { s with store := store }) : (makeFolder p).Ends s Q broken := by
  refine ends_of_ok ?_ h
  rw [makeFolder, run_bind, run_look, hstore]
  rfl

/-- A draft is written where a file can be put.  When it breaks off, so does the work. -/
theorem ends_writeDraft {p : Path} {d : Text.Draft} (hadmits : s.store.Admits p)
    (hfault : ∀ e, d.fault = some e → broken e)
    (h : ∀ store, s.store.place p (Text.Utf8.encode d.chars) = .ok store →
      Q () { s with store := store }) :
    (writeDraft p d).Ends s Q broken := by
  obtain ⟨store, hstore⟩ := hadmits.place (Text.Utf8.encode d.chars)
  obtain ⟨folders, hfolders, hwrite⟩ := Store.place_eq_ok hstore
  refine Ends.bind (ends_makeFolder hfolders (Q := fun _ s' => s' = { s with store := folders })
    rfl) ?_
  rintro - s' rfl
  refine Ends.bind (P := fun _ s' => s' = { s with store := store }) ?_ ?_
  · refine ends_of_ok (a := ()) ?_ rfl
    rw [writeBytes, run_bind, run_look, hwrite]
    rfl
  · rintro - s' rfl
    cases hbreak : d.fault with
    | none => exact ends_pure (h store hstore)
    | some e => exact ends_throw (hfault e hbreak)

end Likeness.Work
