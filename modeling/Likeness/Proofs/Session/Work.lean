import Likeness.Proofs.Store.Files
import Likeness.Session.Work

/-! # What work does to a session

    `Work` is a function from a session to a result and a session.  The
    equations here run it one step at a time; from them the runs of larger
    pieces of work are put together. -/

namespace Likeness.Work

variable {α β : Type}

@[simp] theorem run_pure (a : α) (s : Session) : (pure a : Work α).run s = (.ok a, s) := rfl

@[simp] theorem run_throw (e : Fault) (s : Session) :
    (throw e : Work α).run s = (.error e, s) := rfl

/-- Work that goes on with the result of other work stops where that stops. -/
theorem run_bind (w : Work α) (f : α → Work β) (s : Session) :
    (w >>= f).run s
      = match w.run s with
        | (.ok a, s') => (f a).run s'
        | (.error e, s') => (.error e, s') := by
  unfold Work.run ExceptT.run StateT.run
  simp only [bind, ExceptT.bind, ExceptT.mk, StateT.bind, ExceptT.bindCont]
  cases w s with
  | mk result next =>
      cases result with
      | ok a => rfl
      | error e => rfl

/-- Work that has a result is gone on with in the session that it leaves. -/
theorem run_bind_of_ok {w : Work α} {s s' : Session} {a : α} (h : w.run s = (.ok a, s'))
    (f : α → Work β) : (w >>= f).run s = (f a).run s' := by
  rw [run_bind, h]

/-- Work that stops is not gone on with. -/
theorem run_bind_of_error {w : Work α} {s s' : Session} {e : Fault} (h : w.run s = (.error e, s'))
    (f : α → Work β) : (w >>= f).run s = (.error e, s') := by
  rw [run_bind, h]

/-- Two steps have a result when both of them have. -/
theorem run_bind_eq_ok {w : Work α} {f : α → Work β} {s s'' : Session} {b : β}
    (h : (w >>= f).run s = (.ok b, s'')) :
    ∃ a s', w.run s = (.ok a, s') ∧ (f a).run s' = (.ok b, s'') := by
  rw [run_bind] at h
  rcases hw : w.run s with ⟨result, s'⟩
  rw [hw] at h
  cases result with
  | ok a => exact ⟨a, s', rfl, h⟩
  | error e => exact nomatch congrArg Prod.fst h

theorem run_map (f : α → β) (w : Work α) (s : Session) :
    Work.run (ExceptT.map f w) s = ((w.run s).1.map f, (w.run s).2) := by
  unfold Work.run ExceptT.run StateT.run
  simp only [ExceptT.map, ExceptT.mk, bind, StateT.bind]
  rcases w s with ⟨result, next⟩
  cases result with
  | ok a => rfl
  | error e => rfl

/-- A fault is handled in the session in which it was met. -/
theorem run_tryCatch (w : Work α) (handler : Fault → Work α) (s : Session) :
    (tryCatch w handler).run s
      = match w.run s with
        | (.ok a, s') => (.ok a, s')
        | (.error e, s') => (handler e).run s' := by
  unfold Work.run ExceptT.run StateT.run
  simp only [tryCatch, tryCatchThe, MonadExceptOf.tryCatch, ExceptT.tryCatch, ExceptT.mk, bind,
    StateT.bind]
  rcases w s with ⟨result, next⟩
  cases result with
  | ok a => rfl
  | error e => rfl

@[simp] theorem run_ofExcept (r : Except Fault α) (s : Session) :
    (ofExcept r).run s = (r, s) := by
  cases r with
  | ok a => rfl
  | error e => rfl

@[simp] theorem run_get (s : Session) : (get : Work Session).run s = (.ok s, s) := rfl

@[simp] theorem run_look (f : Session → Except Fault α) (s : Session) :
    (look f).run s = (f s, s) := by
  rw [look, run_bind_of_ok (run_get s)]
  cases f s with
  | ok a => rfl
  | error e => rfl

theorem run_look_ok {f : Session → Except Fault α} {s : Session} {a : α} (h : f s = .ok a) :
    (look f).run s = (.ok a, s) := by
  rw [run_look, h]

theorem run_holds {p : Path} {s : Session} {found : Bool} (h : s.store.holds p = .ok found) :
    (holds p).run s = (.ok found, s) :=
  run_look_ok h

/-- What is seen in the session is gone on with, without another look at it. -/
theorem run_look_bind (f : Session → Except Fault α) (g : α → Except Fault β) (s : Session) :
    (look f >>= fun a => ofExcept (g a)).run s = (f s >>= g, s) := by
  rw [run_bind, run_look]
  cases f s with
  | error e => rfl
  | ok a => exact run_ofExcept (g a) s

@[simp] theorem run_modify (f : Session → Session) (s : Session) :
    (modify f : Work Unit).run s = (.ok (), f s) := rfl

@[simp] theorem run_report (l : Level) (message : String) (s : Session) :
    (report l message).run s = (.ok (), { s with journal := s.journal.add l message }) := rfl

theorem run_ofExcept_eq_ok {r : Except Fault α} {s s' : Session} {a : α}
    (h : (ofExcept r).run s = (.ok a, s')) : r = .ok a ∧ s' = s := by
  rw [run_ofExcept] at h
  exact ⟨congrArg Prod.fst h, (congrArg Prod.snd h).symm⟩

/-! ## Files and folders

    What is written changes the store, and the time stands still. -/

theorem run_makeFolder_eq_ok {p : Path} {s s' : Session}
    (h : (makeFolder p).run s = (.ok (), s')) :
    s.store.makeFolder p = .ok s'.store ∧ s'.now = s.now := by
  obtain ⟨store, s₁, hlook, h⟩ := run_bind_eq_ok h
  rw [run_look] at hlook
  obtain ⟨hstore, rfl⟩ := Prod.mk.inj hlook
  obtain rfl := congrArg Prod.snd h
  exact ⟨hstore, rfl⟩

theorem run_writeBytes_eq_ok {p : Path} {bytes : List UInt8} {s s' : Session}
    (h : (writeBytes p bytes).run s = (.ok (), s')) :
    s.store.write p bytes = .ok s'.store ∧ s'.now = s.now := by
  obtain ⟨store, s₁, hlook, h⟩ := run_bind_eq_ok h
  rw [run_look] at hlook
  obtain ⟨hstore, rfl⟩ := Prod.mk.inj hlook
  obtain rfl := congrArg Prod.snd h
  exact ⟨hstore, rfl⟩

/-- A draft that was written did not break off, and its file was put where its path leads. -/
theorem run_writeDraft_eq_ok {p : Path} {d : Text.Draft} {s s' : Session}
    (h : (writeDraft p d).run s = (.ok (), s')) :
    d = .of d.chars ∧ s.store.place p (Text.Utf8.encode d.chars) = .ok s'.store ∧
      s'.now = s.now := by
  obtain ⟨_, s₁, hfolder, h⟩ := run_bind_eq_ok h
  obtain ⟨hfolder, hnow₁⟩ := run_makeFolder_eq_ok hfolder
  obtain ⟨_, s₂, hbytes, h⟩ := run_bind_eq_ok h
  obtain ⟨hbytes, hnow₂⟩ := run_writeBytes_eq_ok hbytes
  obtain ⟨chars, fault⟩ := d
  cases fault with
  | some e => exact nomatch congrArg Prod.fst h
  | none =>
      obtain rfl := congrArg Prod.snd h
      refine ⟨rfl, ?_, hnow₂.trans hnow₁⟩
      rw [Store.place, hfolder]
      exact hbytes

/-- A text is written where a file can be put. -/
theorem run_writeDraft {p : Path} {cs : List Char} {s : Session} {store : Store}
    (h : s.store.place p (Text.Utf8.encode cs) = .ok store) :
    (writeDraft p (.of cs)).run s = (.ok (), { s with store := store }) := by
  obtain ⟨folders, hfolders, hstore⟩ := Store.place_eq_ok h
  have hfolder : (makeFolder p.parent).run s = (.ok (), { s with store := folders }) := by
    rw [makeFolder, run_bind, run_look, hfolders]
    rfl
  have hbytes : (writeBytes p (Text.Utf8.encode cs)).run { s with store := folders }
      = (.ok (), { s with store := store }) := by
    rw [writeBytes, run_bind, run_look, hstore]
    rfl
  rw [writeDraft, run_bind_of_ok hfolder]
  exact run_bind_of_ok hbytes _

end Likeness.Work
