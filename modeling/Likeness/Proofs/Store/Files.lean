import Likeness.Proofs.Results
import Likeness.Store.Basic
import Mathlib.Data.List.Basic

/-! # Files stay where they were put

    Writing adds folders and files and takes none away, so a path that led
    somewhere still leads there (`Grows`).  A file that was written is read again
    as it was written (`bytes_of_place`), and writing beside it leaves it alone
    (`bytes_beside`). -/

namespace Likeness.Store

/-! ## Folders stay folders -/

/-- All folders of one store are folders of another. -/
def Grows (s t : Store) : Prop :=
  ∀ key, s.kind? key = some .folder → t.kind? key = some .folder

theorem Grows.refl (s : Store) : s.Grows s := fun _ h => h

theorem Grows.trans {s t u : Store} (hst : s.Grows t) (htu : t.Grows u) : s.Grows u :=
  fun key h => htu key (hst key h)

/-- A path that leads somewhere still leads there when there are more folders. -/
theorem follow_of_grows {s t : Store} (h : s.Grows t) {key found : Key} {names : List String}
    (hfollow : s.follow key names = .ok found) : t.follow key names = .ok found := by
  induction names generalizing key with
  | nil => exact hfollow
  | cons name rest ih =>
      unfold follow at hfollow ⊢
      cases hkind : s.kind? key with
      | none =>
          rw [hkind] at hfollow
          exact nomatch hfollow
      | some kind =>
          rw [hkind] at hfollow
          cases kind with
          | file bytes => exact nomatch hfollow
          | folder =>
              rw [h key hkind]
              dsimp only at hfollow ⊢
              split_ifs at hfollow ⊢
              · exact ih hfollow
              · exact ih hfollow

theorem locate_of_grows {s t : Store} (h : s.Grows t) {p : Path} {key : Key}
    (hlocate : s.locate p = .ok key) : t.locate p = .ok key := by
  unfold locate at hlocate ⊢
  cases hcheck : checkPath p with
  | error e =>
      rw [hcheck] at hlocate
      exact nomatch hlocate
  | ok =>
      rw [hcheck] at hlocate
      exact follow_of_grows h hlocate

/-! ## Making folders -/

theorem addFolder_eq_ok {s t : Store} {key : Key} (h : s.addFolder key = .ok t) :
    s.Grows t ∧ t.files = s.files := by
  unfold addFolder at h
  split at h
  · obtain rfl := Except.ok.inj h
    exact ⟨Grows.refl s, rfl⟩
  · exact nomatch h
  · obtain rfl := Except.ok.inj h
    refine ⟨fun key' hkey' => ?_, rfl⟩
    unfold kind? at hkey' ⊢
    dsimp only
    split at hkey'
    · exact nomatch hkey'
    · split_ifs at hkey' with hfolder
      have hmem : Key.isGiven key' = true ∨ key' ∈ s.folders := by simpa using hfolder
      rw [if_pos (by simpa using hmem.imp_right Or.inl)]

theorem makeFolders_eq_ok {s t : Store} {start : Key} {names : List String}
    (h : s.makeFolders start names = .ok t) : s.Grows t ∧ t.files = s.files := by
  induction names generalizing t with
  | nil =>
      obtain rfl := Except.ok.inj h
      exact ⟨Grows.refl s, rfl⟩
  | cons name before ih =>
      unfold makeFolders at h
      split at h
      · exact addFolder_eq_ok h
      · -- The folder before this one is missing too and is made first.
        split at h
        · exact nomatch h
        · rename_i u hbefore
          split at h
          · obtain ⟨hgrows, hfiles⟩ := ih hbefore
            obtain ⟨hgrows', hfiles'⟩ := addFolder_eq_ok h
            exact ⟨hgrows.trans hgrows', hfiles'.trans hfiles⟩
          · exact nomatch h
      · exact nomatch h

theorem makeFolder_eq_ok {s t : Store} {p : Path} (h : s.makeFolder p = .ok t) :
    s.Grows t ∧ t.files = s.files := by
  unfold makeFolder at h
  split at h
  · exact makeFolders_eq_ok h
  · exact nomatch h

/-- The files of two stores are the same when their lists are. -/
theorem kind?_file_of_files {s t : Store} (hfiles : t.files = s.files) {key : Key}
    {bytes : List UInt8} (h : s.kind? key = some (.file bytes)) :
    t.kind? key = some (.file bytes) := by
  unfold kind? at h ⊢
  rw [hfiles]
  split at h
  · exact h
  · split_ifs at h
    exact nomatch h

/-! ## Writing a file -/

theorem lookup_putBytes (key : Key) (bytes : List UInt8) (files : List (Key × List UInt8))
    (key' : Key) :
    (putBytes key bytes files).lookup key'
      = if key' = key then some bytes else files.lookup key' := by
  induction files with
  | nil =>
      show (putBytes key bytes []).lookup key' = if key' = key then some bytes else none
      rw [putBytes, List.lookup_cons, List.lookup_nil]
      by_cases h : key' = key
      · simp [h]
      · rw [beq_eq_false_iff_ne.mpr h, if_neg h]
  | cons f rest ih =>
      obtain ⟨k, b⟩ := f
      unfold putBytes
      by_cases hk : k = key
      · rw [if_pos hk, List.lookup_cons, List.lookup_cons, hk]
        by_cases h : key' = key
        · simp [h]
        · rw [beq_eq_false_iff_ne.mpr h, if_neg h]
      · rw [if_neg hk, List.lookup_cons, List.lookup_cons, ih]
        by_cases h : key' = k
        · have hne : key' ≠ key := fun heq => hk (h.symm.trans heq)
          simp [h, hk]
        · simp [beq_eq_false_iff_ne.mpr h]

/-- Writing puts a file where its path leads, and changes nothing else. -/
theorem write_eq_ok {s t : Store} {p : Path} {bytes : List UInt8} (h : s.write p bytes = .ok t) :
    s.Grows t ∧ ∃ key, s.locate p = .ok key ∧ t.kind? key = some (.file bytes) ∧
      ∀ key', key' ≠ key → t.kind? key' = s.kind? key' := by
  unfold write at h
  split at h
  · exact nomatch h
  rename_i key hlocate
  split at h
  · exact nomatch h
  rename_i hfolder
  obtain rfl := Except.ok.inj h
  have hother : ∀ key', key' ≠ key →
      kind? { s with files := putBytes key bytes s.files } key' = s.kind? key' := by
    intro key' hne
    unfold kind?
    rw [lookup_putBytes, if_neg hne]
  -- No folder is lost: a file is not written over one.
  refine ⟨fun key' hkey' => ?_, key, hlocate, ?_, hother⟩
  · rw [hother key' fun heq => hfolder (heq ▸ hkey'), hkey']
  · unfold kind?
    rw [lookup_putBytes, if_pos rfl]

/-- What is written at a path has its folder made first. -/
theorem place_eq_ok {s t : Store} {p : Path} {bytes : List UInt8}
    (h : s.place p bytes = .ok t) :
    ∃ u, s.makeFolder p.parent = .ok u ∧ u.write p bytes = .ok t :=
  bind_eq_ok h

/-- **A FILE IS READ AS IT WAS WRITTEN**. -/
theorem bytes_of_place {s t : Store} {p : Path} {bytes : List UInt8}
    (h : s.place p bytes = .ok t) : t.bytes p = .ok bytes := by
  obtain ⟨u, -, hwrite⟩ := place_eq_ok h
  obtain ⟨hgrows, key, hlocate, hkind, -⟩ := write_eq_ok hwrite
  unfold Store.bytes
  rw [locate_of_grows hgrows hlocate]
  dsimp only
  rw [hkind]

/-- A file can be put where a path leads. -/
def Admits (s : Store) (p : Path) : Prop := ∃ bytes t, s.place p bytes = .ok t

/-- Where one file can be put, every file can. -/
theorem Admits.place {s : Store} {p : Path} (h : s.Admits p) (bytes' : List UInt8) :
    ∃ t, s.place p bytes' = .ok t := by
  obtain ⟨bytes, t, h⟩ := h
  obtain ⟨u, hfolder, hwrite⟩ := place_eq_ok h
  rw [Store.place, hfolder]
  show ∃ t', u.write p bytes' = .ok t'
  unfold write at hwrite ⊢
  split at hwrite
  · exact nomatch hwrite
  · split at hwrite
    · exact nomatch hwrite
    · exact ⟨_, rfl⟩

theorem bytes_eq_ok {s : Store} {p : Path} {bytes : List UInt8} (h : s.bytes p = .ok bytes) :
    ∃ key, s.locate p = .ok key ∧ s.kind? key = some (.file bytes) := by
  unfold Store.bytes at h
  split at h
  · exact nomatch h
  · rename_i key hlocate
    split at h
    · rename_i found hkind
      exact ⟨key, hlocate, (Except.ok.inj h) ▸ hkind⟩
    · exact nomatch h
    · exact nomatch h

/-- A file that can be read is there. -/
theorem holds_of_bytes {s : Store} {p : Path} {bytes : List UInt8} (h : s.bytes p = .ok bytes) :
    s.holds p = .ok true := by
  obtain ⟨key, hlocate, hkind⟩ := bytes_eq_ok h
  unfold holds
  rw [hlocate]
  dsimp only
  rw [hkind]
  rfl

/-! ## Files side by side -/

/-- The last of some names is gone through after all others, which lead to a folder. -/
theorem follow_concat {s : Store} {start key : Key} {names : List String} {name : String}
    (h : s.follow start (names ++ [name]) = .ok key) :
    ∃ inside, s.follow start names = .ok inside ∧ s.kind? inside = some .folder ∧
      key = if name = ".." then Key.up inside else inside ++ [name] := by
  induction names generalizing start with
  | nil =>
      simp only [List.nil_append, follow] at h
      split at h
      · rename_i hkind
        refine ⟨start, rfl, hkind, ?_⟩
        split_ifs at h ⊢ <;> exact (Except.ok.inj h).symm
      · exact nomatch h
      · exact nomatch h
  | cons first rest ih =>
      rw [List.cons_append] at h
      unfold follow at h ⊢
      split at h
      · by_cases hlong : Path.nameLimit < first.utf8ByteSize
        · rw [if_pos hlong] at h
          exact nomatch h
        · rw [if_neg hlong] at h ⊢
          exact ih h
      · exact nomatch h
      · exact nomatch h

/-- What is in a folder is under a name of its own behind the key of the folder. -/
theorem locate_child {s : Store} {folder : Path} {name : String} {key : Key}
    (hname : name ≠ "..") (h : s.locate (folder.child name) = .ok key) :
    ∃ inside, key = inside ++ [name] := by
  unfold locate at h
  split at h
  · obtain ⟨inside, -, -, hkey⟩ := follow_concat h
    rw [if_neg hname] at hkey
    exact ⟨inside, hkey⟩
  · exact nomatch h

/-- Two files in a folder have keys that end in the names of the files, and so differ as these
    do. -/
theorem keys_apart {s : Store} {folder : Path} {name other : String} {key key' : Key}
    (hne : name ≠ other) (hname : name ≠ "..") (hother : other ≠ "..")
    (h : s.locate (folder.child name) = .ok key) (h' : s.locate (folder.child other) = .ok key') :
    key ≠ key' := by
  obtain ⟨inside, rfl⟩ := locate_child hname h
  obtain ⟨inside', rfl⟩ := locate_child hother h'
  intro heq
  exact hne (List.append_inj' heq rfl |>.2 |> List.cons.inj |>.1)

/-- A folder that has something in it need not be made. -/
theorem makeFolder_of_locate {s : Store} {folder : Path} {name : String} {key : Key}
    (hcheck : checkPath folder = .ok ()) (h : s.locate (folder.child name) = .ok key) :
    s.makeFolder folder = .ok s := by
  unfold locate at h
  split at h
  · obtain ⟨inside, hinside, hkind, -⟩ := follow_concat h
    unfold makeFolder
    rw [hcheck]
    show s.makeFolders (origin folder) folder.names.reverse = .ok s
    cases hnames : folder.names.reverse with
    | nil => rfl
    | cons last before =>
        have horder : folder.names = (last :: before).reverse := by
          rw [← hnames, List.reverse_reverse]
        rw [makeFolders, ← horder, show s.follow (origin folder) folder.names = .ok inside from
          hinside]
        show s.addFolder inside = .ok s
        rw [addFolder, hkind]
  · exact nomatch h

/-- Where a file can be put into a folder: the folder can be made, and no folder has the name of
    the file. -/
theorem admits_child {s : Store} {folder : Path} {name : String} :
    s.Admits (folder.child name) ↔ checkPath folder = .ok () ∧
      ∃ u key, s.makeFolder folder = .ok u ∧ u.locate (folder.child name) = .ok key ∧
        u.kind? key ≠ some .folder := by
  have hparent : (folder.child name).parent = folder := by simp [Path.child, Path.parent]
  constructor
  · rintro ⟨bytes, t, h⟩
    obtain ⟨u, hfolder, hwrite⟩ := place_eq_ok h
    rw [hparent] at hfolder
    unfold write at hwrite
    split at hwrite
    · exact nomatch hwrite
    rename_i key hlocate
    split at hwrite
    · exact nomatch hwrite
    rename_i hkind
    refine ⟨?_, u, key, hfolder, hlocate, hkind⟩
    unfold makeFolder at hfolder
    split at hfolder
    · assumption
    · exact nomatch hfolder
  · rintro ⟨-, u, key, hfolder, hlocate, hkind⟩
    refine ⟨[], { u with files := putBytes key [] u.files }, ?_⟩
    rw [place, hparent, hfolder]
    show u.write (folder.child name) [] = _
    rw [write, hlocate]
    dsimp only
    split
    · rename_i hfound
      exact absurd hfound hkind
    · rfl

/-- **A FILE CAN STILL BE PUT INTO A FOLDER** that was made for it. -/
theorem Admits.made {s u : Store} {folder : Path} {name : String}
    (h : s.Admits (folder.child name)) (hmade : s.makeFolder folder = .ok u) :
    u.Admits (folder.child name) := by
  obtain ⟨hcheck, v, key, hv, hlocate, hkind⟩ := admits_child.mp h
  obtain rfl := Except.ok.inj (hv.symm.trans hmade)
  exact admits_child.mpr ⟨hcheck, v, key, makeFolder_of_locate hcheck hlocate, hlocate, hkind⟩

/-- So it can when another file was put beside it. -/
theorem Admits.beside {s t : Store} {folder : Path} {name other : String} {bytes : List UInt8}
    (h : s.Admits (folder.child name)) (hne : name ≠ other) (hname : name ≠ "..")
    (hother : other ≠ "..") (hplace : s.place (folder.child other) bytes = .ok t) :
    t.Admits (folder.child name) := by
  obtain ⟨hcheck, u, key, hu, hlocate, hkind⟩ := admits_child.mp h
  obtain ⟨v, hv, hwrite⟩ := place_eq_ok hplace
  have hparent : (folder.child other).parent = folder := by simp [Path.child, Path.parent]
  rw [hparent] at hv
  obtain rfl := Except.ok.inj (hu.symm.trans hv)
  obtain ⟨hgrows, key', hlocate', -, hrest⟩ := write_eq_ok hwrite
  have hkeys : key ≠ key' := keys_apart hne hname hother hlocate hlocate'
  have hlocate := locate_of_grows hgrows hlocate
  refine admits_child.mpr ⟨hcheck, t, key, makeFolder_of_locate hcheck hlocate, hlocate, ?_⟩
  rwa [hrest key hkeys]

/-- **A FILE STAYS AS IT IS** when another one is written beside it. -/
theorem bytes_beside {s t : Store} {folder : Path} {name other : String}
    {bytes otherBytes : List UInt8} (hne : name ≠ other) (hname : name ≠ "..")
    (hother : other ≠ "..") (hbytes : s.bytes (folder.child name) = .ok bytes)
    (h : s.place (folder.child other) otherBytes = .ok t) :
    t.bytes (folder.child name) = .ok bytes := by
  obtain ⟨key, hlocate, hkind⟩ := bytes_eq_ok hbytes
  obtain ⟨u, hfolder, hwrite⟩ := place_eq_ok h
  obtain ⟨hgrows, hfiles⟩ := makeFolder_eq_ok hfolder
  obtain ⟨hgrows', key', hlocate', -, hrest⟩ := write_eq_ok hwrite
  have hkeys : key ≠ key' := keys_apart hne hname hother
    (locate_of_grows hgrows hlocate) hlocate'
  unfold Store.bytes
  rw [locate_of_grows (hgrows.trans hgrows') hlocate]
  dsimp only
  rw [hrest key hkeys, kind?_file_of_files hfiles hkind]

end Likeness.Store
