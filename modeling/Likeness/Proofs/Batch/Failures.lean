import Likeness.Proofs.Batch.Run

/-! # Runs that fail before they write

    A run goes through four phases before it writes: the runner is made, the file
    is read, its values are taken for pairs, and the selected pairs are scored.
    Each phase is finished before the next one begins, so the fault of a run is
    that of its first phase that has one, and within a phase that of the first
    line, value or pair that has one.

    Whatever the phase, the store is left as it was.  The main result is
    `Batch.failed_run_writes_nothing`. -/

namespace Likeness

/-! ## Faults of lines, values and pairs -/

namespace Json

/-- What is wrong with a line; a blank one holds nothing that could be wrong. -/
def lineFault? (path : String) (number : Nat) (l : List Char) : Option Fault :=
  if (Text.trimBoth Text.isBlank l).isEmpty then none
  else
    match line path number (Text.trimBoth Text.isBlank l) with
    | .ok _ => none
    | .error e => some e

theorem linesFrom_eq_error {path : String} {ls : List (List Char)} {number i : Nat}
    {l : List Char} {e : Fault} (hl : ls[i]? = some l)
    (he : lineFault? path (number + i) l = some e) :
    ∃ j ≤ i, ∃ l' e', ls[j]? = some l' ∧ lineFault? path (number + j) l' = some e' ∧
      linesFrom path number ls = .error e' := by
  induction ls generalizing number i with
  | nil => exact nomatch hl
  | cons first rest ih =>
      -- The rest has a fault when it is not the first line that has it.
      have hrest : lineFault? path number first = none →
          ∃ j ≤ i, ∃ l' e', (first :: rest)[j]? = some l' ∧
            lineFault? path (number + j) l' = some e' ∧
            linesFrom path (number + 1) rest = .error e' := by
        intro hfirst
        cases i with
        | zero =>
            obtain rfl := Option.some.inj hl
            exact nomatch hfirst.symm.trans he
        | succ i =>
            have he' : lineFault? path (number + 1 + i) l = some e := by
              rw [← he]
              congr 1
              omega
            obtain ⟨j, hj, l', e', hl', hfault, hlines⟩ := ih hl he'
            refine ⟨j + 1, Nat.succ_le_succ hj, l', e', hl', ?_, hlines⟩
            rw [← hfault]
            congr 1
            omega
      by_cases hblank : (Text.trimBoth Text.isBlank first).isEmpty = true
      · obtain ⟨j, hj, l', e', hl', hfault, hlines⟩ := hrest (if_pos hblank)
        refine ⟨j, hj, l', e', hl', hfault, ?_⟩
        rw [linesFrom, if_pos hblank, hlines]
      · cases hline : line path number (Text.trimBoth Text.isBlank first) with
        | error e' =>
            refine ⟨0, Nat.zero_le i, first, e', rfl, ?_, ?_⟩
            · rw [Nat.add_zero, lineFault?, if_neg hblank, hline]
            · rw [linesFrom, if_neg hblank, hline]
              rfl
        | ok v =>
            have hfirst : lineFault? path number first = none := by
              rw [lineFault?, if_neg hblank, hline]
            obtain ⟨j, hj, l', e', hl', hfault, hlines⟩ := hrest hfirst
            refine ⟨j, hj, l', e', hl', hfault, ?_⟩
            rw [linesFrom, if_neg hblank, hline, hlines]
            rfl

/-- Without a fault in a line, all values are read. -/
theorem linesFrom_eq_ok {path : String} {ls : List (List Char)} {number : Nat}
    (h : ∀ (i : Nat) (l : List Char), ls[i]? = some l → lineFault? path (number + i) l = none) :
    ∃ vs, linesFrom path number ls = .ok vs := by
  induction ls generalizing number with
  | nil => exact ⟨[], rfl⟩
  | cons first rest ih =>
      have hfirst := h 0 first rfl
      obtain ⟨vs, hrest⟩ : ∃ vs, linesFrom path (number + 1) rest = .ok vs := by
        refine ih fun i l hl => ?_
        rw [← h (i + 1) l hl]
        congr 1
        omega
      by_cases hblank : (Text.trimBoth Text.isBlank first).isEmpty = true
      · exact ⟨vs, by rw [linesFrom, if_pos hblank, hrest]⟩
      · cases hline : line path number (Text.trimBoth Text.isBlank first) with
        | error e =>
            rw [Nat.add_zero, lineFault?, if_neg hblank, hline] at hfirst
            exact nomatch hfirst
        | ok v =>
            refine ⟨v :: vs, ?_⟩
            rw [linesFrom, if_neg hblank, hline, hrest]
            rfl

/-- The first line that has a fault is where the reading of a file stops. -/
theorem records_eq_error {path : String} {t : Text.Streamed} {i : Nat} {l : List Char}
    {e : Fault} (hl : t.lines[i]? = some l) (he : lineFault? path (i + 1) l = some e) :
    ∃ j ≤ i, ∃ l' e', t.lines[j]? = some l' ∧ lineFault? path (j + 1) l' = some e' ∧
      records path t = .error e' := by
  rw [Nat.add_comm] at he
  obtain ⟨j, hj, l', e', hl', he', hlines⟩ := linesFrom_eq_error hl he
  rw [Nat.add_comm] at he'
  refine ⟨j, hj, l', e', hl', he', ?_⟩
  rw [records, hlines]
  rfl

/-- Without a fault in a line, the reading stops only at bytes that are no text. -/
theorem records_of_lines {path : String} {t : Text.Streamed}
    (h : ∀ (i : Nat) (l : List Char), t.lines[i]? = some l → lineFault? path (i + 1) l = none) :
    (∀ f, t.fault = some f → records path t = .error (.notUtf8 f)) ∧
      (t.fault = none → ∃ vs, records path t = .ok vs) := by
  have hlines : ∀ (i : Nat) (l : List Char), t.lines[i]? = some l →
      lineFault? path (1 + i) l = none := by
    intro i l hl
    rw [Nat.add_comm]
    exact h i l hl
  obtain ⟨vs, hvs⟩ := linesFrom_eq_ok hlines
  constructor
  · intro f hf
    rw [records, hvs, hf]
    rfl
  · intro hf
    refine ⟨vs, ?_⟩
    rw [records, hvs, hf]
    rfl

end Json

namespace Batch

/-- The pair that a value describes, by its place in a file. -/
def readPair (path : String) (place : Nat) (v : Value) : Except Fault Pair :=
  ((Pair.read v).mapError fun
    | .invalid complaints => .invalidPair place path complaints
    | e => e).map (Pair.numbered place)

theorem readPairs_eq (path : String) (vs : List Value) (place : Nat) :
    readPairs path place vs = (vs.zipIdx place).mapM fun v => readPair path v.2 v.1 := by
  induction vs generalizing place with
  | nil => rfl
  | cons v vs ih =>
      rw [readPairs, ih, List.zipIdx_cons, List.mapM_cons, readPair]
      cases Pair.read v with
      | ok p => rfl
      | error e => rfl

/-- The lines of a file of pairs, if it is there and can be read. -/
def linesAt (store : Store) (p : Path) : Except Fault Text.Streamed := do
  if ← store.holds p then store.lines p else .error (.pairsMissing p.text)

/-- Pairs are the values of the lines of their file, all of them read before the first is
    taken for a pair. -/
theorem loadPairs_run (p : Path) (s : Session) :
    (loadPairs p).run s
      = (linesAt s.store p >>= fun t => Json.records p.text t >>= readPairs p.text 1, s) := by
  rw [loadPairs, Work.run_bind, Work.holds, Work.run_look, linesAt]
  cases s.store.holds p with
  | error e => rfl
  | ok found =>
      cases found with
      | false => rfl
      | true =>
          show (Work.look (fun s => s.store.lines p >>= Json.records p.text) >>=
            fun values => Work.ofExcept (readPairs p.text 1 values)).run s = _
          rw [Work.run_look_bind, bind_assoc]
          rfl

/-- A runner is made as it is asked for, and scores the pairs of a file. -/
def runNamed (registry : Registry Float) (named : Named) (p : Path) (limit : Option Int)
    (folder : Option Path) : Work (List (Record Float)) := do
  let r ← Work.ofExcept (Runner.ofNamed registry named)
  runFile r p limit folder

/-! ## Each phase is finished before the next one begins -/

section Phases

variable {registry : Registry Float} {named : Named} {r : Runner Float} {p : Path}
  {limit : Option Int} {folder : Option Path} {s : Session} {e : Fault}

theorem runNamed_of_runner_error (h : Runner.ofNamed registry named = .error e) :
    (runNamed registry named p limit folder).run s = (.error e, s) := by
  rw [runNamed, h]
  rfl

theorem runNamed_of_runner (h : Runner.ofNamed registry named = .ok r) :
    (runNamed registry named p limit folder).run s = (runFile r p limit folder).run s := by
  rw [runNamed, h]
  rfl

theorem runFile_of_load_error (h : (loadPairs p).run s = (.error e, s)) :
    (runFile r p limit folder).run s = (.error e, s) :=
  Work.run_bind_of_error h _

theorem runFile_of_lines_error (h : linesAt s.store p = .error e) :
    (runFile r p limit folder).run s = (.error e, s) := by
  refine runFile_of_load_error ?_
  rw [loadPairs_run, h]
  rfl

theorem runFile_of_records_error {t : Text.Streamed} (ht : linesAt s.store p = .ok t)
    (h : Json.records p.text t = .error e) :
    (runFile r p limit folder).run s = (.error e, s) := by
  refine runFile_of_load_error ?_
  rw [loadPairs_run, ht]
  show (Json.records p.text t >>= readPairs p.text 1, s) = _
  rw [h]
  rfl

theorem loadPairs_of_records {t : Text.Streamed} {vs : List Value}
    (ht : linesAt s.store p = .ok t) (hvs : Json.records p.text t = .ok vs) :
    (loadPairs p).run s = (readPairs p.text 1 vs, s) := by
  rw [loadPairs_run, ht]
  show (Json.records p.text t >>= readPairs p.text 1, s) = _
  rw [hvs]
  rfl

theorem runPairs_of_error {pairs : List Pair} (h : r.records 1 pairs = .error e) :
    ∃ journal, (runPairs r pairs folder).run s = (.error e, { s with journal := journal }) := by
  obtain ⟨journal, hscore⟩ := scoreFrom_run r pairs 1 s
  rw [h] at hscore
  exact ⟨journal, Work.run_bind_of_error hscore _⟩

/-- Scoring comes before writing, and of the session it changes nothing but the journal. -/
theorem runFile_of_score_error {pairs : List Pair} (hload : (loadPairs p).run s = (.ok pairs, s))
    (h : r.records 1 (Ranking.upTo limit pairs) = .error e) :
    ∃ journal, (runFile r p limit folder).run s
      = (.error e, { s with journal := journal }) := by
  rw [runFile, Work.run_bind_of_ok hload, Work.run_bind_of_ok (Work.run_report _ _ _)]
  exact runPairs_of_error h

end Phases

/-! ## Which fault a phase has -/

theorem pair_read_error {v : Value} {e : Fault} (h : Pair.read v = .error e) :
    ∃ complaints, e = .invalid complaints := by
  unfold Pair.read at h
  split at h
  · dsimp only at h
    split at h
    · exact nomatch h
    · exact ⟨_, (Except.error.inj h).symm⟩
  · exact ⟨_, (Except.error.inj h).symm⟩

theorem readPair_eq_error {path : String} {place : Nat} {v : Value} {e : Fault} :
    readPair path place v = .error e ↔ ∃ complaints, Pair.read v = .error (.invalid complaints) ∧
      e = .invalidPair place path complaints := by
  rw [readPair]
  cases hread : Pair.read v with
  | ok q =>
      constructor
      · rintro ⟨⟩
      · rintro ⟨complaints, ⟨⟩, -⟩
  | error e' =>
      obtain ⟨complaints, rfl⟩ := pair_read_error hread
      constructor
      · intro h
        exact ⟨complaints, rfl, (Except.error.inj h).symm⟩
      · rintro ⟨complaints', hcomplaints, rfl⟩
        cases hcomplaints
        rfl

/-- The first value that is no pair is the one that is complained of. -/
theorem readPairs_eq_error {path : String} {vs : List Value} {i : Nat} {v : Value} {e : Fault}
    (hv : vs[i]? = some v) (he : Pair.read v = .error e) :
    ∃ j ≤ i, ∃ v' complaints, vs[j]? = some v' ∧ Pair.read v' = .error (.invalid complaints) ∧
      readPairs path 1 vs = .error (.invalidPair (j + 1) path complaints) := by
  obtain ⟨complaints, rfl⟩ := pair_read_error he
  have hplaced : (vs.zipIdx 1)[i]? = some (v, 1 + i) := by
    rw [List.getElem?_zipIdx, hv]
    rfl
  obtain ⟨j, hj, ⟨v', place⟩, e', hv', he', hpairs⟩ :=
    mapM_eq_error (f := fun v : Value × Nat => readPair path v.2 v.1) hplaced
      (readPair_eq_error.mpr ⟨complaints, he, rfl⟩)
  rw [List.getElem?_zipIdx, Option.map_eq_some_iff] at hv'
  obtain ⟨_, hget, hpair⟩ := hv'
  obtain ⟨rfl, rfl⟩ := Prod.mk.inj hpair
  obtain ⟨complaints', hread, rfl⟩ := readPair_eq_error.mp he'
  refine ⟨j, hj, _, complaints', hget, hread, ?_⟩
  rw [readPairs_eq, hpairs, Nat.add_comm]

theorem record_eq_error {r : Runner Float} {place : Nat} {q : Pair} {e : Fault} :
    r.record place q = .error e ↔ r.score q.left q.right = .error e := by
  rw [Runner.record]
  cases r.score q.left q.right with
  | ok score => simp [Except.map]
  | error e' => simp [Except.map]

/-- The first pair that cannot be scored is the one that stops the scoring. -/
theorem records_eq_error {r : Runner Float} {pairs : List Pair} {i : Nat} {q : Pair} {e : Fault}
    (hq : pairs[i]? = some q) (he : r.score q.left q.right = .error e) :
    ∃ j ≤ i, ∃ q' e', pairs[j]? = some q' ∧ r.score q'.left q'.right = .error e' ∧
      r.records 1 pairs = .error e' := by
  have hplaced : (pairs.zipIdx 1)[i]? = some (q, 1 + i) := by
    rw [List.getElem?_zipIdx, hq]
    rfl
  obtain ⟨j, hj, ⟨q', place⟩, e', hq', he', hrecords⟩ :=
    mapM_eq_error (f := fun q : Pair × Nat => r.record q.2 q.1) hplaced (record_eq_error.mpr he)
  rw [List.getElem?_zipIdx, Option.map_eq_some_iff] at hq'
  obtain ⟨_, hget, hpair⟩ := hq'
  obtain ⟨rfl, rfl⟩ := Prod.mk.inj hpair
  exact ⟨j, hj, _, e', hget, record_eq_error.mp he', hrecords⟩

/-- **A RUN THAT FAILS BEFORE IT WRITES LEAVES THE STORE AS IT WAS**.  The phases come one after
    the other: the runner is made; the file is looked for and its lines are read, all of them
    whatever the limit is; all values are taken for pairs; and the pairs up to the limit are
    scored.  The fault of the run is that of the first phase that has one, and there the one of
    the first line, value or pair that has one.  Only when pairs were scored is there anything
    new, and that is in the journal. -/
theorem failed_run_writes_nothing (registry : Registry Float) (named : Named) (p : Path)
    (limit : Option Int) (folder : Option Path) (s : Session) :
    let run := (runNamed registry named p limit folder).run s
    (∀ e, Runner.ofNamed registry named = .error e → run = (.error e, s)) ∧
    ∀ r, Runner.ofNamed registry named = .ok r →
      (∀ e, linesAt s.store p = .error e → run = (.error e, s)) ∧
      ∀ t, linesAt s.store p = .ok t →
        (∀ (i : Nat) l e, t.lines[i]? = some l → Json.lineFault? p.text (i + 1) l = some e →
          ∃ j ≤ i, ∃ l' e', t.lines[j]? = some l' ∧
            Json.lineFault? p.text (j + 1) l' = some e' ∧ run = (.error e', s)) ∧
        ((∀ (i : Nat) l, t.lines[i]? = some l → Json.lineFault? p.text (i + 1) l = none) →
          (∀ f, t.fault = some f → run = (.error (.notUtf8 f), s)) ∧
          (t.fault = none → ∃ vs, Json.records p.text t = .ok vs)) ∧
        ∀ vs, Json.records p.text t = .ok vs →
          (∀ (i : Nat) v e, vs[i]? = some v → Pair.read v = .error e →
            ∃ j ≤ i, ∃ v' complaints, vs[j]? = some v' ∧
              Pair.read v' = .error (.invalid complaints) ∧
              run = (.error (.invalidPair (j + 1) p.text complaints), s)) ∧
          ∀ pairs, readPairs p.text 1 vs = .ok pairs →
            ∀ (i : Nat) (q : Pair) (e : Fault), (Ranking.upTo limit pairs)[i]? = some q →
              r.score q.left q.right = .error e →
              ∃ j ≤ i, ∃ (q' : Pair) (e' : Fault) (journal : Journal),
                (Ranking.upTo limit pairs)[j]? = some q' ∧
                r.score q'.left q'.right = .error e' ∧
                run = (.error e', { s with journal := journal }) := by
  intro run
  refine ⟨fun e he => runNamed_of_runner_error he, fun r hr => ?_⟩
  have hrun : run = (runFile r p limit folder).run s := runNamed_of_runner hr
  rw [hrun]
  refine ⟨fun e he => runFile_of_lines_error he, fun t ht => ⟨?_, ?_, fun vs hvs => ⟨?_, ?_⟩⟩⟩
  · -- A line is no JSON.
    intro i l e hl he
    obtain ⟨j, hj, l', e', hl', he', hrecords⟩ := Json.records_eq_error hl he
    exact ⟨j, hj, l', e', hl', he', runFile_of_records_error ht hrecords⟩
  · -- All lines that can be read are, and there may be bytes behind them.
    intro hlines
    obtain ⟨hfault, hall⟩ := Json.records_of_lines hlines
    exact ⟨fun f hf => runFile_of_records_error ht (hfault f hf), hall⟩
  · -- A value is no pair.
    intro i v e hv he
    obtain ⟨j, hj, v', complaints, hv', he', hpairs⟩ := readPairs_eq_error hv he
    refine ⟨j, hj, v', complaints, hv', he', runFile_of_load_error ?_⟩
    rw [loadPairs_of_records ht hvs, hpairs]
  · -- A pair cannot be scored.
    intro pairs hpairs i q e hq he
    obtain ⟨j, hj, q', e', hq', he', hrecords⟩ := records_eq_error hq he
    have hload : (loadPairs p).run s = (.ok pairs, s) := by
      rw [loadPairs_of_records ht hvs, hpairs]
    obtain ⟨journal, hscore⟩ := runFile_of_score_error hload hrecords
    exact ⟨j, hj, q', e', journal, hq', he', hscore⟩

/-- Files of pairs of which the limit selects only the first line: in one a later line is no
    JSON behind one that is no pair, in another a later value is no pair, and in the third the
    metric that was registered scores nothing.  What an earlier run left stays. -/
theorem failed_run_writes_nothing_beyond_limit :
    let pair := "\x7b\"left\": \"a\", \"right\": \"b\"\x7d\n"
    let file (name text : String) : Key × List UInt8 := ([name], Text.Utf8.encode text.toList)
    let s : Session := {
      store := ⟨[file "broken" (pair ++ "[]\n\n[1,\n"), file "odd" (pair ++ "[]\n"),
        file "fine" pair, (["out", "trace.jsonl"], [1, 2, 3])], [["out"]]⟩
      journal := .silent, screen := [], now := ⟨2024, 5, 6, 7, 8, 9, 0⟩ }
    let folder : Option Path := some ⟨"", ["out"]⟩
    let refusing : Metric Float := ⟨"refusing", true, true, fun _ _ => .error .wrongKind⟩
    (∃ e, (runNamed .builtin [] ⟨"", ["broken"]⟩ (some 1) folder).run s = (.error e, s)) ∧
    (∃ place complaints, (runNamed .builtin [] ⟨"", ["odd"]⟩ (some 1) folder).run s
      = (.error (.invalidPair place "odd" complaints), s)) ∧
    ∃ e journal, (runNamed ⟨[("refusing", .plain refusing)]⟩ [("metric_name", .text "refusing")]
      ⟨"", ["fine"]⟩ (some 1) folder).run s = (.error e, { s with journal := journal }) := by
  intro pair file s folder refusing
  have hbroken := failed_run_writes_nothing .builtin [] ⟨"", ["broken"]⟩ (some 1) folder s
  have hodd := failed_run_writes_nothing .builtin [] ⟨"", ["odd"]⟩ (some 1) folder s
  have hfine := failed_run_writes_nothing ⟨[("refusing", .plain refusing)]⟩
    [("metric_name", .text "refusing")] ⟨"", ["fine"]⟩ (some 1) folder s
  refine ⟨?_, ?_, ?_⟩
  · have hline : (Text.streamLines (Text.Utf8.encode (pair ++ "[]\n\n[1,\n").toList)).lines[3]?
        = some "[1,".toList := by decide +kernel
    obtain ⟨-, -, -, e, -, -, h⟩ := ((hbroken.2 _ rfl).2 _ rfl).1 3 _ _ hline rfl
    exact ⟨e, h⟩
  · have hcheck : (match Json.records "odd"
          (Text.streamLines (Text.Utf8.encode (pair ++ "[]\n").toList)) with
        | .ok vs => vs[1]?.any fun v => !(Pair.read v).toBool
        | .error _ => false) = true := by decide +kernel
    split at hcheck
    · rename_i vs hvs
      cases hv : vs[1]? with
      | none => simp [hv] at hcheck
      | some v =>
          cases hread : Pair.read v with
          | ok q => simp [hv, hread, Except.toBool] at hcheck
          | error e =>
              obtain ⟨j, -, -, complaints, -, -, h⟩ :=
                (((hodd.2 _ rfl).2 _ rfl).2.2 vs hvs).1 1 v e hv hread
              exact ⟨j + 1, complaints, h⟩
    · exact nomatch hcheck
  · have hcheck : (match Json.records "fine" (Text.streamLines (Text.Utf8.encode pair.toList)) with
        | .ok vs =>
          match readPairs "fine" 1 vs with
          | .ok pairs => (Ranking.upTo (some 1) pairs)[0]?.isSome
          | .error _ => false
        | .error _ => false) = true := by decide +kernel
    split at hcheck
    · rename_i vs hvs
      split at hcheck
      · rename_i pairs hpairs
        obtain ⟨q, hq⟩ := Option.isSome_iff_exists.mp hcheck
        obtain ⟨-, -, -, e, journal, -, -, h⟩ :=
          (((hfine.2 _ rfl).2 _ rfl).2.2 vs hvs).2 pairs hpairs 0 q _ hq rfl
        exact ⟨e, journal, h⟩
      · exact nomatch hcheck
    · exact nomatch hcheck

end Batch

end Likeness
