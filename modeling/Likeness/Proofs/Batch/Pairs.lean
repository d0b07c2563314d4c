import Likeness.Batch.Summary
import Likeness.Proofs.Batch.Failures
import Likeness.Proofs.Json.Files
import Likeness.Proofs.Metric.Optimum
import Likeness.Proofs.Settings.Range

/-! # Files of pairs

    A file of pairs has one on each line that is not blank.  Pairs without an identifier
    are numbered when the file is read, and those with an empty one when they are scored.
    Both count the lines that are not blank, for blank lines are dropped before and a
    limit drops only what is behind it, so the two numbers are the same one
    (`Runner.pairId_numbered`).

    The main result is `Batch.runFile_records`: the records of a file are those of its
    lines, in their order and with their numbers. -/

namespace Likeness

/-! ## Pairs -/

theorem Value.field?_mem {name : String} {entries : List (Value × Value)} {v : Value}
    (h : field? name entries = some v) : ∃ e ∈ entries, e.2 = v := by
  induction entries with
  | nil => exact nomatch h
  | cons e es ih =>
      obtain ⟨k, v'⟩ := e
      have hrest : field? name es = some v → ∃ e ∈ (k, v') :: es, e.2 = v := by
        intro hes
        obtain ⟨e, he, hvalue⟩ := ih hes
        exact ⟨e, List.mem_cons_of_mem _ he, hvalue⟩
      cases k with
      | text key =>
          rw [field?] at h
          split_ifs at h
          · exact ⟨_, List.mem_cons_self, Option.some.inj h⟩
          · exact hrest h
      | _ => exact hrest h

/-- The text of a field that is not made of octets is that text. -/
theorem Schema.text_eq_ok {v : Value} {s : String} (hv : Json.isOctets v = false)
    (h : text v = .ok s) : v = .text s := by
  cases v with
  | text t => exact congrArg Value.text (Except.ok.inj h)
  | bytes frozen octets => exact nomatch hv
  | _ => exact nomatch h

theorem Schema.required_eq_ok {α : Type} {entries : List (Value × Value)} {name : String} {x : α}
    {read : Value → Except Problem α} (h : required entries name read = .ok x) :
    ∃ v, Value.field? name entries = some v ∧ read v = .ok x := by
  rw [required] at h
  cases hfield : Value.field? name entries with
  | none =>
      rw [hfield] at h
      exact nomatch h
  | some v =>
      rw [hfield] at h
      exact ⟨v, rfl, mapError_eq_ok h⟩

theorem Schema.nullable_eq_ok {α : Type} {v : Value} {x : Option α}
    {read : Value → Except Problem α} (h : nullable read v = .ok x) :
    v = .null ∧ x = none ∨ ∃ y, read v = .ok y ∧ x = some y := by
  unfold nullable at h
  split at h
  · exact .inl ⟨rfl, (Except.ok.inj h).symm⟩
  · obtain ⟨y, hy, rfl⟩ := map_eq_ok h
    exact .inr ⟨y, hy, rfl⟩

/-- What the identifier of a pair is read from. -/
inductive Pair.IdField : Option Value → Option String → Prop where
  | missing : IdField none none
  | null : IdField (some .null) none
  | text (name : String) : IdField (some (.text name)) (some name)

/-- The pair that the entries of an object say. -/
structure Pair.Says (entries : List (Value × Value)) (q : Pair) : Prop where
  id : IdField (Value.field? "id" entries) q.id
  left : Value.field? "left" entries = some (.text q.left)
  right : Value.field? "right" entries = some (.text q.right)

/-- A pair was read from an object that says it. -/
theorem Pair.says_of_read {cs : List Char} {v : Value} {q : Pair} (hv : Json.read cs = .ok v)
    (h : Pair.read v = .ok q) : ∃ entries, v = .dict entries ∧ q.Says entries := by
  cases v with
  | dict entries =>
      have htext : ∀ {name value s}, Value.field? name entries = some value →
          Schema.text value = .ok s → Value.field? name entries = some (.text s) := by
        intro name value s hfield hread
        obtain ⟨e, he, rfl⟩ := Value.field?_mem hfield
        rw [hfield, Schema.text_eq_ok (Json.read_not_octets hv e he) hread]
      rw [Pair.read] at h
      split at h
      · rename_i id left right hid hleft hright
        obtain rfl := Except.ok.inj h
        obtain ⟨v, hfield, hread⟩ := Schema.required_eq_ok hleft
        obtain ⟨w, hfield', hread'⟩ := Schema.required_eq_ok hright
        refine ⟨entries, rfl, ?_, htext hfield hread, htext hfield' hread'⟩
        rcases Schema.optional_eq_ok hid with ⟨hnone, rfl⟩ | ⟨v, hv, hread⟩
        · rw [hnone]
          exact .missing
        · rcases Schema.nullable_eq_ok hread with ⟨rfl, rfl⟩ | ⟨name, hname, rfl⟩
          · rw [hv]
            exact .null
          · rw [htext hv hname]
            exact .text name
      · exact nomatch h
  | _ => exact nomatch h

/-! ## The records of pairs -/

variable {K : Type} [Scalar K]

theorem Ranking.getElem?_upTo {α : Type} {limit : Option Int} {xs : List α} {i : Nat} {x : α} :
    (upTo limit xs)[i]? = some x ↔ xs[i]? = some x ∧ ∀ n, limit = some n → i < n.toNat := by
  cases limit with
  | none => simp [upTo]
  | some n => simp [upTo, List.getElem?_take, and_comm]

theorem Pair.numbered_left (place : Nat) (q : Pair) : (q.numbered place).left = q.left := by
  obtain ⟨id, left, right⟩ := q
  cases id with
  | some id => rfl
  | none => rfl

theorem Pair.numbered_right (place : Nat) (q : Pair) : (q.numbered place).right = q.right := by
  obtain ⟨id, left, right⟩ := q
  cases id with
  | some id => rfl
  | none => rfl

namespace Runner

open Pair (numbered_left numbered_right)

/-- The identifier of a pair that was numbered by its place is the one that it gets for its
    place without. -/
theorem pairId_numbered (place : Nat) (q : Pair) :
    pairId place (q.numbered place) = pairId place q := by
  obtain ⟨id, left, right⟩ := q
  cases id with
  | some id => rfl
  | none =>
      show (if Pair.placeId place = "" then Pair.placeId place else Pair.placeId place) = _
      exact ite_self _

/-- The record of a pair, by its place. -/
structure Recorded (r : Runner K) (place : Nat) (q : Pair) (record : Record K) : Prop where
  pairId : record.pairId = pairId place q
  left : record.left = q.left
  right : record.right = q.right
  metric : record.metric = r.name
  score : r.score q.left q.right = .ok record.score
  exceeded : record.exceeded = if r.bounded then some (isSentinel record.score) else none

theorem record_of_score {r : Runner K} {q : Pair} {score : Score K}
    (h : r.score q.left q.right = .ok score) (place : Nat) :
    ∃ record, r.record place q = .ok record ∧ r.Recorded place q record := by
  refine ⟨⟨pairId place q, q.left, q.right, r.name, score,
    if r.bounded then some (isSentinel score) else none⟩, ?_, ⟨rfl, rfl, rfl, rfl, h, rfl⟩⟩
  rw [record, h]
  rfl

/-- The records of pairs that are all scored. -/
theorem exists_records {r : Runner K} {qs : List Pair}
    (h : ∀ q ∈ qs, ∃ score, r.score q.left q.right = .ok score) (place : Nat) :
    ∃ records, r.records place qs = .ok records ∧ records.length = qs.length ∧
      ∀ (i : Nat) record, records[i]? = some record →
        ∃ q, qs[i]? = some q ∧ r.Recorded (place + i) q record := by
  refine exists_mapM_zipIdx fun q hq i => ?_
  obtain ⟨score, hscore⟩ := h q hq
  exact record_of_score hscore i

/-- The record of the entries of an object, by its number among the lines that hold something. -/
structure RecordedEntries (r : Runner K) (number : Nat) (entries : List (Value × Value))
    (record : Record K) : Prop where
  left : Value.field? "left" entries = some (.text record.left)
  right : Value.field? "right" entries = some (.text record.right)
  /-- An identifier that is not empty is kept. -/
  ownId : ∀ id, Value.field? "id" entries = some (.text id) → id ≠ "" → record.pairId = id
  /-- One that is missing, null or empty gives way to the number. -/
  placeId : (∀ id, Value.field? "id" entries = some (.text id) → id = "") →
    record.pairId = Pair.placeId number
  metric : record.metric = r.name
  /-- The texts are scored with case folded, if so asked. -/
  score : r.metric.score (.text (foldedIf r.casefold record.left))
    (.text (foldedIf r.casefold record.right)) = .ok record.score
  exceeded : record.exceeded = if r.bounded then some (isSentinel record.score) else none

theorem Recorded.entries {r : Runner K} {number : Nat} {entries : List (Value × Value)} {q : Pair}
    {record : Record K} (hsaid : q.Says entries)
    (h : r.Recorded number (q.numbered number) record) :
    r.RecordedEntries number entries record := by
  have hleft : record.left = q.left := h.left.trans (numbered_left number q)
  have hright : record.right = q.right := h.right.trans (numbered_right number q)
  have hid : record.pairId = Runner.pairId number q := h.pairId.trans (pairId_numbered number q)
  refine ⟨hleft ▸ hsaid.left, hright ▸ hsaid.right, ?_, ?_, h.metric, ?_, h.exceeded⟩
  · intro id hfield hne
    have hown := hsaid.id
    rw [hfield] at hown
    generalize hq : q.id = own at hown
    cases hown with
    | text =>
        rw [hid, Runner.pairId, hq]
        exact if_neg hne
  · intro hempty
    have hown := hsaid.id
    generalize hq : q.id = own at hown
    generalize hfield : Value.field? "id" entries = field at hown hempty
    rw [hid, Runner.pairId, hq]
    cases hown with
    | missing => rfl
    | null => rfl
    | text name => exact if_pos (hempty name rfl)
  · have hscore := h.score
    rw [← h.left, ← h.right] at hscore
    exact hscore

end Runner

/-! ## The records of a file -/

namespace Batch

section Loading

variable {p : Path} {s : Session} {t : Text.Streamed}

/-- The pairs of a file are those of its lines, each with its number. -/
theorem exists_loadPairs (ht : linesAt s.store p = .ok t) (hfault : t.fault = none)
    (hvalid : ∀ l ∈ Json.filled t.lines, ∃ v q, Json.read l = .ok v ∧ Pair.read v = .ok q) :
    ∃ qs, (loadPairs p).run s = (.ok qs, s) ∧ qs.length = (Json.filled t.lines).length ∧
      ∀ (i : Nat) q, qs[i]? = some q → ∃ l entries q', (Json.filled t.lines)[i]? = some l ∧
        Json.read l = .ok (.dict entries) ∧ Pair.read (.dict entries) = .ok q' ∧
        q'.Says entries ∧ q = q'.numbered (1 + i) := by
  obtain ⟨vs, hvs, hall⟩ := mapM_total (P := fun l v => Json.read l = .ok v) fun l hl => by
    obtain ⟨v, -, hv, -⟩ := hvalid l hl
    exact ⟨v, hv, hv⟩
  have hpair : ∀ v ∈ vs, ∀ place, ∃ q, readPair p.text place v = .ok q ∧
      ∃ q', Pair.read v = .ok q' ∧ q = q'.numbered place := by
    intro v hv place
    obtain ⟨l, hl, hread⟩ := mem_of_mapM hvs hv
    obtain ⟨v', q, hread', hq⟩ := hvalid l hl
    obtain rfl := Except.ok.inj (hread.symm.trans hread')
    refine ⟨_, ?_, q, hq, rfl⟩
    rw [readPair, hq]
    rfl
  obtain ⟨qs, hqs, hlength, heach⟩ := exists_mapM_zipIdx hpair
  have hrecords : Json.records p.text t = .ok vs := by
    rw [Json.records, Json.linesFrom_filled hvs, hfault]
    rfl
  refine ⟨qs, ?_, hlength.trans hall.length_eq.symm, fun i q hi => ?_⟩
  · rw [loadPairs_of_records ht hrecords, readPairs_eq, hqs]
  · obtain ⟨v, hv, q', hq', hnumbered⟩ := heach i q hi
    obtain ⟨hlt, rfl⟩ := List.getElem?_eq_some_iff.mp hv
    have hl : i < (Json.filled t.lines).length := hall.length_eq ▸ hlt
    have hread : Json.read (Json.filled t.lines)[i] = .ok vs[i] := hall.get hl hlt
    obtain ⟨entries, hentries, hsaid⟩ := Pair.says_of_read hread hq'
    rw [hentries] at hread hq'
    exact ⟨_, entries, q', List.getElem?_eq_getElem hl, hread, hq', hsaid, hnumbered⟩

/-- What was loaded is scored up to the limit. -/
theorem runFile_of_load {r : Runner Float} {limit : Option Int} {folder : Option Path}
    {qs : List Pair} (hload : (loadPairs p).run s = (.ok qs, s)) :
    ∃ s', (runFile r p limit folder).run s
      = (runPairs r (Ranking.upTo limit qs) folder).run s' := by
  rw [runFile, Work.run_bind_of_ok hload, Work.run_bind_of_ok (Work.run_report _ _ _)]
  exact ⟨_, rfl⟩

/-- A run without a folder finds the records of its pairs, and no other run finds others. -/
theorem runFile_records_of_load {r : Runner Float} {limit : Option Int} {qs : List Pair}
    {records : List (Record Float)} (hload : (loadPairs p).run s = (.ok qs, s))
    (hrecords : r.records 1 (Ranking.upTo limit qs) = .ok records) :
    ((runFile r p limit none).run s).1 = .ok records ∧
      ∀ folder found s', (runFile r p limit folder).run s = (.ok found, s') → found = records := by
  have hnone : ((runFile r p limit none).run s).1 = .ok records := by
    obtain ⟨s', hrun⟩ := runFile_of_load hload
    rw [hrun, runPairs_none, hrecords]
  refine ⟨hnone, fun folder found s' hfound => ?_⟩
  cases folder with
  | none =>
      rw [hfound] at hnone
      exact Except.ok.inj hnone
  | some folder =>
      obtain ⟨s₁, hrun⟩ := runFile_of_load hload
      rw [hrun] at hfound
      obtain ⟨hfound, -⟩ := runPairs_eq_ok hfound
      exact Except.ok.inj (hfound.symm.trans hrecords)

end Loading

/-- **THE RECORDS OF A FILE ARE THOSE OF ITS LINES.**  When every line that is not blank says a
    pair, and the metric scores those up to the limit, a run finds a record for each of them, in
    their order, and a limit below zero counts as zero.  A record has the texts of its line as
    they are, the score of these texts, with case folded if so asked, and the identifier of its
    line; one that is missing, null or empty gives way to the number of the line among those
    that are not blank.  A built-in metric scores all texts, of which none is longer than the
    largest size there is. -/
theorem runFile_records {p : Path} {s : Session} {t : Text.Streamed}
    (ht : linesAt s.store p = .ok t) (hfault : t.fault = none)
    (hvalid : ∀ l ∈ Json.filled t.lines, ∃ v q, Json.read l = .ok v ∧ Pair.read v = .ok q) :
    (∀ (r : Runner Float) (limit : Option Int),
      (∀ l ∈ Ranking.upTo limit (Json.filled t.lines), ∀ v q, Json.read l = .ok v →
        Pair.read v = .ok q → ∃ score, r.score q.left q.right = .ok score) →
      ∃ records, ((runFile r p limit none).run s).1 = .ok records ∧
        (∀ folder found s', (runFile r p limit folder).run s = (.ok found, s') →
          found = records) ∧
        (limit = none → records.length = (Json.filled t.lines).length) ∧
        (∀ n, limit = some n →
          (records.length : Int) = min ((Json.filled t.lines).length : Int) (max n 0)) ∧
        ∀ (i : Nat) record, records[i]? = some record →
          ∃ l entries, (Json.filled t.lines)[i]? = some l ∧ Json.read l = .ok (.dict entries) ∧
            r.RecordedEntries (i + 1) entries record) ∧
    ∀ r : Runner Float, r.metric.Proper → ∀ left right : String,
      (foldedIf r.casefold left).toList.length ≤ Edit.unreachable →
      (foldedIf r.casefold right).toList.length ≤ Edit.unreachable →
      ∃ score, r.score left right = .ok score := by
  constructor
  · intro r limit hscore
    obtain ⟨qs, hload, hlength, hlines⟩ := exists_loadPairs ht hfault hvalid
    have hselected : ∀ q ∈ Ranking.upTo limit qs, ∃ score, r.score q.left q.right = .ok score := by
      intro q hq
      obtain ⟨i, hi⟩ := List.mem_iff_getElem?.mp hq
      obtain ⟨hq, hlimit⟩ := Ranking.getElem?_upTo.mp hi
      obtain ⟨l, entries, q', hl, hread, hpair, -, rfl⟩ := hlines i q hq
      rw [Pair.numbered_left, Pair.numbered_right]
      have hmem := List.mem_of_getElem? (Ranking.getElem?_upTo.mpr ⟨hl, hlimit⟩)
      exact hscore l hmem _ q' hread hpair
    obtain ⟨records, hrecords, hcount, heach⟩ := Runner.exists_records hselected 1
    obtain ⟨hrun, hsame⟩ := runFile_records_of_load hload hrecords
    refine ⟨records, hrun, hsame, ?_, ?_, ?_⟩
    · rintro rfl
      exact hcount.trans hlength
    · rintro n rfl
      rw [hcount, Ranking.upTo, List.length_take, hlength]
      omega
    · intro i record hi
      obtain ⟨q, hq, hrecorded⟩ := heach i record hi
      obtain ⟨l, entries, q', hl, hread, -, hsaid, rfl⟩ := hlines i q (Ranking.getElem?_upTo.mp hq).1
      rw [Nat.add_comm] at hrecorded
      exact ⟨l, entries, hl, hread, hrecorded.entries hsaid⟩
  · intro r hr left right hleft hright
    obtain ⟨kind, best, hbest⟩ := hr.exists_best hright
    obtain ⟨score, hscore, -⟩ := hbest.found _ hleft
    exact ⟨score, hscore⟩

/-- Two of three pairs behind blank lines by the edit distance, with case folded: the first has
    no identifier, and that of the second is empty. -/
theorem runFile_records_unnamed :
    let text := "\n\x7b\"left\": \"A\", \"right\": \"a\"\x7d\n \t\n" ++
      "\x7b\"id\": \"\", \"left\": \"\", \"right\": \"b\"\x7d\n\n" ++
      "\x7b\"left\": \"\", \"right\": \"\"\x7d"
    let s : Session := {
      store := ⟨[(["pairs"], Text.Utf8.encode text.toList)], []⟩
      journal := .silent, screen := [], now := ⟨2024, 5, 6, 7, 8, 9, 0⟩ }
    ∃ records, ((runFile ⟨"levenshtein", .levenshtein, true, false⟩ ⟨"", ["pairs"]⟩ (some 2)
        none).run s).1 = .ok records ∧ records.length = 2 ∧
      ∃ record, records[1]? = some record ∧ record.pairId = "pair-2" := by
  intro text s
  let t := Text.streamLines (Text.Utf8.encode text.toList)
  let unnamed := "\x7b\"id\": \"\", \"left\": \"\", \"right\": \"b\"\x7d".toList
  have hlines : t.fault = none ∧ Json.filled t.lines
      = ["\x7b\"left\": \"A\", \"right\": \"a\"\x7d".toList, unnamed,
        "\x7b\"left\": \"\", \"right\": \"\"\x7d".toList] := by decide +kernel
  obtain ⟨hfault, hlines⟩ := hlines
  have hvalid : ∀ l ∈ Json.filled t.lines, ∃ v q, Json.read l = .ok v ∧ Pair.read v = .ok q := by
    intro l hl
    have hcheck : ((Json.filled t.lines).all fun l =>
        (Json.read l).toOption.any fun v => (Pair.read v).toOption.any fun _ => true) = true := by
      rw [hlines]
      decide +kernel
    obtain ⟨v, hv, hpair⟩ := exists_ok_of_any (List.all_eq_true.mp hcheck l hl)
    obtain ⟨q, hq, -⟩ := exists_ok_of_any hpair
    exact ⟨v, q, hv, hq⟩
  obtain ⟨hrecords, -⟩ := runFile_records (p := ⟨"", ["pairs"]⟩) (s := s) rfl hfault hvalid
  obtain ⟨records, hrun, -, -, hlimit, heach⟩ := hrecords
    ⟨"levenshtein", .levenshtein, true, false⟩ (some 2)
    fun _ _ _ q _ _ => ⟨_, levenshtein_texts _ _⟩
  have hlength : records.length = 2 := by
    have := hlimit 2 rfl
    rw [hlines] at this
    exact_mod_cast this
  obtain ⟨record, hrecord⟩ : ∃ record, records[1]? = some record :=
    ⟨_, List.getElem?_eq_getElem (by omega)⟩
  obtain ⟨l, entries, hl, hread, hentries⟩ := heach 1 record hrecord
  refine ⟨records, hrun, hlength, record, hrecord, hentries.placeId ?_⟩
  intro id hid
  rw [hlines] at hl
  obtain rfl : unnamed = l := Option.some.inj hl
  have hempty : ((Json.read unnamed).toOption.any fun v =>
      (Summary.recordField "id" v).toOption.any fun v => v.equal (.text "")) = true := by
    decide +kernel
  rw [hread] at hempty
  replace hempty : ((Value.field? "id" entries).getD .null).equal (.text "") = true := hempty
  rw [hid] at hempty
  exact eq_of_beq hempty

end Batch

end Likeness
