import Likeness.Command.Program
import Likeness.Proofs.Batch.Summary
import Likeness.Proofs.Command.Scoring
import Likeness.Proofs.Decimal.Characters
import Likeness.Proofs.Terminal.Escape

/-! # What is printed is markup

    Results are printed as markup, and not every text is markup.  Texts that come
    from outside are escaped, and an escaped text is markup wherever it stands
    (`Markup.reads_escape`).  All else that is printed is made of numbers and of the
    names of metrics, which have no character that markup takes for its own
    (`Markup.IsPlain`).

    The folder of a run is the exception: its text stands in markup as it is.  A
    folder that was not given is markup (`Shown.render_defaultFolder`); one that was
    given need not be. -/

namespace Likeness

/-! ## Texts without marks -/

namespace Terminal

namespace Markup

/-- None of the characters begins a tag, and none shields one. -/
def IsPlain (cs : List Char) : Prop := ∀ c ∈ cs, c ≠ '\\' ∧ c ≠ '['

instance (cs : List Char) : Decidable (IsPlain cs) :=
  List.decidableBAll (fun c => c ≠ '\\' ∧ c ≠ '[') cs

theorem IsPlain.append {cs ds : List Char} (hcs : IsPlain cs) (hds : IsPlain ds) :
    IsPlain (cs ++ ds) := by
  intro c hc
  rcases List.mem_append.mp hc with hc | hc
  · exact hcs c hc
  · exact hds c hc

theorem isPlain_numeral {cs : List Char} (h : cs.all Decimal.isNumeral = true) : IsPlain cs := by
  intro c hc
  have hnumeral := List.all_eq_true.mp h c hc
  constructor
  · rintro rfl
    exact absurd hnumeral (by decide)
  · rintro rfl
    exact absurd hnumeral (by decide)

/-- A text of plain characters is shown as it is. -/
theorem IsPlain.render {s : String} (h : IsPlain s.toList) : ∃ text, render s = .ok text :=
  render_plain fun hmem => (h '[' hmem).2 rfl

end Markup

open Markup (IsPlain Reads pieces slashes Apart)

/-- Plain characters can be read in colour. -/
theorem Shade.reads_around_plain (c : Shade) {cs : List Char} (h : IsPlain cs) :
    Reads [] (pieces (c.around cs)) :=
  c.reads_around fun _ _ hclosing => Markup.reads_append h (hclosing 0)

/-- So can an escaped text. -/
theorem Shade.reads_around_escape (c : Shade) (s : String) :
    Reads [] (pieces (c.around (Markup.escape s).toList)) :=
  c.reads_around fun _ hrest hclosing => Markup.reads_escape s hrest hclosing

end Terminal

open Terminal.Markup (IsPlain isPlain_numeral render)

/-! ## The names of metrics -/

theorem Registry.isPlain_name {K : Type} [Scalar K] {name : String} {kind : MetricKind K}
    (h : (builtin : Registry K).find? name = some kind) : IsPlain name.toList := by
  obtain ⟨rfl, -⟩ | ⟨rfl, -⟩ | ⟨rfl, -⟩ | ⟨rfl, -⟩ | ⟨rfl, -⟩ := find?_builtin h
  all_goals decide

namespace Scoring

variable {s : Settings} {asked : Option String} {bound : Option Int}

theorem isPlain_chosen {m : Metric Float}
    (h : metric Registry.builtin s asked bound = .ok m) :
    IsPlain (chosen s asked bound).toList := by
  obtain ⟨kind, hkind, -⟩ := Registry.make_eq_ok h
  exact Registry.isPlain_name hkind

theorem isPlain_runner {r : Runner Float} (h : runner Registry.builtin s asked bound = .ok r) :
    IsPlain r.name.toList := by
  obtain ⟨m, hm, hr⟩ := bind_eq_ok h
  obtain rfl := Except.ok.inj hr
  obtain ⟨kind, hkind, -⟩ := Registry.make_eq_ok hm
  exact Registry.isPlain_name hkind

end Scoring

/-! ## Lines -/

namespace Shown

theorem isPlain_score (places : Nat) (s : Score Float) : IsPlain (score places s).toList := by
  cases s with
  | whole n => exact isPlain_numeral (Decimal.intText_numeral n)
  | real x => exact isPlain_numeral (Decimal.fixedText_numeral places x)

/-- Whatever a run complains of, it can say so. -/
theorem render_complaint (message : String) : ∃ text, render (complaint message) = .ok text := by
  refine Terminal.Markup.Reads.render ?_
  have htext : (complaint message).toList
      = Terminal.Shade.red.around (Terminal.Markup.escape message).toList := by
    simp [complaint, Terminal.Shade.around, Terminal.Shade.name]
  rw [htext]
  exact Terminal.Shade.red.reads_around_escape message

theorem render_distance (threshold : Option Int) (s : Score Float) :
    ∃ text, render (distance threshold s) = .ok text := by
  unfold distance
  split
  · rename_i t
    refine Terminal.Markup.Reads.render ?_
    have htext : ("-1 [yellow](distance exceeds " ++ Decimal.intText t ++ ")[/yellow]").toList
        = "-1 ".toList ++ Terminal.Shade.yellow.around
            ("(distance exceeds ".toList ++ (Decimal.intText t).toList ++ [')']) := by
      simp [Terminal.Shade.around, Terminal.Shade.name]
    rw [htext]
    have hfront : IsPlain "-1 ".toList := by decide
    have hopening : IsPlain "(distance exceeds ".toList := by decide
    have hclosing : IsPlain [')'] := by decide
    exact Terminal.Markup.reads_append hfront (Terminal.Shade.yellow.reads_around_plain
      ((hopening.append (isPlain_numeral (Decimal.intText_numeral t))).append hclosing))
  · exact (isPlain_score 4 s).render

theorem toList_artefacts (folder : Path) :
    (artefacts folder).toList
      = "Artefacts written to ".toList ++ Terminal.Shade.green.around folder.text.toList := by
  have hopening : "Artefacts written to [green]".toList
      = "Artefacts written to ".toList ++ '[' :: (Terminal.Shade.green.name ++ [']']) := by decide
  have hclosing : "[/green]".toList = '[' :: ('/' :: Terminal.Shade.green.name ++ [']']) := by
    decide
  unfold artefacts
  rw [String.toList_append, String.toList_append, hopening, hclosing]
  simp only [Terminal.Shade.around, List.append_assoc, List.cons_append, List.nil_append]

theorem text_defaultFolder (now : Instant) (name : String) :
    (Program.defaultFolder now name).text.toList
      = "runs/".toList ++ (now.stamp.toList ++ ['_'] ++ name.toList) := by
  have hruns : Path.ofString "runs" = ⟨"", ["runs"]⟩ := by decide +kernel
  rw [Program.defaultFolder, hruns]
  simp [Path.child, Path.text]

theorem isPlain_stamp (t : Instant) : IsPlain t.stamp.toList := by
  have hpadded : ∀ width n, IsPlain (Instant.padded width n).toList := by
    intro width n
    rw [Instant.padded, String.toList_ofList]
    exact isPlain_numeral (Decimal.padLeft_numeral (Decimal.digitsOf_numeral n) width)
  have hline : IsPlain "_".toList := by decide
  have hdate := ((hpadded 4 t.year).append (hpadded 2 t.month)).append (hpadded 2 t.day)
  have htime := (hpadded 2 t.hour).append ((hpadded 2 t.minute).append (hpadded 2 t.second))
  have hstamp := (hdate.append hline).append htime
  simpa only [Instant.stamp, String.toList_append, List.append_assoc] using hstamp

/-- A folder whose name is plain can be named in markup. -/
theorem render_artefacts {folder : Path} (h : IsPlain folder.text.toList) :
    ∃ text, render (artefacts folder) = .ok text := by
  refine Terminal.Markup.Reads.render ?_
  have hfront : IsPlain "Artefacts written to ".toList := by decide
  rw [toList_artefacts]
  exact Terminal.Markup.reads_append hfront (Terminal.Shade.green.reads_around_plain h)

/-- So can the folder that a run makes for itself. -/
theorem render_defaultFolder (now : Instant) {name : String} (hname : IsPlain name.toList) :
    ∃ text, render (artefacts (Program.defaultFolder now name)) = .ok text := by
  have hruns : IsPlain "runs/".toList := by decide
  have hline : IsPlain ['_'] := by decide
  refine render_artefacts ?_
  rw [text_defaultFolder]
  exact hruns.append (((isPlain_stamp now).append hline).append hname)

/-! ## Tables -/

/-- Every part of a table is markup. -/
structure Renders (g : Terminal.Grid) : Prop where
  title : ∃ text, render g.title = .ok text
  columns : ∀ c ∈ g.columns, ∃ text, render c = .ok text
  rows : ∀ row ∈ g.rows, ∀ c ∈ row, ∃ text, render c = .ok text

/-- Texts that are plain are markup. -/
theorem render_all {cs : List String} (h : ∀ c ∈ cs, IsPlain c.toList) :
    ∀ c ∈ cs, ∃ text, render c = .ok text :=
  fun c hc => (h c hc).render

theorem metrics_renders : Renders (metrics (Registry.builtin (K := Float))) := by
  have htitle : IsPlain "Available Metrics".toList := by decide
  have hcolumns : ∀ c ∈ ["name", "kind"], IsPlain c.toList := by decide
  have hnames : ∀ name ∈ (Registry.builtin (K := Float)).sortedNames, IsPlain name.toList := by
    have hall : ∀ name ∈ (Registry.builtin (K := Float)).kinds.map (·.1), IsPlain name.toList :=
      (by decide : ∀ name ∈ ["levenshtein", "levenshtein_bounded", "jaro", "jaro_winkler",
        "fuzzy"], IsPlain name.toList)
    exact fun name hname => hall name (List.mem_mergeSort.mp hname)
  have hkind : ∀ b, IsPlain (kind b).toList := by decide
  constructor
  · exact htitle.render
  · exact render_all hcolumns
  · intro row hrow c hc
    obtain ⟨name, hname, rfl⟩ := List.mem_map.mp hrow
    simp only [List.mem_cons, List.not_mem_nil, or_false] at hc
    rcases hc with rfl | rfl
    · exact (hnames _ hname).render
    · exact (hkind _).render

theorem records_renders (rs : List (Record Float)) : Renders (records rs) := by
  have htitle : IsPlain "Batch Scores".toList := by decide
  have hcolumns : ∀ c ∈ ["pair_id", "left", "right", "score"], IsPlain c.toList := by decide
  constructor
  · exact htitle.render
  · exact render_all hcolumns
  · intro row hrow c hc
    obtain ⟨r, -, rfl⟩ := List.mem_map.mp hrow
    simp only [List.mem_cons, List.not_mem_nil, or_false] at hc
    rcases hc with rfl | rfl | rfl | rfl
    · exact Terminal.Markup.render_escape r.pairId
    · exact Terminal.Markup.render_escape r.left
    · exact Terminal.Markup.render_escape r.right
    · exact (isPlain_score 4 r.score).render

theorem matrix_renders {name : String} (hname : IsPlain name.toList) (items : List String)
    (scores : List (List (Score Float))) : Renders (matrix name items scores) := by
  have htitle : IsPlain " matrix".toList := by decide
  have hcorner : IsPlain "".toList := by decide
  constructor
  · refine IsPlain.render ?_
    rw [matrix, String.toList_append]
    exact hname.append htitle
  · rintro c hc
    rcases List.mem_cons.mp hc with rfl | hc
    · exact hcorner.render
    · obtain ⟨item, -, rfl⟩ := List.mem_map.mp hc
      exact Terminal.Markup.render_escape item
  · intro row hrow c hc
    obtain ⟨r, -, rfl⟩ := List.mem_map.mp hrow
    rcases List.mem_cons.mp hc with rfl | hc
    · exact Terminal.Markup.render_escape r.1
    · obtain ⟨s, -, rfl⟩ := List.mem_map.mp hc
      exact (isPlain_score 3 s).render

/-- A value that is a number, or nothing, is shown in plain characters. -/
theorem isPlain_figure {v : Value} (h : v = .null ∨ v.number?.isSome = true) :
    IsPlain (figure v).toList := by
  cases v with
  | null => exact (by decide : IsPlain "None".toList)
  | bool b =>
      cases b with
      | false => exact (by decide : IsPlain "False".toList)
      | true => exact (by decide : IsPlain "True".toList)
  | int n => exact isPlain_numeral (Decimal.intText_numeral n)
  | real x => exact isPlain_numeral (Decimal.fixedText_numeral 3 x)
  | nan _ =>
      exact isPlain_numeral (Decimal.Layout.text_numeral (by decide) (by decide) (0 / 0))
  | _ => simp [Value.number?] at h

theorem summary_renders {records : List Value} {s : Summary Float}
    (h : Summary.ofRecords records = .ok s) : Renders (summary s) := by
  obtain ⟨hleast, hgreatest, hmedian⟩ := Summary.ofRecords_numbers h
  have htitle : IsPlain "Run Summary".toList := by decide
  have hcolumns : ∀ c ∈ ["metric", "value"], IsPlain c.toList := by decide
  have hnames : ∀ e ∈ s.entries, IsPlain e.1.toList := by
    have hall : ∀ name ∈ s.entries.map (·.1), IsPlain name.toList :=
      (by decide : ∀ name ∈ ["num_pairs", "num_scored", "mean_score", "median_score", "min_score",
        "max_score", "exceeded_rate"], IsPlain name.toList)
    exact fun e he => hall e.1 (List.mem_map_of_mem he)
  have hscore : ∀ score : Score Float, (Value.ofScore score).number?.isSome = true := by
    intro score
    cases score with
    | whole n => rfl
    | real x => rfl
  have hfigures : ∀ e ∈ s.entries, e.2 = .null ∨ e.2.number?.isSome = true := by
    simp only [Summary.entries, List.forall_mem_cons, List.not_mem_nil, false_implies,
      implies_true, and_true]
    refine ⟨.inr rfl, .inr rfl, ?_, ?_, ?_, ?_, ?_⟩
    · cases s.mean with
      | none => exact .inl rfl
      | some score => exact .inr (hscore score)
    · cases hm : s.median with
      | none => exact .inl rfl
      | some found =>
          cases found with
          | inl v => exact .inr (hmedian v hm)
          | inr score => exact .inr (hscore score)
    · cases hl : s.least with
      | none => exact .inl rfl
      | some v => exact .inr (hleast v hl)
    · cases hg : s.greatest with
      | none => exact .inl rfl
      | some v => exact .inr (hgreatest v hg)
    · cases s.exceededRate with
      | none => exact .inl rfl
      | some rate => exact .inr rfl
  constructor
  · exact htitle.render
  · exact render_all hcolumns
  · intro row hrow c hc
    obtain ⟨e, he, rfl⟩ := List.mem_map.mp hrow
    simp only [List.mem_cons, List.not_mem_nil, or_false] at hc
    rcases hc with rfl | rfl
    · exact (hnames e he).render
    · exact (isPlain_figure (hfigures e he)).render

end Shown

end Likeness
