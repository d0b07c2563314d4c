import Likeness.Metric.Positional
import Likeness.Metric.Registry
import Likeness.Proofs.Results

/-! # What a registry remembers

    Kinds of metrics are registered one after another, and some calls are refused.
    Under a name there is the kind that was last registered with it, or the built-in
    one; names stay in the order in which they first arrived.

    One registration is the step: it keeps a registry `Proper`, and `lookup_put`
    says what is found afterwards.  The main result is `afterCalls_remembers`, for every
    history of calls. -/

namespace Likeness

variable {K : Type}

/-! ## Kinds that can be registered -/

/-- The kind has a name of its own.  One that was given none has the name of what it was
    derived from, which may be the name that no metric has. -/
def MetricKind.IsNamed (kind : MetricKind K) : Prop :=
  kind.name ≠ "" ∧ kind.name ≠ Registry.baseName

instance (kind : MetricKind K) : Decidable kind.IsNamed :=
  inferInstanceAs (Decidable (_ ∧ _))

namespace Registry

variable {r r' : Registry K} {name : String} {kind : MetricKind K}

/-- **WHAT IS REGISTERED**: a kind with a name of its own, whatever is registered already. -/
theorem register_eq (r : Registry K) (kind : MetricKind K) :
    r.register kind
      = if kind.IsNamed then .ok ⟨put kind.name kind r.kinds⟩ else .error .namelessMetric := by
  rw [register]
  by_cases h : kind.IsNamed
  · rw [if_pos h, if_neg (not_or.mpr h)]
  · rw [if_neg h, if_pos]
    exact Decidable.or_iff_not_not_and_not.mpr h

/-! ## Finding a kind -/

/-- A metric is made by the kind under its name, and refused where there is none. -/
theorem make_eq (r : Registry K) (name : String) (params : Named) :
    r.make name params
      = (r.find? name).elim (.error (.unknownMetric name r.sortedNames)) fun kind =>
          kind.make params := by
  rw [make]
  cases r.find? name with
  | none => rfl
  | some kind => rfl

theorem make_eq_ok {params : Named} {m : Metric K} (h : r.make name params = .ok m) :
    ∃ kind, r.find? name = some kind ∧ kind.make params = .ok m := by
  rw [make_eq] at h
  cases hkind : r.find? name with
  | none =>
      rw [hkind] at h
      exact nomatch h
  | some kind =>
      rw [hkind] at h
      exact ⟨kind, rfl, h⟩

/-- A kind that is found stands under its name. -/
theorem mem_of_find? (h : r.find? name = some kind) : (name, kind) ∈ r.kinds := by
  obtain ⟨front, rest, hkinds, -⟩ := List.lookup_eq_some_iff.mp h
  rw [hkinds]
  exact List.mem_append_right front List.mem_cons_self

/-- A name under which there is a metric is one of the names that are known. -/
theorem mem_sortedNames (h : r.find? name = some kind) : name ∈ r.sortedNames :=
  List.mem_mergeSort.mpr (List.mem_map_of_mem (mem_of_find? h))

/-- The kinds that are built in, by name. -/
theorem find?_builtin [Scalar K] (h : (builtin : Registry K).find? name = some kind) :
    (name = "levenshtein" ∧ kind = .plain .levenshtein) ∨
    (name = "levenshtein_bounded" ∧ kind = .bounded) ∨
    (name = "jaro" ∧ kind = .plain .jaro) ∨
    (name = "jaro_winkler" ∧ kind = .winkler) ∨
    (name = "fuzzy" ∧ kind = .plain .fuzzy) := by
  have hmem := mem_of_find? h
  simpa [builtin, MetricKind.plain, MetricKind.bounded, MetricKind.winkler,
    Metric.levenshtein, Metric.jaro, Metric.fuzzy] using hmem

/-! ## Putting a kind under a name -/

/-- The names in order of arrival. -/
def names (r : Registry K) : List String := r.kinds.map (·.1)

section Put

variable {kinds : List (String × MetricKind K)}

/-- A kind under a name that is present takes its place. -/
theorem put_of_mem (kind : MetricKind K) (h : name ∈ kinds.map (·.1)) :
    ∃ front old back, kinds = front ++ (name, old) :: back ∧
      put name kind kinds = front ++ (name, kind) :: back := by
  induction kinds with
  | nil => exact nomatch h
  | cons entry kinds ih =>
      obtain ⟨n, k⟩ := entry
      by_cases hn : n = name
      · subst hn
        exact ⟨[], k, kinds, rfl, if_pos rfl⟩
      · have hrest : name ∈ kinds.map (·.1) :=
          (List.mem_cons.mp h).resolve_left fun heq => hn heq.symm
        obtain ⟨front, old, back, hkinds, hput⟩ := ih hrest
        refine ⟨(n, k) :: front, old, back, congrArg _ hkinds, ?_⟩
        rw [put, if_neg hn, hput]
        rfl

/-- A kind under a new name comes last. -/
theorem put_of_not_mem (kind : MetricKind K) (h : name ∉ kinds.map (·.1)) :
    put name kind kinds = kinds ++ [(name, kind)] := by
  induction kinds with
  | nil => rfl
  | cons entry kinds ih =>
      obtain ⟨n, k⟩ := entry
      obtain ⟨hn, hrest⟩ := not_or.mp (mt List.mem_cons.mpr h)
      rw [put, if_neg fun heq => hn heq.symm, ih hrest]
      rfl

theorem lookup_entry (other n : String) (k : MetricKind K) :
    ((n, k) :: kinds).lookup other = if other = n then some k else kinds.lookup other := by
  rw [List.lookup_cons]
  by_cases h : other = n
  · rw [if_pos h, beq_iff_eq.mpr h]
  · rw [if_neg h, beq_eq_false_iff_ne.mpr h]

/-- What is found afterwards: the kind under its name, and under other names what was
    there. -/
theorem lookup_put (other : String) :
    (put name kind kinds).lookup other
      = if other = name then some kind else kinds.lookup other := by
  induction kinds with
  | nil => exact lookup_entry other name kind
  | cons entry kinds ih =>
      obtain ⟨n, k⟩ := entry
      rw [put, lookup_entry]
      by_cases hn : n = name
      · subst hn
        rw [if_pos rfl, lookup_entry]
        split_ifs
        · rfl
        · rfl
      · rw [if_neg hn, lookup_entry, ih]
        by_cases h : other = n
        · rw [if_pos h, if_pos h, if_neg fun heq => hn (h.symm.trans heq)]
        · rw [if_neg h, if_neg h]

theorem mem_put {entry : String × MetricKind K} (h : entry ∈ put name kind kinds) :
    entry = (name, kind) ∨ entry ∈ kinds := by
  by_cases hname : name ∈ kinds.map (·.1)
  · obtain ⟨front, old, back, hkinds, hput⟩ := put_of_mem kind hname
    rw [hput, List.mem_append, List.mem_cons] at h
    rw [hkinds, List.mem_append, List.mem_cons]
    rcases h with hfront | rfl | hback
    · exact .inr (.inl hfront)
    · exact .inl rfl
    · exact .inr (.inr (.inr hback))
  · rw [put_of_not_mem kind hname, List.mem_append, List.mem_singleton] at h
    exact h.symm

theorem names_put_of_mem (kind : MetricKind K) (h : name ∈ r.names) :
    names ⟨put name kind r.kinds⟩ = r.names := by
  obtain ⟨front, old, back, hkinds, hput⟩ := put_of_mem kind h
  rw [names, names, hput, hkinds, List.map_append, List.map_append]
  rfl

theorem names_put_of_not_mem (kind : MetricKind K) (h : name ∉ r.names) :
    names ⟨put name kind r.kinds⟩ = r.names ++ [name] := by
  rw [names, put_of_not_mem kind h, List.map_append]
  rfl

end Put

/-! ## One registration -/

/-- The names that are built in. -/
def builtinNames : List String :=
  ["levenshtein", "levenshtein_bounded", "jaro", "jaro_winkler", "fuzzy"]

/-- What holds of a registry however it came about: a kind is kept under the name it
    declares, which is a name of its own; no name is kept twice, and the built-in names are
    there. -/
structure Proper (r : Registry K) : Prop where
  declared : ∀ entry ∈ r.kinds, entry.2.name = entry.1
  named : ∀ name ∈ r.names, name ≠ "" ∧ name ≠ baseName
  nodup : r.names.Nodup
  builtin : builtinNames ⊆ r.names

theorem names_builtin [Scalar K] : (builtin : Registry K).names = builtinNames := rfl

theorem proper_builtin [Scalar K] : (builtin : Registry K).Proper where
  declared := by
    intro entry hentry
    obtain ⟨kind, -, rfl⟩ := List.mem_map.mp hentry
    rfl
  named := by
    rw [names_builtin]
    decide
  nodup := by
    rw [names_builtin]
    decide
  builtin := by
    rw [names_builtin]
    exact List.Subset.refl _

/-- **ONE REGISTRATION** keeps a registry proper. -/
theorem Proper.put (h : r.Proper) (hkind : kind.IsNamed) :
    Proper ⟨Registry.put kind.name kind r.kinds⟩ := by
  have hdeclared : ∀ entry ∈ Registry.put kind.name kind r.kinds, entry.2.name = entry.1 := by
    intro entry hentry
    rcases mem_put hentry with rfl | hold
    · rfl
    · exact h.declared entry hold
  by_cases hmem : kind.name ∈ r.names
  · have hnames := names_put_of_mem kind hmem
    exact ⟨hdeclared, hnames ▸ h.named, hnames ▸ h.nodup, hnames ▸ h.builtin⟩
  · have hnames := names_put_of_not_mem kind hmem
    refine ⟨hdeclared, ?_, ?_, ?_⟩
    · rw [hnames]
      intro name hname
      rcases List.mem_append.mp hname with hold | hnew
      · exact h.named name hold
      · obtain rfl := List.mem_singleton.mp hnew
        exact hkind
    · rw [hnames, (List.perm_append_singleton kind.name r.names).nodup_iff]
      exact List.nodup_cons.mpr ⟨hmem, h.nodup⟩
    · rw [hnames]
      exact List.Subset.trans h.builtin (List.subset_append_left _ _)

/-- What an accepted registration changes: a name that is present keeps its place and gets
    the new kind, and a new name comes last. -/
structure Extends (r r' : Registry K) (kind : MetricKind K) : Prop where
  present : kind.name ∈ r.names → ∃ front old back,
    r.kinds = front ++ (kind.name, old) :: back ∧ r'.kinds = front ++ (kind.name, kind) :: back
  fresh : kind.name ∉ r.names → r'.kinds = r.kinds ++ [(kind.name, kind)]

theorem extends_put : Extends r ⟨put kind.name kind r.kinds⟩ kind :=
  ⟨put_of_mem kind, put_of_not_mem kind⟩

/-! ## A history of calls -/

/-- The registry after a call; when the call is refused it is the one before. -/
def afterCall (r : Registry K) (kind : MetricKind K) : Registry K :=
  match r.register kind with
  | .ok r' => r'
  | .error _ => r

/-- The registry after calls, one after another. -/
def afterCalls (r : Registry K) (calls : List (MetricKind K)) : Registry K :=
  calls.foldl afterCall r

/-- The kind that was last registered under a name. -/
def lastNamed? (calls : List (MetricKind K)) (name : String) : Option (MetricKind K) :=
  (calls.filter fun kind => decide (kind.IsNamed ∧ kind.name = name)).getLast?

theorem afterCall_eq (r : Registry K) (kind : MetricKind K) :
    r.afterCall kind = if kind.IsNamed then ⟨put kind.name kind r.kinds⟩ else r := by
  rw [afterCall, register_eq]
  split_ifs
  · rfl
  · rfl

theorem afterCalls_concat (r : Registry K) (calls : List (MetricKind K)) (kind : MetricKind K) :
    r.afterCalls (calls ++ [kind]) = (r.afterCalls calls).afterCall kind :=
  List.foldl_append

theorem Proper.afterCall (h : r.Proper) (kind : MetricKind K) : (r.afterCall kind).Proper := by
  rw [afterCall_eq]
  split_ifs with hkind
  · exact h.put hkind
  · exact h

/-- **ALL CALLS** keep a registry proper. -/
theorem Proper.afterCalls (h : r.Proper) (calls : List (MetricKind K)) :
    (r.afterCalls calls).Proper := by
  induction calls generalizing r with
  | nil => exact h
  | cons kind calls ih => exact ih (h.afterCall kind)

theorem lastNamed?_cons (kind : MetricKind K) (calls : List (MetricKind K)) (name : String) :
    lastNamed? (kind :: calls) name
      = (lastNamed? calls name).or
          (if kind.IsNamed ∧ kind.name = name then some kind else none) := by
  rw [lastNamed?, List.filter_cons]
  by_cases h : kind.IsNamed ∧ kind.name = name
  · rw [if_pos (decide_eq_true h), if_pos h, List.getLast?_cons, lastNamed?]
    cases (calls.filter fun kind => decide (kind.IsNamed ∧ kind.name = name)).getLast? with
    | none => rfl
    | some last => rfl
  · rw [if_neg (mt of_decide_eq_true h), if_neg h, Option.or_none, lastNamed?]

theorem mem_of_lastNamed? {calls : List (MetricKind K)} (h : lastNamed? calls name = some kind) :
    kind ∈ calls :=
  List.mem_of_mem_filter (List.mem_of_getLast? h)

theorem lastNamed?_eq_none_iff {calls : List (MetricKind K)} {name : String} :
    lastNamed? calls name = none ↔ ∀ kind ∈ calls, kind.IsNamed → kind.name ≠ name := by
  simp only [lastNamed?, List.getLast?_eq_none_iff, List.filter_eq_nil_iff, decide_eq_true_eq,
    not_and]

/-- **THE LAST REGISTRATION COUNTS**: under a name there is what was last registered with it,
    or what was there before all calls. -/
theorem find?_afterCalls (r : Registry K) (calls : List (MetricKind K)) (name : String) :
    (r.afterCalls calls).find? name = (lastNamed? calls name).or (r.find? name) := by
  induction calls generalizing r with
  | nil => rfl
  | cons kind calls ih =>
      have hcall : (r.afterCall kind).find? name
          = (if kind.IsNamed ∧ kind.name = name then some kind else none).or (r.find? name) := by
        rw [afterCall_eq]
        by_cases hkind : kind.IsNamed
        · rw [if_pos hkind, find?, lookup_put]
          by_cases hname : kind.name = name
          · rw [if_pos hname.symm, if_pos ⟨hkind, hname⟩]
            rfl
          · rw [if_neg fun heq => hname heq.symm, if_neg fun h => hname h.2]
            rfl
        · rw [if_neg hkind, if_neg fun h => hkind h.1]
          rfl
      rw [lastNamed?_cons, Option.or_assoc, ← hcall]
      exact ih (r.afterCall kind)

/-! ## Unknown names -/

end Registry

section Unknown

variable {params : Named} {other : String} {known : List String}

theorem Named.onlyNames_ne_unknown {own : List String} :
    Named.onlyNames own params ≠ .error (.unknownMetric other known) := by
  rw [Named.onlyNames]
  split_ifs
  · nofun
  · nofun

theorem MetricKind.plain_ne_unknown {m : Metric K} :
    (plain m).make params ≠ .error (.unknownMetric other known) := by
  show (if params.isEmpty then Except.ok m else Except.error Fault.wrongKind) ≠ _
  split_ifs
  · nofun
  · nofun

theorem MetricKind.bounded_ne_unknown :
    (bounded : MetricKind K).make params ≠ .error (.unknownMetric other known) := by
  intro h
  rcases bind_eq_error h with hnames | ⟨_, -, hrest⟩
  · exact Named.onlyNames_ne_unknown hnames
  · split at hrest
    · cases hrest
    · cases hrest
    · split at hrest
      · cases hrest
      · split_ifs at hrest
        cases hrest

theorem MetricKind.winkler_ne_unknown [Scalar K] :
    (winkler : MetricKind K).make params ≠ .error (.unknownMetric other known) := by
  intro h
  rcases bind_eq_error h with hnames | ⟨_, -, hrest⟩
  · exact Named.onlyNames_ne_unknown hnames
  · dsimp only at hrest
    split at hrest
    · cases hrest
    · cases hrest

end Unknown

namespace Registry

variable {r : Registry K} {name : String} {kind : MetricKind K}

theorem find?_eq_none_iff : r.find? name = none ↔ name ∉ r.names := by
  rw [find?, List.lookup_eq_none_iff, names, List.mem_map]
  constructor
  · rintro h ⟨entry, hentry, rfl⟩
    exact (bne_iff_ne.mp (h entry hentry)) rfl
  · intro h entry hentry
    exact bne_iff_ne.mpr fun heq => h ⟨entry, hentry, heq.symm⟩

/-- No built-in kind says that a name is unknown. -/
theorem make_ne_unknown_of_builtin [Scalar K] {other : String} {params : Named}
    {known : List String} (h : (builtin : Registry K).find? name = some kind) :
    kind.make params ≠ .error (.unknownMetric other known) := by
  obtain ⟨-, rfl⟩ | ⟨-, rfl⟩ | ⟨-, rfl⟩ | ⟨-, rfl⟩ | ⟨-, rfl⟩ := find?_builtin h
  · exact MetricKind.plain_ne_unknown
  · exact MetricKind.bounded_ne_unknown
  · exact MetricKind.plain_ne_unknown
  · exact MetricKind.winkler_ne_unknown
  · exact MetricKind.plain_ne_unknown

/-- **A REGISTRY REMEMBERS** what was registered.  After any calls it is proper; a further
    call is accepted exactly when the kind has a name of its own, and then it replaces the
    kind of that name in its place or comes last, and otherwise nothing changes.  A metric
    is made by the kind that was last registered under its name, or by the built-in one;
    where there is neither, and only there, the name is unknown.  A kind may refuse its
    parameters by the same words, and then it is the kind that refuses. -/
theorem afterCalls_remembers [Scalar K] (calls : List (MetricKind K)) :
    (builtin.afterCalls calls).Proper ∧
    (∀ kind : MetricKind K,
      (kind.IsNamed →
        (builtin.afterCalls calls).register kind = .ok (builtin.afterCalls (calls ++ [kind])) ∧
        (builtin.afterCalls calls).Extends (builtin.afterCalls (calls ++ [kind])) kind) ∧
      (¬ kind.IsNamed →
        (builtin.afterCalls calls).register kind = .error .namelessMetric ∧
        builtin.afterCalls (calls ++ [kind]) = builtin.afterCalls calls)) ∧
    ∀ name : String,
      ((builtin.afterCalls calls).find? name = none ↔
        name ∉ builtinNames ∧ ∀ kind ∈ calls, kind.IsNamed → kind.name ≠ name) ∧
      ∀ params : Named,
        (builtin.afterCalls calls).make name params
          = ((lastNamed? calls name).or (builtin.find? name)).elim
              (.error (.unknownMetric name (builtin.afterCalls calls).sortedNames))
              (fun kind => kind.make params) ∧
        ((∀ kind ∈ calls, ∀ known, kind.make params ≠ .error (.unknownMetric name known)) →
          ((builtin.afterCalls calls).make name params
              = .error (.unknownMetric name (builtin.afterCalls calls).sortedNames) ↔
            name ∉ builtinNames ∧ ∀ kind ∈ calls, kind.IsNamed → kind.name ≠ name)) := by
  have hnone : ∀ name, (builtin.afterCalls calls).find? name = none ↔
      name ∉ builtinNames ∧ ∀ kind ∈ calls, kind.IsNamed → kind.name ≠ name := by
    intro name
    rw [find?_afterCalls, Option.or_eq_none_iff, lastNamed?_eq_none_iff, find?_eq_none_iff,
      names_builtin, and_comm]
  refine ⟨proper_builtin.afterCalls calls, ?_, fun name => ⟨hnone name, fun params => ⟨?_, ?_⟩⟩⟩
  · intro kind
    rw [afterCalls_concat, afterCall_eq, register_eq]
    constructor
    · intro hkind
      rw [if_pos hkind, if_pos hkind]
      exact ⟨rfl, extends_put⟩
    · intro hkind
      rw [if_neg hkind, if_neg hkind]
      exact ⟨rfl, rfl⟩
  · rw [make_eq, find?_afterCalls]
  · intro hcalls
    rw [← hnone, make_eq]
    constructor
    · intro hmake
      cases hfound : (builtin.afterCalls calls).find? name with
      | none => rfl
      | some kind =>
          -- what was found is a kind of a call or a built-in one, and neither says this
          rw [hfound] at hmake
          rw [find?_afterCalls, Option.or_eq_some_iff] at hfound
          rcases hfound with hlast | ⟨-, hbuiltin⟩
          · exact absurd hmake (hcalls kind (mem_of_lastNamed? hlast) _)
          · exact absurd hmake (make_ne_unknown_of_builtin hbuiltin)
    · intro hfound
      rw [hfound]
      rfl

/-- Five calls, in doubles: a new name, a built-in name that is taken over, a kind without a name
    of its own, the new name again, and the empty name. -/
theorem afterCalls_remembers_five :
    let calls : List (MetricKind Float) := [.plain (.halfHamming "half"),
      .plain (.hamming "levenshtein"), .plain (.unscored "base"), .plain (.negatedHamming "half"),
      .plain (.overlap "")]
    let r : Registry Float := builtin.afterCalls calls
    (∀ kind ∈ calls, ∀ known, kind.make [] ≠ .error (.unknownMetric "base" known)) ∧
    r.names = builtinNames ++ ["half"] ∧
    r.make "levenshtein" [] = .ok (.hamming "levenshtein") ∧
    r.make "half" [] = .ok (.negatedHamming "half") ∧
    r.make "base" [] = .error (.unknownMetric "base" r.sortedNames) ∧
    r.register (.plain (.overlap "half"))
      = .ok (builtin.afterCalls (calls ++ [.plain (.overlap "half")])) := by
  intro calls r
  have hmade : ∀ kind ∈ calls, ∀ known, kind.make [] ≠ .error (.unknownMetric "base" known) := by
    simp only [calls, List.forall_mem_cons]
    exact ⟨nofun, nofun, nofun, nofun, nofun, nofun⟩
  obtain ⟨-, hcall, hname⟩ := afterCalls_remembers calls
  refine ⟨hmade, rfl, ?_, ?_, ?_, ?_⟩
  · exact ((hname "levenshtein").2 []).1
  · exact ((hname "half").2 []).1
  · exact (((hname "base").2 []).2 hmade).mpr ⟨by decide, by decide⟩
  · exact ((hcall (.plain (.overlap "half"))).1 (by decide)).1

end Registry

end Likeness
