import Likeness.Proofs.Match.Boost
import Likeness.Proofs.Match.Similarity
import Likeness.Proofs.Metric.Builtin
import Likeness.Proofs.Results
import Likeness.Proofs.Scalar.Extended
import Likeness.Settings.MetricChoice

/-! # Accepted settings and the range of the similarity

    The scaling factor of settings is at least zero, and its product with the prefix
    limit is not found to exceed one.  For a factor that is a fraction this keeps the
    Jaro-Winkler similarity between zero and one (`Boost.raise_within`).  An infinite
    factor passes both checks when the limit is zero, for its product with zero is
    not a number and so does not exceed one; every similarity is then not a number
    either (`winkler_in_range`). -/

namespace Likeness

/-! ## What is accepted -/

/-- A number that is at least zero is a fraction or the positive infinity. -/
theorem Scalar.nonneg_cases {K : Type} [Scalar K] [Rounds K] {x : K}
    (h : atMost (ofNat 0) x = true) :
    (∃ a, Denotes x a ∧ 0 ≤ a) ∨ exact x = .infinite false := by
  cases hx : exact x with
  | ratio num den =>
      have hdenotes : Denotes x (num / den) := ⟨num, den, hx, Rounds.den_pos x num den hx, rfl⟩
      rw [zero_denotes.atMost hdenotes, decide_eq_true_iff] at h
      exact .inl ⟨_, hdenotes, h⟩
  | infinite negative =>
      obtain ⟨num, den, hzero, -⟩ := zero_denotes (K := K)
      rw [Rounds.atMost_eq, hzero, hx] at h
      cases negative with
      | false => exact .inr rfl
      | true => exact nomatch h
  | nan =>
      obtain ⟨num, den, hzero, -⟩ := zero_denotes (K := K)
      rw [Rounds.atMost_eq, hzero, hx] at h
      exact nomatch h

theorem Schema.magnitude_eq_ok {v : Value} {x : Float} (h : magnitude v = .ok x) :
    Scalar.atMost (Scalar.ofNat 0) x = true := by
  obtain ⟨y, -, hy⟩ := bind_eq_ok h
  split_ifs at hy with hle
  obtain rfl := Except.ok.inj hy
  exact decide_eq_true hle

theorem Schema.optional_eq_ok {α : Type} {entries : List (Value × Value)} {name : String}
    {default x : α} {read : Value → Except Problem α}
    (h : optional entries name default read = .ok x) :
    Value.field? name entries = none ∧ x = default ∨
      ∃ v, Value.field? name entries = some v ∧ read v = .ok x := by
  rw [optional] at h
  cases hfield : Value.field? name entries with
  | none =>
      rw [hfield] at h
      exact .inl ⟨rfl, (Except.ok.inj h).symm⟩
  | some v =>
      rw [hfield] at h
      exact .inr ⟨v, rfl, mapError_eq_ok h⟩

namespace Settings

theorem ofEntries_scaling {entries : List (Value × Value)} {s : Settings}
    (h : ofEntries entries = .ok s) :
    Schema.optional entries "scaling_factor" Match.defaultScaling Schema.magnitude
      = .ok s.scalingFactor := by
  simp only [ofEntries] at h
  split at h
  · rename_i hscaling _ _ _ _
    obtain rfl := Except.ok.inj h
    exact hscaling
  · exact nomatch h

/-- The scaling factor that settings have is a fraction of at least zero, or infinite. -/
theorem scaling_cases {entries : List (Value × Value)} {s : Settings}
    (h : ofEntries entries = .ok s) :
    (∃ a, Scalar.Denotes s.scalingFactor a ∧ 0 ≤ a) ∨
      Decimal.Exact.ofFloat s.scalingFactor = .infinite false := by
  refine Scalar.nonneg_cases (x := s.scalingFactor) ?_
  rcases Schema.optional_eq_ok (ofEntries_scaling h) with ⟨-, hdefault⟩ | ⟨v, -, hv⟩
  · rw [hdefault]
    decide +kernel
  · exact Schema.magnitude_eq_ok hv

variable {K : Type} [Scalar K]

/-- What settings that were accepted have passed. -/
theorem read_eq_ok {v : Value} {s : Settings} (h : read K v = .ok s) :
    ∃ entries, ofEntries entries = .ok s ∧
      ∃ product, Match.times? (.real (Scalar.ofFloat s.scalingFactor : K)) (.whole s.prefixLimit)
          = .ok product ∧ Match.exceedsOne product = false := by
  cases v with
  | dict entries =>
      obtain ⟨s', hs', h⟩ := bind_eq_ok h
      obtain ⟨_, hcheck, h⟩ := bind_eq_ok h
      obtain rfl := Except.ok.inj h
      obtain ⟨product, hproduct, hcheck⟩ := bind_eq_ok hcheck
      cases hexceeds : Match.exceedsOne product with
      | true =>
          simp only [hexceeds, if_true] at hcheck
          exact nomatch hcheck
      | false => exact ⟨entries, hs', product, hproduct, hexceeds⟩
  | _ => exact nomatch h

end Settings

/-! ## The boost of accepted settings -/

section Boost

variable {K : Type} [Scalar K] {p : Match.Boost K} {z : K} {n : Nat}

/-- A boost with parameters like those of settings: a number that is not negative and a natural
    limit, with a product that was not found to exceed one. -/
structure Match.Boost.Accepted (p : Match.Boost K) (z : K) (n : Nat) : Prop where
  scaling : p.scaling.value = .real z
  prefixLimit : p.prefixLimit.value = .whole n
  nonneg : (∃ a, Scalar.Denotes z a ∧ 0 ≤ a) ∨ Scalar.exact z = .infinite false
  bounded : ∃ product, Match.times? (.real z) (.whole n) = .ok product ∧
    Match.exceedsOne product = false

namespace Match.Boost.Accepted

theorem not_negative [Scalar.Rounds K] (h : p.Accepted z n) :
    p.scaling.value.isNegative = false := by
  rw [h.scaling]
  rcases h.nonneg with ⟨a, ha, h0⟩ | hinfinite
  · rw [(Score.Denotes.real ha).isNegative]
    exact decide_eq_false (not_lt.mpr h0)
  · obtain ⟨num, den, hzero, -⟩ := Scalar.zero_denotes (K := K)
    show (Scalar.atMost z (Scalar.ofNat 0) && !Scalar.atMost (Scalar.ofNat 0) z) = false
    rw [Scalar.Rounds.atMost_eq z, hzero, hinfinite]
    rfl

/-- The metric checks again what settings have passed, with the same outcome. -/
theorem check_eq_ok [Scalar.Rounds K] (h : p.Accepted z n) : p.check = .ok () := by
  obtain ⟨product, hproduct, hexceeds⟩ := h.bounded
  have hlimit : p.prefixLimit.value.isNegative = false := by
    rw [h.prefixLimit]
    exact decide_eq_false (Int.not_lt.mpr (Int.natCast_nonneg n))
  rw [check, hlimit, h.not_negative, h.scaling, h.prefixLimit, hproduct]
  show (if exceedsOne product then _ else _) = _
  rw [hexceeds]
  rfl

/-- With a factor that is a fraction the similarity stays in its range. -/
theorem raise_within [Scalar.Rounds K] (h : p.Accepted z n) {a : ℚ} (ha : Scalar.Denotes z a)
    {base : K} (hbase : Scalar.Within base 1) {shared : Nat} (hshared : shared < 2 ^ 64) :
    ∃ x, p.raise base shared = .ok x ∧ Scalar.Within x 1 := by
  have hfinite : p.Finite := ⟨⟨a, h.scaling ▸ .real ha⟩, ⟨(n : Int), h.prefixLimit ▸ .whole n⟩⟩
  obtain ⟨x, hx, hwithin, -⟩ := Boost.raise_within h.check_eq_ok hfinite hbase hshared
  exact ⟨x, hx, hwithin⟩

variable [Scalar.Specials K]

/-- An infinite factor is accepted with the limit zero only. -/
theorem limit_zero (h : p.Accepted z n) (hz : Scalar.exact z = .infinite false) : n = 0 := by
  obtain ⟨product, hproduct, hexceeds⟩ := h.bounded
  obtain ⟨y, hy, rfl⟩ := times?_real hproduct
  have hnearest := toScalar?_nearest hy (.whole n)
  rw [Int.cast_natCast] at hnearest
  obtain ⟨b, hb, -⟩ := id hnearest
  by_contra hne
  have hb1 : 1 ≤ b := hnearest.ge hb Scalar.one_denotes
    (by exact_mod_cast Nat.one_le_iff_ne_zero.mpr hne)
  have hproduct' := Scalar.Specials.infinite_mul hz hb
  rw [if_neg (by linarith), decide_eq_false (by linarith)] at hproduct'
  obtain ⟨num, den, hone, -⟩ := Scalar.one_denotes (K := K)
  have hbelow : (Scalar.atMost (Scalar.ofNat 1) (z * y)
      && !Scalar.atMost (z * y) (Scalar.ofNat 1)) = false := hexceeds
  rw [Scalar.Rounds.atMost_eq, Scalar.Rounds.atMost_eq, hproduct', hone] at hbelow
  exact nomatch hbelow

/-- With an infinite factor the similarity is not a number. -/
theorem raise_infinite (h : p.Accepted z n) (hz : Scalar.exact z = .infinite false) (base : K)
    (shared : Nat) : ∃ x, p.raise base shared = .ok x ∧ Scalar.exact x = .nan := by
  obtain rfl := h.limit_zero hz
  have hreach : p.reach shared = .whole (0 : Nat) := by
    rw [reach, h.prefixLimit, (Score.Denotes.whole (K := K) _).below (.whole _)]
    split_ifs with hbelow
    · rfl
    · obtain rfl : shared = 0 := by
        rw [decide_eq_true_iff] at hbelow
        push_cast at hbelow
        exact_mod_cast le_antisymm (not_lt.mp hbelow) (Nat.cast_nonneg shared)
      rfl
  obtain ⟨y, hy, hnearest⟩ := toScalar?_natural (K := K) (n := 0) (by norm_num)
  rw [Nat.cast_zero] at hnearest
  have hproduct : Scalar.exact (y * z) = .nan := by
    rw [Scalar.Rounds.mul_comm]
    exact (Scalar.Specials.infinite_mul hz (hnearest.eq Scalar.zero_denotes)).trans (if_pos rfl)
  refine ⟨base + y * z * (Scalar.ofNat 1 - base), ?_,
    Scalar.Specials.add_nan (Scalar.Specials.nan_mul hproduct)⟩
  rw [raise, hreach, h.scaling, times?_of_toScalar? hy]
  rfl

/-- The raised similarity stays in its range, or is not a number. -/
theorem exists_raise (h : p.Accepted z n) {base : K} (hbase : Scalar.Within base 1) {shared : Nat}
    (hshared : shared < 2 ^ 64) :
    ∃ x, p.raise base shared = .ok x ∧ (Scalar.Within x 1 ∨ Scalar.exact x = .nan) := by
  rcases h.nonneg with ⟨a, ha, -⟩ | hinfinite
  · obtain ⟨x, hx, hwithin⟩ := h.raise_within ha hbase hshared
    exact ⟨x, hx, .inl hwithin⟩
  · obtain ⟨x, hx, hnan⟩ := h.raise_infinite hinfinite base shared
    exact ⟨x, hx, .inr hnan⟩

end Match.Boost.Accepted

end Boost

namespace Settings

variable {K : Type} [Scalar K]

/-- The boost that the metric of accepted settings is made with. -/
theorem exists_winkler [Scalar.Specials K] {v : Value} {s : Settings} (h : read K v = .ok s) :
    ∃ p : Match.Boost K, p.Accepted (Scalar.ofFloat s.scalingFactor) s.prefixLimit ∧
      Registry.builtin.make "jaro_winkler" (s.options.forMetric "jaro_winkler")
        = .ok (.jaroWinkler p) := by
  obtain ⟨entries, hentries, hbounded⟩ := read_eq_ok h
  refine ⟨⟨⟨.real (Scalar.ofFloat s.scalingFactor), (Value.real s.scalingFactor).plain⟩,
    ⟨.whole s.prefixLimit, (Value.int s.prefixLimit).plain⟩⟩, ⟨rfl, rfl, ?_, hbounded⟩, rfl⟩
  rcases scaling_cases hentries with ⟨a, ⟨num, den, hexact, -, hvalue⟩, h0⟩ | hinfinite
  · exact .inl ⟨a, hvalue ▸ Scalar.Specials.ofFloat_ratio hexact, h0⟩
  · exact .inr (Scalar.Specials.ofFloat_infinite hinfinite)

/-- With an infinite scaling factor no two texts have a score that is a number. -/
theorem winkler_infinite [Scalar.Specials K] {v : Value} {s : Settings} (h : read K v = .ok s)
    (hinfinite : Decimal.Exact.ofFloat s.scalingFactor = .infinite false) (a b : String) :
    ∃ (m : Metric K) (x : K),
      Registry.builtin.make "jaro_winkler" (s.options.forMetric "jaro_winkler") = .ok m ∧
      m.score (.text a) (.text b) = .ok (.real x) ∧ s.prefixLimit = 0 ∧ Scalar.exact x = .nan := by
  obtain ⟨p, hp, hmake⟩ := exists_winkler h
  have hz := Scalar.Specials.ofFloat_infinite (K := K) hinfinite
  obtain ⟨x, hx, hnan⟩ := hp.raise_infinite hz (textJaro a b)
    (sharedLength (fun c d => c == d) a.toList b.toList)
  refine ⟨_, x, hmake, ?_, hp.limit_zero hz, hnan⟩
  rw [jaroWinkler_texts hp.check_eq_ok, hx]
  rfl

/-- **THE RANGE OF THE JARO-WINKLER SIMILARITY** under settings that were accepted, in doubles
    as in exact fractions with the special values beside them: every two texts have a score,
    and it is a number from zero to one, unless the scaling factor is infinite.  That is
    accepted with the limit zero only, and then no score is a number. -/
theorem winkler_in_range [Scalar.Specials K] {v : Value} {s : Settings} (h : read K v = .ok s)
    {a b : String} (ha : a.toList.length ≤ Edit.unreachable)
    (hb : b.toList.length ≤ Edit.unreachable) :
    ∃ (m : Metric K) (x : K),
      Registry.builtin.make "jaro_winkler" (s.options.forMetric "jaro_winkler") = .ok m ∧
      m.score (.text a) (.text b) = .ok (.real x) ∧
      (Decimal.Exact.ofFloat s.scalingFactor ≠ .infinite false ∧ Scalar.Within x 1 ∨
        Decimal.Exact.ofFloat s.scalingFactor = .infinite false ∧ s.prefixLimit = 0 ∧
          Scalar.exact x = .nan) := by
  obtain ⟨entries, hentries, -⟩ := read_eq_ok h
  rcases scaling_cases hentries with ⟨q, ⟨num, den, hexact, -⟩, -⟩ | hinfinite
  · obtain ⟨p, hp, hmake⟩ := exists_winkler h
    obtain ⟨x, hx, hwithin⟩ := hp.raise_within (Scalar.Specials.ofFloat_ratio hexact)
      (textJaro_within ha hb) (sharedLength_lt ha b)
    refine ⟨_, x, hmake, ?_, .inl ⟨(fun h => nomatch hexact.symm.trans h), hwithin⟩⟩
    rw [jaroWinkler_texts hp.check_eq_ok, hx]
    rfl
  · obtain ⟨m, x, hmake, hscore, hlimit, hnan⟩ := winkler_infinite h hinfinite a b
    exact ⟨m, x, hmake, hscore, .inr ⟨hinfinite, hlimit, hnan⟩⟩

/-- Two texts under settings whose factor and limit have the product one. -/
theorem winkler_in_range_quarter :
    ∃ (s : Settings) (m : Metric Float) (x : Float),
      read Float (.dict [(.text "scaling_factor", .text "0.25"), (.text "prefix_limit", .int 4)])
        = .ok s ∧
      Registry.builtin.make "jaro_winkler" (s.options.forMetric "jaro_winkler") = .ok m ∧
      m.score (.text "martha") (.text "marhta") = .ok (.real x) ∧ Scalar.Within x 1 := by
  have hread : ((read Float
      (.dict [(.text "scaling_factor", .text "0.25"), (.text "prefix_limit", .int 4)])).toOption.any
        fun s => Decimal.Exact.ofFloat s.scalingFactor != .infinite false) = true := by
    decide +kernel
  obtain ⟨s, hs, hfinite⟩ := exists_ok_of_any hread
  obtain ⟨m, x, hmake, hscore, ⟨-, hwithin⟩ | ⟨hinfinite, -⟩⟩ := winkler_in_range hs
    (by decide : "martha".toList.length ≤ Edit.unreachable)
    (by decide : "marhta".toList.length ≤ Edit.unreachable)
  · exact ⟨s, m, x, hs, hmake, hscore, hwithin⟩
  · exact absurd hinfinite (bne_iff_ne.mp hfinite)

/-- **AN INFINITE SCALING FACTOR IS ACCEPTED** with the limit zero, and the similarity of a text
    with itself is then not a number. -/
theorem winkler_of_infinite_factor :
    ∃ (s : Settings) (m : Metric Float) (x : Float),
      read Float (.dict [(.text "metric", .text "jaro_winkler"),
        (.text "scaling_factor", .real Decimal.infinity), (.text "prefix_limit", .int 0)]) = .ok s ∧
      Registry.builtin.make "jaro_winkler" (s.options.forMetric "jaro_winkler") = .ok m ∧
      m.score (.text "a") (.text "a") = .ok (.real x) ∧ Scalar.exact x = .nan ∧
      ¬ Scalar.Within x 1 := by
  have hread : ((read Float (.dict [(.text "metric", .text "jaro_winkler"),
      (.text "scaling_factor", .real Decimal.infinity),
      (.text "prefix_limit", .int 0)])).toOption.any
        fun s => Decimal.Exact.ofFloat s.scalingFactor == .infinite false) = true := by
    decide +kernel
  obtain ⟨s, hs, hinfinite⟩ := exists_ok_of_any hread
  obtain ⟨m, x, hmake, hscore, -, hnan⟩ := winkler_infinite hs (beq_iff_eq.mp hinfinite) "a" "a"
  refine ⟨s, m, x, hs, hmake, hscore, hnan, ?_⟩
  rintro ⟨a, ⟨num, den, hratio, -⟩, -⟩
  exact nomatch hnan.symm.trans hratio

end Settings

end Likeness
