import Likeness.Decimal.Layout
import Likeness.Decimal.Numeral
import Likeness.Proofs.Decimal.Characters
import Likeness.Proofs.Decimal.Shortest
import Mathlib.Data.List.TakeWhile

/-! # Decimals in characters

    A decimal is spelled by digits, perhaps with a point and more digits, and
    perhaps with an exponent (`Spelling`).  All layouts spell a decimal in this way,
    and what is read of its characters has the value of the decimal
    (`Layout.digits_spelled`, `readFloat?_text`). -/

namespace Likeness.Decimal

/-! ## Digits -/

/-- The number that digits spell. -/
def numeral (cs : List Char) : Nat := cs.foldl (fun n c => 10 * n + (c.toNat - 48)) 0

theorem foldl_numeral (cs : List Char) (n : Nat) :
    cs.foldl (fun n c => 10 * n + (c.toNat - 48)) n = n * 10 ^ cs.length + numeral cs := by
  induction cs generalizing n with
  | nil => simp [numeral]
  | cons c cs ih =>
      rw [numeral, List.foldl_cons, List.foldl_cons, ih, ih (10 * 0 + (c.toNat - 48)),
        List.length_cons, pow_succ]
      ring

theorem numeral_append (cs ds : List Char) :
    numeral (cs ++ ds) = numeral cs * 10 ^ ds.length + numeral ds := by
  rw [numeral, List.foldl_append, ← numeral, foldl_numeral]

theorem numeral_zeros (n : Nat) : numeral (List.replicate n '0') = 0 := by
  induction n with
  | zero => rfl
  | succ n ih =>
      rw [List.replicate_succ', numeral_append, ih]
      rfl

theorem numeral_digitsOf (n : Nat) : numeral (digitsOf n) = n := by
  induction n using Nat.strongRecOn with
  | _ n ih =>
      have hsmall : ∀ d < 10, numeral [Nat.digitChar d] = d := by decide
      rw [digitsOf, Nat.toDigits_eq_if (by decide)]
      split_ifs with hten
      · exact hsmall n hten
      · have hfront := ih (n / 10) (by omega)
        rw [digitsOf] at hfront
        rw [numeral_append, hfront, hsmall (n % 10) (Nat.mod_lt n (by decide)),
          List.length_singleton]
        omega

/-- A number that is not zero does not begin with a zero. -/
theorem digitsOf_head {n : Nat} (h : n ≠ 0) : ∃ c rest, digitsOf n = c :: rest ∧ c ≠ '0' := by
  induction n using Nat.strongRecOn with
  | _ n ih =>
      have hsmall : ∀ d < 10, d ≠ 0 → Nat.digitChar d ≠ '0' := by decide
      rw [digitsOf, Nat.toDigits_eq_if (by decide)]
      split_ifs with hten
      · exact ⟨_, [], rfl, hsmall n hten h⟩
      · obtain ⟨c, rest, hdigits, hne⟩ := ih (n / 10) (by omega) (by omega)
        rw [digitsOf] at hdigits
        exact ⟨c, rest ++ [Nat.digitChar (n % 10)], by rw [hdigits]; rfl, hne⟩

theorem digitIn?_of_isDigit {c : Char} (h : isDigit c = true) :
    digitIn? 10 c = some (c.toNat - 48) := by
  rw [isDigit, Bool.and_eq_true, decide_eq_true_eq, decide_eq_true_eq] at h
  have hhigh : c.toNat ≤ 57 := h.2
  unfold digitIn?
  rw [if_pos h, if_pos (by omega)]

/-- Digits are read as the number that they spell. -/
theorem readNat?_digits {cs : List Char} (hne : cs ≠ []) (h : ∀ c ∈ cs, isDigit c = true) :
    readNat? 10 cs = some (numeral cs) := by
  have hmapM : ∀ {ds : List Char}, (∀ c ∈ ds, isDigit c = true) →
      ds.mapM (digitIn? 10) = some (ds.map fun c => c.toNat - 48) := by
    intro ds hds
    induction ds with
    | nil => rfl
    | cons c ds ih =>
        rw [List.forall_mem_cons] at hds
        rw [List.mapM_cons, digitIn?_of_isDigit hds.1, ih hds.2]
        rfl
  rw [readNat?, if_neg (by rwa [List.isEmpty_iff]), hmapM h, Option.map_some, ofDigits,
    List.foldl_map]
  rfl

/-- Digits spell the number that they are the digits of. -/
theorem readNat?_digitsOf (n : Nat) : readNat? 10 (digitsOf n) = some n := by
  rw [readNat?_digits (digitsOf_ne_nil n) (digitsOf_isDigit n), numeral_digitsOf]

/-- Digits are cut off in front of what does not begin with one. -/
theorem cut_digits {ds rest : List Char} (h : ∀ c ∈ ds, isDigit c = true)
    (hrest : ∀ c, rest.head? = some c → isDigit c = false) :
    (ds ++ rest).takeWhile isDigit = ds ∧ (ds ++ rest).dropWhile isDigit = rest := by
  have hstop : rest.takeWhile isDigit = [] ∧ rest.dropWhile isDigit = rest := by
    cases rest with
    | nil => exact ⟨rfl, rfl⟩
    | cons c rest =>
        rw [List.takeWhile_cons, List.dropWhile_cons, hrest c rfl]
        exact ⟨rfl, rfl⟩
  rw [List.takeWhile_append_of_pos h, List.dropWhile_append_of_pos h, hstop.1, hstop.2,
    List.append_nil]
  exact ⟨rfl, rfl⟩

/-! ## The parts of a decimal -/

theorem cutSign_of_ne {cs : List Char} (h : ∀ c, cs.head? = some c → c ≠ '-' ∧ c ≠ '+') :
    cutSign cs = (false, cs) := by
  unfold cutSign
  split
  · exact absurd rfl (h '-' rfl).1
  · exact absurd rfl (h '+' rfl).2
  · rfl

/-- The digits behind the point, and what follows them. -/
def cutPlaces : List Char → List Char × List Char
  | '.' :: rest => (rest.takeWhile isDigit, rest.dropWhile isDigit)
  | rest => ([], rest)

theorem readFloat?_eq (cs : List Char) :
    readFloat? cs =
      match readNat? 10 ((cutSign cs).2.takeWhile isDigit
          ++ (cutPlaces ((cutSign cs).2.dropWhile isDigit)).1),
        readExponent? (cutPlaces ((cutSign cs).2.dropWhile isDigit)).2 with
      | some n, some e => some (Binary.ofDecimal (cutSign cs).1 n
          (e - (cutPlaces ((cutSign cs).2.dropWhile isDigit)).1.length))
      | _, _ => none := rfl

theorem readExponent?_mark (negative : Bool) (ds : List Char) :
    readExponent? ('e' :: (if negative then '-' else '+') :: ds)
      = (readNat? 10 ds).map fun n => if negative then -(n : Int) else (n : Int) := by
  unfold readExponent?
  cases negative with
  | true => exact if_pos (.inl rfl)
  | false => exact if_pos (.inl rfl)

/-! ## Spellings -/

/-- A decimal in characters: digits in front of the point, digits behind it if there are some,
    and an exponent with its sign if there is one. -/
structure Spelling where
  whole : List Char
  places : List Char
  mark : Option (Bool × List Char)

namespace Spelling

/-- The characters of an exponent. -/
def markText : Option (Bool × List Char) → List Char
  | none => []
  | some (negative, ds) => 'e' :: (if negative then '-' else '+') :: ds

/-- The digits behind the point, with the point. -/
def placesText (places : List Char) : List Char := if places.isEmpty then [] else '.' :: places

/-- The characters of a decimal. -/
def text (s : Spelling) : List Char := s.whole ++ (placesText s.places ++ markText s.mark)

/-- The exponent that a mark gives. -/
def markExponent : Option (Bool × List Char) → ℤ
  | none => 0
  | some (negative, ds) => if negative then -(numeral ds : ℤ) else numeral ds

/-- The exponent of the last digit. -/
def exponent (s : Spelling) : ℤ := markExponent s.mark - s.places.length

/-- There are digits where there have to be, and nothing else. -/
structure Valid (s : Spelling) : Prop where
  whole_ne_nil : s.whole ≠ []
  whole_digits : ∀ c ∈ s.whole, isDigit c = true
  places_digits : ∀ c ∈ s.places, isDigit c = true
  mark_digits : ∀ negative ds, s.mark = some (negative, ds) → ds ≠ [] ∧ ∀ c ∈ ds, isDigit c = true

/-- The characters in front of a number, and behind its sign. -/
def signed (negative : Bool) (cs : List Char) : List Char := if negative then '-' :: cs else cs

theorem markText_head (mark : Option (Bool × List Char)) :
    ∀ c, (markText mark).head? = some c → c = 'e' := by
  intro c hc
  cases mark with
  | none => exact nomatch hc
  | some m => exact (Option.some.inj hc).symm

/-- What follows the digits in front of the point begins with the point or the mark. -/
theorem rest_head (s : Spelling) :
    ∀ c, (placesText s.places ++ markText s.mark).head? = some c → c = '.' ∨ c = 'e' := by
  intro c hc
  unfold placesText at hc
  split_ifs at hc
  · exact .inr (markText_head s.mark c hc)
  · exact .inl (Option.some.inj hc).symm

theorem Valid.text_head {s : Spelling} (hs : s.Valid) :
    ∃ c rest, s.text = c :: rest ∧ isDigit c = true := by
  obtain ⟨c, rest, hwhole⟩ := List.exists_cons_of_ne_nil hs.whole_ne_nil
  refine ⟨c, _, by rw [text, hwhole]; rfl, hs.whole_digits c ?_⟩
  rw [hwhole]
  exact List.mem_cons_self

theorem Valid.cutSign {s : Spelling} (hs : s.Valid) (negative : Bool) :
    Decimal.cutSign (signed negative s.text) = (negative, s.text) := by
  cases negative with
  | true => rfl
  | false =>
      obtain ⟨c, rest, htext, hdigit⟩ := hs.text_head
      refine cutSign_of_ne fun d hd => ?_
      rw [htext] at hd
      cases hd
      exact ⟨fun heq => absurd (heq ▸ hdigit) (by decide),
        fun heq => absurd (heq ▸ hdigit) (by decide)⟩

theorem Valid.cut_whole {s : Spelling} (hs : s.Valid) :
    s.text.takeWhile isDigit = s.whole ∧
      s.text.dropWhile isDigit = placesText s.places ++ markText s.mark := by
  refine cut_digits hs.whole_digits fun c hc => ?_
  rcases s.rest_head c hc with rfl | rfl
  · rfl
  · rfl

theorem Valid.cut_places {s : Spelling} (hs : s.Valid) :
    cutPlaces (placesText s.places ++ markText s.mark) = (s.places, markText s.mark) := by
  unfold placesText
  split_ifs with hempty
  · rw [List.isEmpty_iff.mp hempty, List.nil_append]
    cases s.mark with
    | none => rfl
    | some m => rfl
  · have hmark : ∀ c, (markText s.mark).head? = some c → isDigit c = false := by
      intro c hc
      rw [markText_head s.mark c hc]
      rfl
    obtain ⟨htake, hdrop⟩ := cut_digits hs.places_digits hmark
    exact Prod.ext htake hdrop

theorem Valid.readExponent? {s : Spelling} (hs : s.Valid) :
    Decimal.readExponent? (markText s.mark) = some (markExponent s.mark) := by
  cases hmark : s.mark with
  | none => rfl
  | some m =>
      obtain ⟨hne, hdigits⟩ := hs.mark_digits m.1 m.2 hmark
      rw [markText, readExponent?_mark, readNat?_digits hne hdigits]
      rfl

/-- **A DECIMAL IS READ AS IT IS SPELLED**. -/
theorem Valid.readFloat? {s : Spelling} (hs : s.Valid) (negative : Bool) :
    Decimal.readFloat? (signed negative s.text)
      = some (Binary.ofDecimal negative (numeral (s.whole ++ s.places)) s.exponent) := by
  have hnat : readNat? 10 (s.whole ++ s.places) = some (numeral (s.whole ++ s.places)) := by
    refine readNat?_digits (List.append_ne_nil_of_left_ne_nil hs.whole_ne_nil _) fun c hc => ?_
    exact (List.mem_append.mp hc).elim (hs.whole_digits c) (hs.places_digits c)
  rw [readFloat?_eq, hs.cutSign, hs.cut_whole.1, hs.cut_whole.2, hs.cut_places, hnat,
    hs.readExponent?]
  rfl

end Spelling

/-! ## Layouts -/

/-- A way to spell a decimal, in a form that is a number everywhere: it does not begin with a
    zero in front of another digit, and it has a point or an exponent. -/
structure Spelled (d : Digits) (s : Spelling) : Prop where
  valid : s.Valid
  head : s.whole = ['0'] ∨ ∃ c rest, s.whole = c :: rest ∧ c ≠ '0'
  real : s.places ≠ [] ∨ s.mark ≠ none
  value : (numeral (s.whole ++ s.places) : ℚ) * 10 ^ s.exponent = d.value
  exponent : s.exponent = d.exponent ∨ s.exponent = -1

theorem zero_isDigit : ∀ c ∈ ['0'], isDigit c = true :=
  List.forall_mem_singleton.mpr rfl

theorem zeros_isDigit {n : Nat} {cs : List Char} (h : ∀ c ∈ cs, isDigit c = true) :
    ∀ c ∈ List.replicate n '0' ++ cs, isDigit c = true := by
  intro c hc
  rcases List.mem_append.mp hc with hc | hc
  · rw [List.eq_of_mem_replicate hc]
    rfl
  · exact h c hc

section

variable {d : Digits}

/-- Behind the point, after zeros. -/
theorem spelled_small (zeros : Nat)
    (hexponent : d.exponent = -(zeros + (digitsOf d.digits).length : ℤ)) :
    Spelled d ⟨['0'], List.replicate zeros '0' ++ digitsOf d.digits, none⟩ := by
  have hsame : Spelling.exponent ⟨['0'], List.replicate zeros '0' ++ digitsOf d.digits, none⟩
      = d.exponent := by
    rw [Spelling.exponent, Spelling.markExponent, hexponent, List.length_append,
      List.length_replicate]
    push_cast
    ring
  have hzero : numeral ['0'] = 0 := rfl
  refine ⟨⟨List.cons_ne_nil _ _, zero_isDigit, zeros_isDigit (digitsOf_isDigit _),
    fun _ _ h => nomatch h⟩, .inl rfl,
    .inl (List.append_ne_nil_of_right_ne_nil _ (digitsOf_ne_nil _)), ?_, .inl hsame⟩
  rw [hsame, numeral_append, numeral_append, numeral_zeros, numeral_digitsOf, hzero, Nat.zero_mul,
    Nat.zero_add, Nat.zero_mul, Nat.zero_add, Digits.value]

/-- In front of the point, with zeros behind and a zero as the only place. -/
theorem spelled_large (hd : d.digits ≠ 0) (zeros : Nat) (hexponent : d.exponent = zeros) :
    Spelled d ⟨digitsOf d.digits ++ List.replicate zeros '0', ['0'], none⟩ := by
  have hone : Spelling.exponent ⟨digitsOf d.digits ++ List.replicate zeros '0', ['0'], none⟩
      = -1 := rfl
  refine ⟨⟨List.append_ne_nil_of_left_ne_nil (digitsOf_ne_nil _) _, ?_, zero_isDigit,
    fun _ _ h => nomatch h⟩, .inr ?_, .inl (List.cons_ne_nil _ _), ?_, .inr hone⟩
  · intro c hc
    rcases List.mem_append.mp hc with hc | hc
    · exact digitsOf_isDigit _ c hc
    · rw [List.eq_of_mem_replicate hc]
      rfl
  · obtain ⟨c, rest, hdigits, hne⟩ := digitsOf_head hd
    exact ⟨c, rest ++ List.replicate zeros '0', by rw [hdigits]; rfl, hne⟩
  · have hzero : numeral ['0'] = 0 := rfl
    rw [hone, Digits.value, hexponent, numeral_append, numeral_append, numeral_zeros,
      numeral_digitsOf, hzero, List.length_replicate]
    push_cast
    rw [zpow_natCast, zpow_neg, zpow_one, List.length_singleton, pow_one]
    field_simp
    ring

/-- On both sides of the point. -/
theorem spelled_point (hd : d.digits ≠ 0) {n : Nat} (hn : 0 < n)
    (hless : n < (digitsOf d.digits).length)
    (hexponent : d.exponent = n - ((digitsOf d.digits).length : ℤ)) :
    Spelled d ⟨(digitsOf d.digits).take n, (digitsOf d.digits).drop n, none⟩ := by
  have hsame : Spelling.exponent ⟨(digitsOf d.digits).take n, (digitsOf d.digits).drop n, none⟩
      = d.exponent := by
    rw [Spelling.exponent, Spelling.markExponent, hexponent, List.length_drop]
    omega
  obtain ⟨c, rest, hdigits, hne⟩ := digitsOf_head hd
  have hfront : (digitsOf d.digits).take n = c :: rest.take (n - 1) := by
    rw [hdigits, List.take_cons hn]
  refine ⟨⟨?_, fun c hc => digitsOf_isDigit _ c (List.mem_of_mem_take hc),
    fun c hc => digitsOf_isDigit _ c (List.mem_of_mem_drop hc), fun _ _ h => nomatch h⟩,
    .inr ⟨c, _, hfront, hne⟩, .inl ?_, ?_, .inl hsame⟩
  · rw [hfront]
    exact List.cons_ne_nil _ _
  · exact mt List.drop_eq_nil_iff.mp (by omega)
  · rw [hsame, List.take_append_drop, numeral_digitsOf, Digits.value]

/-- With an exponent, behind the first digit. -/
theorem spelled_mark (hd : d.digits ≠ 0) {c : Char} {rest : List Char}
    (hdigits : digitsOf d.digits = c :: rest) (width : Nat) {lead : ℤ}
    (hlead : lead = d.exponent + rest.length) :
    Spelled d ⟨[c], rest, some (decide (lead < 0), padLeft width '0' (digitsOf lead.natAbs))⟩ := by
  have hmark : Spelling.markExponent
      (some (decide (lead < 0), padLeft width '0' (digitsOf lead.natAbs))) = lead := by
    rw [Spelling.markExponent, padLeft, numeral_append, numeral_zeros, numeral_digitsOf]
    simp only [decide_eq_true_eq]
    split_ifs
    · omega
    · omega
  have hsame : Spelling.exponent
      ⟨[c], rest, some (decide (lead < 0), padLeft width '0' (digitsOf lead.natAbs))⟩
        = d.exponent := by
    rw [Spelling.exponent, hmark, hlead]
    exact add_sub_cancel_right _ _
  have hall := digitsOf_isDigit d.digits
  rw [hdigits, List.forall_mem_cons] at hall
  refine ⟨⟨List.cons_ne_nil _ _, ?_, hall.2, ?_⟩, .inr ⟨c, [], rfl, ?_⟩,
    .inr (Option.some_ne_none _), ?_, .inl hsame⟩
  · intro b hb
    rw [List.mem_singleton.mp hb]
    exact hall.1
  · intro negative ds h
    cases h
    exact ⟨List.append_ne_nil_of_right_ne_nil _ (digitsOf_ne_nil _),
      zeros_isDigit (digitsOf_isDigit _)⟩
  · obtain ⟨b, more, hhead, hne⟩ := digitsOf_head hd
    rw [hdigits] at hhead
    rwa [(List.cons.inj hhead).1]
  · rw [hsame, List.singleton_append, ← hdigits, numeral_digitsOf, Digits.value]

theorem placesText_of_ne_nil {places : List Char} (h : places ≠ []) :
    Spelling.placesText places = '.' :: places :=
  if_neg (by rwa [List.isEmpty_iff])

/-- **A DECIMAL IS SPELLED** by every layout. -/
theorem Layout.digits_spelled (l : Layout) (hd : d.digits ≠ 0) :
    ∃ s, l.digits d = s.text ∧ Spelled d s := by
  obtain ⟨c, rest, hdigits, -⟩ := digitsOf_head hd
  have hlength : (digitsOf d.digits).length = rest.length + 1 := by rw [hdigits, List.length_cons]
  unfold Layout.digits
  dsimp only
  generalize hlead : d.exponent + ((digitsOf d.digits).length : ℤ) - 1 = lead
  -- Without an exponent the point stands in front of the digits, behind them or between them.
  by_cases hplain : l.plainFrom ≤ lead ∧ lead < l.plainBelow
  · rw [if_pos hplain]
    by_cases hsmall : lead < 0
    · rw [if_pos hsmall]
      refine ⟨_, ?_, spelled_small (-lead - 1).toNat (by omega)⟩
      rw [Spelling.text, placesText_of_ne_nil
        (List.append_ne_nil_of_right_ne_nil _ (digitsOf_ne_nil _)), Spelling.markText,
        List.append_nil]
      rfl
    · rw [if_neg hsmall]
      by_cases hlarge : (digitsOf d.digits).length ≤ (lead + 1).toNat
      · refine ⟨_, ?_, spelled_large hd
          ((lead + 1).toNat - (digitsOf d.digits).length) (by omega)⟩
        rw [List.drop_eq_nil_of_le hlarge, List.take_of_length_le hlarge]
        rfl
      · refine ⟨_, ?_, spelled_point hd (n := (lead + 1).toNat) (by omega) (by omega) (by omega)⟩
        have hplaces : (digitsOf d.digits).drop (lead + 1).toNat ≠ [] :=
          mt List.drop_eq_nil_iff.mp (by omega)
        have hzeros : (lead + 1).toNat - (digitsOf d.digits).length = 0 := by omega
        rw [Spelling.text, placesText_of_ne_nil hplaces, Spelling.markText, hzeros,
          if_neg (by rwa [List.isEmpty_iff]), List.append_nil]
        rw [List.replicate_zero, List.append_nil]
  · rw [if_neg hplain]
    have hbehind : lead = d.exponent + rest.length := by omega
    refine ⟨_, ?_, spelled_mark hd hdigits l.exponentWidth hbehind⟩
    rw [hdigits, Spelling.text, Spelling.markText]
    simp only [decide_eq_true_eq]
    cases rest with
    | nil => rfl
    | cons b rest => rfl

end

end Likeness.Decimal
