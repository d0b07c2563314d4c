import Likeness.Proofs.Json.Scalars
import Likeness.Proofs.Scalar.Bits

/-! # Doubles are read as they were written

    A number with a point or an exponent is read by its parts, which are those of
    its spelling (`number_spelled`).  A double is written as the decimal that was
    chosen for it; that lies around the double, and so the double is read again
    (`scalar_double`).  This is true of all doubles: also of both zeros, of the
    infinite ones, and of the one that is not a number. -/

namespace Likeness.Json

open Decimal (Spelled Spelling Binary Digits Reading)
open Decimal.Spelling (signed placesText markText)

/-! ## The parts of a number -/

theorem numberSign_text {s : Spelling} (hs : s.Valid) (negative : Bool) :
    numberSign (signed negative s.text) = (if negative then ['-'] else [], s.text) := by
  cases negative with
  | true => rfl
  | false =>
      obtain ⟨c, rest, htext, hdigit⟩ := hs.text_head
      refine numberSign_of_ne fun d hd => ?_
      rw [show signed false s.text = s.text from rfl, htext] at hd
      cases hd
      exact fun heq => absurd (heq ▸ hdigit) (by decide)

theorem wholePart?_text {d : Digits} {s : Spelling} (hs : Spelled d s) :
    wholePart? s.text = some (s.whole, placesText s.places ++ markText s.mark) := by
  obtain ⟨htake, hdrop⟩ := hs.valid.cut_whole
  rcases hs.head with hzero | ⟨c, rest, hwhole, hne⟩
  · rw [Spelling.text, hzero]
    rfl
  · have hdigit : Decimal.isDigit c = true :=
      hs.valid.whole_digits c (by rw [hwhole]; exact List.mem_cons_self)
    have htext : s.text = c :: (rest ++ (placesText s.places ++ markText s.mark)) := by
      rw [Spelling.text, hwhole]
      rfl
    rw [htext, List.takeWhile_cons_of_pos hdigit] at htake
    rw [htext, List.dropWhile_cons_of_pos hdigit] at hdrop
    rw [htext, wholePart?, if_neg hne, if_pos hdigit, htake, hdrop]

theorem fractionPart_cons (rest : List Char) :
    fractionPart ('.' :: rest) =
      if (rest.takeWhile Decimal.isDigit).isEmpty then ([], '.' :: rest)
      else ('.' :: rest.takeWhile Decimal.isDigit, rest.dropWhile Decimal.isDigit) := rfl

theorem fractionPart_text {s : Spelling} (hs : s.Valid) :
    fractionPart (placesText s.places ++ markText s.mark)
      = (placesText s.places, markText s.mark) := by
  have hmark : ∀ c, (markText s.mark).head? = some c → Decimal.isDigit c = false ∧ c ≠ '.' := by
    intro c hc
    rw [Spelling.markText_head s.mark c hc]
    exact ⟨rfl, by decide⟩
  unfold placesText
  split_ifs with hempty
  · exact fractionPart_of_ne fun c hc => (hmark c hc).2
  · obtain ⟨htake, hdrop⟩ :=
      Decimal.cut_digits hs.places_digits fun c hc => (hmark c hc).1
    rw [List.cons_append, fractionPart_cons, htake, hdrop, if_neg hempty]

theorem exponentPart_text {s : Spelling} (hs : s.Valid) :
    exponentPart (markText s.mark) = (markText s.mark, []) := by
  cases hmark : s.mark with
  | none => rfl
  | some m =>
      obtain ⟨negative, ds⟩ := m
      obtain ⟨hne, hdigits⟩ := hs.mark_digits negative ds hmark
      have hsign : exponentSign ((if negative then '-' else '+') :: ds)
          = ([if negative then '-' else '+'], ds) := by
        cases negative with
        | true => rfl
        | false => rfl
      rw [markText, exponentPart_cons, if_pos (.inl rfl), hsign,
        List.takeWhile_eq_self_iff.mpr hdigits, List.dropWhile_eq_nil_iff.mpr hdigits,
        if_neg (by rwa [List.isEmpty_iff])]
      rfl

/-- A number is read as the decimal that it spells. -/
theorem number_spelled {d : Digits} {s : Spelling} (hs : Spelled d s) (negative : Bool) :
    number (signed negative s.text)
      = .ok (.real (Binary.ofDecimal negative (Decimal.numeral (s.whole ++ s.places)) s.exponent),
          []) := by
  have hparts : ¬ ((placesText s.places).isEmpty && (markText s.mark).isEmpty) = true := by
    rw [Bool.and_eq_true, List.isEmpty_iff, List.isEmpty_iff]
    rintro ⟨hplaces, hmark⟩
    rcases hs.real with hne | hne
    · rw [Decimal.placesText_of_ne_nil hne] at hplaces
      exact nomatch hplaces
    · cases hm : s.mark with
      | none => exact hne hm
      | some m =>
          rw [hm] at hmark
          exact nomatch hmark
  have hsigned : (if negative then ['-'] else []) ++ s.whole ++ placesText s.places
      ++ markText s.mark = signed negative s.text := by
    rw [Spelling.text]
    cases negative with
    | true => simp only [signed, if_true, List.append_assoc, List.cons_append, List.nil_append]
    | false => simp only [signed, Bool.false_eq_true, if_false, List.append_assoc, List.nil_append]
  rw [number_eq, numberSign_text hs.valid, wholePart?_text hs]
  dsimp only
  rw [fractionPart_text hs.valid]
  dsimp only
  rw [exponentPart_text hs.valid]
  unfold numberOf
  dsimp only
  rw [if_neg hparts, hsigned, hs.valid.readFloat?]

theorem text_plain {s : Spelling} (hs : s.Valid) (negative : Bool) :
    (signed negative s.text).all isPlain = true := by
  have hdigits : ∀ {ds : List Char}, (∀ c ∈ ds, Decimal.isDigit c = true) →
      ds.all isPlain = true := by
    intro ds hds
    rw [List.all_eq_true]
    exact fun c hc => isPlain_of_isDigit (hds c hc)
  have hplaces : (placesText s.places).all isPlain = true := by
    unfold placesText
    split_ifs
    · rfl
    · rw [List.all_cons, hdigits hs.places_digits]
      rfl
  have hmark : (markText s.mark).all isPlain = true := by
    cases hm : s.mark with
    | none => rfl
    | some m =>
        have hds := hdigits (hs.mark_digits m.1 m.2 hm).2
        rw [markText, List.all_cons, List.all_cons, hds]
        cases m.1 with
        | true => rfl
        | false => rfl
  have htext : s.text.all isPlain = true := by
    rw [Spelling.text, List.all_append, List.all_append, hdigits hs.whole_digits, hplaces, hmark]
    rfl
  cases negative with
  | true => exact htext
  | false => exact htext

/-! ## Doubles -/

/-- Zero as a decimal is spelled with one place. -/
theorem spelled_zero : Spelled ⟨0, -1⟩ ⟨['0'], ['0'], none⟩ := by
  have hvalue : Decimal.numeral (['0'] ++ ['0']) = 0 := rfl
  refine ⟨⟨List.cons_ne_nil _ _, Decimal.zero_isDigit, Decimal.zero_isDigit,
    fun _ _ h => nomatch h⟩, .inl rfl, .inl (List.cons_ne_nil _ _), ?_, .inl rfl⟩
  rw [hvalue, Digits.value, Nat.cast_zero, zero_mul, zero_mul]

/-- The decimal that was chosen for a double is read as that double, however it is spelled. -/
theorem ofDecimal_spelled {m : Binary} (hm : m.Valid) {s : Spelling} (hs : Spelled m.shortest s)
    (negative : Bool) :
    Binary.ofDecimal negative (Decimal.numeral (s.whole ++ s.places)) s.exponent
      = Float.ofBits (UInt64.ofNat (if negative then m.bits + twoTo 63 else m.bits)) := by
  obtain ⟨haround, hexponent⟩ := Binary.shortest_around hm
  rw [← hs.value] at haround
  have hleast : -1100 ≤ s.exponent := by
    rcases hs.exponent with heq | heq
    · exact heq ▸ hexponent
    · rw [heq]
      decide
  exact Decimal.ofDecimal_of_around hm hleast haround negative

/-- The digits of a decimal that lies around a double. -/
theorem shortest_digits_ne_zero {m : Binary} (hm : m.Valid) : m.shortest.digits ≠ 0 := by
  intro hzero
  have hpos := (Binary.shortest_around hm).1.pos hm
  rw [Digits.value, hzero, Nat.cast_zero, zero_mul, zero_div] at hpos
  exact lt_irrefl 0 hpos

/-- **A DOUBLE IS READ AS IT WAS WRITTEN**, whichever it is. -/
theorem scalar_double (x : Float) :
    scalar (Decimal.Layout.json.text x).toList = .ok (.real x, []) := by
  unfold Decimal.Layout.text
  cases hreading : Reading.ofFloat x with
  | nan =>
      rw [Reading.ofFloat_nan hreading]
      rfl
  | infinite negative =>
      rw [Reading.ofFloat_infinite hreading]
      cases negative with
      | true => rfl
      | false => rfl
  | finite negative m =>
      obtain ⟨hvalid, hx⟩ := Reading.ofFloat_finite hreading
      have hread : ∀ {d : Digits} {s : Spelling}, Spelled d s →
          Binary.ofDecimal negative (Decimal.numeral (s.whole ++ s.places)) s.exponent = x →
          scalar (signed negative s.text) = .ok (.real x, []) := by
        intro d s hs hvalue
        rw [scalar_plain (text_plain hs.valid negative), number_spelled hs, hvalue]
      dsimp only
      rw [String.toList_ofList]
      rcases hvalid with ⟨hzero, hbits⟩ | hvalid
      · rw [if_pos hzero]
        refine hread spelled_zero (Eq.trans ?_ hx)
        rw [hbits]
        rfl
      · rw [if_neg hvalid.mantissa_pos.ne']
        obtain ⟨s, htext, hs⟩ :=
          Decimal.Layout.json.digits_spelled (shortest_digits_ne_zero hvalid)
        rw [htext]
        exact hread hs ((ofDecimal_spelled hvalid hs negative).trans hx)

end Likeness.Json
