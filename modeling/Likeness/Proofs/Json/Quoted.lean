import Likeness.Json.Reader
import Likeness.Proofs.Text.Utf8

/-! # Texts in JSON are read as they were written

    Quotes, backslashes and control characters are written as escapes, and an
    escape is read as its character.  No character below the blank is left in a
    text that was written, so none of them breaks a line. -/

namespace Likeness.Json.Quoted

/-! ## One character -/

/-- Control characters that have no letter of their own are written by their number. -/
theorem hex4?_hex {n : Nat} (h : n < 0x20) :
    ∃ a b c d, Text.Quoted.hex 4 n = [a, b, c, d] ∧ hex4? a b c d = some n := by
  have hall : ∀ n < 0x20, (Text.Quoted.hex 4 n).length = 4 ∧
      Decimal.readNat? 16 (Text.Quoted.hex 4 n) = some n := by decide
  obtain ⟨hlength, hread⟩ := hall n h
  match hhex : Text.Quoted.hex 4 n, hlength with
  | [a, b, c, d], _ =>
    rw [hhex] at hread
    exact ⟨a, b, c, d, rfl, hread⟩

/-- The two ways in which a character is written. -/
inductive Form (c : Char) : List Char → Prop where
  | escape {form : List Char}
      (h : ∀ start e rest, escape start (form ++ e :: rest) = .ok (c.toNat, e :: rest)) :
      Form c ('\\' :: form)
  | plain (hquote : c ≠ '"') (hescape : c ≠ '\\') (hcontrol : ¬ c.toNat < 0x20) : Form c [c]

theorem encodeChar_form (c : Char) : Form c (encodeChar c) := by
  unfold encodeChar
  split_ifs with hquote hescape hfeed hreturn htab hback hpage hcontrol
  · subst hquote
    exact .escape fun _ _ _ => rfl
  · subst hescape
    exact .escape fun _ _ _ => rfl
  · subst hfeed
    exact .escape fun _ _ _ => rfl
  · subst hreturn
    exact .escape fun _ _ _ => rfl
  · subst htab
    exact .escape fun _ _ _ => rfl
  · subst hback
    exact .escape fun _ _ _ => rfl
  · subst hpage
    exact .escape fun _ _ _ => rfl
  · refine .escape fun start e rest => ?_
    obtain ⟨a, b, d, f, hhex, hread⟩ := hex4?_hex hcontrol
    have hhigh : isHigh c.toNat = false := by
      rw [isHigh, Bool.and_eq_false_iff, decide_eq_false_iff_not]
      exact Or.inl (by omega)
    rw [hhex]
    show unicodeEscape (a :: b :: d :: f :: e :: rest) = _
    rw [unicodeEscape, hread]
    simp only [hhigh, Bool.false_eq_true, if_false]
  · exact .plain hquote hescape hcontrol

/-! ## A text -/

/-- One character is read as it was written. -/
theorem textFrom_encodeChar (start fuel : Nat) (c e : Char) (rest : List Char) :
    textFrom start (fuel + 1) (encodeChar c ++ e :: rest)
      = (textFrom start fuel (e :: rest)).map fun r => (c.toNat :: r.1, r.2) := by
  have hform := encodeChar_form c
  generalize encodeChar c = form at hform
  cases hform with
  | @escape form h =>
      have hquote : ¬ '\\' = '"' := by decide
      rw [List.cons_append, textFrom, if_neg hquote, if_pos rfl, h]
      cases htext : textFrom start fuel (e :: rest) with
      | error refusal =>
          show (textFrom start fuel (e :: rest) >>= fun r => _) = _
          rw [htext]
          rfl
      | ok r =>
          show (textFrom start fuel (e :: rest) >>= fun r => _) = _
          rw [htext]
          rfl
  | plain hquote hescape hcontrol =>
      rw [List.singleton_append, textFrom, if_neg hquote, if_neg hescape, if_neg hcontrol]
      cases textFrom start fuel (e :: rest) with
      | error e => rfl
      | ok r => rfl

/-- A text is read up to its closing quote. -/
theorem textFrom_encode (start : Nat) (cs rest : List Char) {fuel : Nat}
    (hfuel : cs.length < fuel) :
    textFrom start fuel (cs.flatMap encodeChar ++ '"' :: rest)
      = .ok (cs.map Char.toNat, rest) := by
  induction cs generalizing fuel with
  | nil =>
      obtain ⟨fuel, rfl⟩ := Nat.exists_eq_add_one_of_ne_zero (Nat.ne_zero_of_lt hfuel)
      rfl
  | cons c cs ih =>
      obtain ⟨fuel, rfl⟩ := Nat.exists_eq_add_one_of_ne_zero (Nat.ne_zero_of_lt hfuel)
      have hrest := ih (Nat.lt_of_succ_lt_succ hfuel)
      obtain ⟨e, more, hmore⟩ : ∃ e more, cs.flatMap encodeChar ++ '"' :: rest = e :: more :=
        List.exists_cons_of_ne_nil (List.append_ne_nil_of_right_ne_nil _ (List.cons_ne_nil _ _))
      rw [List.flatMap_cons, List.append_assoc, hmore, textFrom_encodeChar, ← hmore, hrest]
      rfl

/-- No character is written by nothing. -/
theorem length_le_flatMap (cs : List Char) : cs.length ≤ (cs.flatMap encodeChar).length := by
  induction cs with
  | nil => exact Nat.le_refl 0
  | cons c cs ih =>
      have hone : 1 ≤ (encodeChar c).length := by
        cases hform : encodeChar c with
        | nil => exact nomatch hform ▸ encodeChar_form c
        | cons d ds => exact Nat.le_add_left 1 ds.length
      rw [List.flatMap_cons, List.length_append, List.length_cons]
      omega

/-! ## Its characters -/

/-- A character that is no control character. -/
def isInline (c : Char) : Bool := 0x20 ≤ c.toNat

theorem encodeChar_inline (c : Char) : (encodeChar c).all isInline = true := by
  have hhex : ∀ n < 0x20, (Text.Quoted.hex 4 n).all isInline = true := by decide
  unfold encodeChar
  split_ifs with hquote hescape hfeed hreturn htab hback hpage hcontrol
  · rfl
  · rfl
  · rfl
  · rfl
  · rfl
  · rfl
  · rfl
  · exact hhex _ hcontrol
  · rw [List.all_cons, isInline, decide_eq_true (Nat.not_lt.mp hcontrol)]
    rfl

theorem encode_inline (cs : List Char) : (encode cs).all isInline = true := by
  have hbody : (cs.flatMap encodeChar).all isInline = true := by
    rw [List.all_flatMap]
    exact List.all_eq_true.mpr fun c _ => encodeChar_inline c
  rw [encode, List.all_append, List.all_cons, hbody]
  rfl

end Likeness.Json.Quoted

namespace Likeness

/-- The code points of characters are a text. -/
theorem Value.ofCodes_toNat (cs : List Char) :
    Value.ofCodes (cs.map Char.toNat) = .text (String.ofList cs) := by
  have hwhole : (cs.map Char.toNat).any Value.isHalf = false := by
    rw [List.any_eq_false]
    intro n hn
    obtain ⟨c, -, rfl⟩ := List.mem_map.mp hn
    have hvalid := Text.Utf8.toNat_valid c
    simp only [Value.isHalf, Bool.and_eq_true, decide_eq_true_eq]
    omega
  have hback : (cs.map Char.toNat).map Char.ofNat = cs := by
    rw [List.map_map]
    exact (List.map_congr_left fun c _ => Char.ofNat_toNat c).trans (List.map_id cs)
  rw [Value.ofCodes, hwhole, hback]
  rfl

namespace Json

/-- **A TEXT IN JSON IS READ AS IT WAS WRITTEN**, up to its closing quote. -/
theorem quoted_encode (s : String) (rest : List Char) :
    ∃ body, Quoted.encode s.toList ++ rest = '"' :: body ∧
      quoted body = .ok (s.toList.map Char.toNat, rest) := by
  refine ⟨s.toList.flatMap Quoted.encodeChar ++ '"' :: rest, ?_, ?_⟩
  · rw [Quoted.encode, List.append_assoc]
    rfl
  · refine Quoted.textFrom_encode _ _ _ ?_
    have hlength := Quoted.length_le_flatMap s.toList
    rw [List.length_append]
    omega

end Json

end Likeness
