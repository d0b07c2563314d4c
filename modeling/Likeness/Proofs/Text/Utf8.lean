import Likeness.Text.Lines
import Mathlib.Data.List.Basic

/-! # Reading what was written as UTF-8

    Every character is written in one of four forms, and each of them is read as
    the character again.  A form that is cut off is recognised as such: this is
    what lets a file be read by chunks that end anywhere.

    The main results are `Utf8.decode_encode` and `decodeStream_encode`. -/

namespace Likeness.Text

namespace Utf8

/-! ## The forms of a character -/

/-- The forms in which a character is written, by what decoding asks of them. -/
inductive Form (c : Char) : List UInt8 → Prop where
  | one {a : UInt8} (ha : a.toNat < 0x80) (hc : a.toNat = c.toNat) : Form c [a]
  | two {a b : UInt8} (ha : 0xC2 ≤ a.toNat) (ha' : a.toNat < 0xE0) (hb : isTail b = true)
      (hc : a.toNat % 32 * 64 + payload b = c.toNat) : Form c [a, b]
  | three {a b d : UInt8} (ha : 0xE0 ≤ a.toNat) (ha' : a.toNat < 0xF0)
      (hb : secondFits a b = true) (hd : isTail d = true)
      (hc : a.toNat % 16 * 4096 + payload b * 64 + payload d = c.toNat) : Form c [a, b, d]
  | four {a b d e : UInt8} (ha : 0xF0 ≤ a.toNat) (ha' : a.toNat < 0xF5)
      (hb : secondFits a b = true) (hd : isTail d = true) (he : isTail e = true)
      (hc : a.toNat % 8 * 262144 + payload b * 4096 + payload d * 64 + payload e = c.toNat) :
      Form c [a, b, d, e]

theorem toNat_lead {n : Nat} (h : n < 256) : (UInt8.ofNat n).toNat = n := by
  rw [UInt8.toNat_ofNat']
  omega

theorem toNat_tail (n : Nat) : (tail n).toNat = 0x80 + n % 64 := toNat_lead (by omega)

theorem isTail_tail (n : Nat) : isTail (tail n) = true := by
  simp only [isTail, Bool.and_eq_true, decide_eq_true_eq, UInt8.le_iff_toNat_le,
    UInt8.reduceToNat, toNat_tail]
  omega

theorem payload_tail (n : Nat) : payload (tail n) = n % 64 := by
  rw [payload, toNat_tail]
  omega

/-- A continuation byte fits behind a lead byte unless that excludes it. -/
theorem secondFits_tail {lead : UInt8} {n : Nat}
    (he0 : lead.toNat = 0xE0 → 0x20 ≤ n % 64) (hed : lead.toNat = 0xED → n % 64 < 0x20)
    (hf0 : lead.toNat = 0xF0 → 0x10 ≤ n % 64) (hf4 : lead.toNat = 0xF4 → n % 64 < 0x10) :
    secondFits lead (tail n) = true := by
  rw [secondFits, isTail_tail]
  simp only [Bool.true_and, Bool.and_eq_true, Bool.not_eq_true', Bool.and_eq_false_iff,
    beq_eq_false_iff_ne, ne_eq, decide_eq_false_iff_not, ← UInt8.toNat_inj,
    UInt8.lt_iff_toNat_lt, UInt8.le_iff_toNat_le, UInt8.reduceToNat, toNat_tail]
  omega

/-- A character has no code point of a surrogate, and none beyond the last one. -/
theorem toNat_valid (c : Char) :
    c.toNat < 0xD800 ∨ (0xDFFF < c.toNat ∧ c.toNat < 0x110000) := c.valid

theorem encodeChar_form (c : Char) : Form c (encodeChar c) := by
  have hvalid := toNat_valid c
  unfold encodeChar
  dsimp only
  split_ifs with h₁ h₂ h₃
  · have ha := toNat_lead (n := c.toNat) (by omega)
    exact .one (by omega) ha
  · have ha := toNat_lead (n := 0xC0 + c.toNat / 64) (by omega)
    refine .two (by omega) (by omega) (isTail_tail _) ?_
    rw [payload_tail]
    omega
  · have ha := toNat_lead (n := 0xE0 + c.toNat / 4096) (by omega)
    refine .three (by omega) (by omega) ?_ (isTail_tail _) ?_
    · apply secondFits_tail <;> omega
    · rw [payload_tail, payload_tail]
      omega
  · have ha := toNat_lead (n := 0xF0 + c.toNat / 262144) (by omega)
    refine .four (by omega) (by omega) ?_ (isTail_tail _) (isTail_tail _) ?_
    · apply secondFits_tail <;> omega
    · rw [payload_tail, payload_tail, payload_tail]
      omega

/-! ## Reading a form -/

/-- A byte is below another when its number is. -/
theorem lt_of_toNat {a b : UInt8} (h : a.toNat < b.toNat) : a < b := UInt8.lt_iff_toNat_lt.mpr h

theorem not_lt_of_toNat {a b : UInt8} (h : b.toNat ≤ a.toNat) : ¬ a < b :=
  fun hlt => absurd (UInt8.lt_iff_toNat_lt.mp hlt) (Nat.not_lt.mpr h)

/-- What is read behind the lead of two bytes. -/
theorem decodeFrom_two {a : UInt8} (ha : 0xC2 ≤ a.toNat) (ha' : a.toNat < 0xE0) (at' : Nat)
    (rest : List UInt8) :
    decodeFrom at' (a :: rest) =
      match rest with
      | [] => .stop .truncated a at' 1
      | b :: rest =>
        if isTail b then (decodeFrom (at' + 2) rest).cons (a.toNat % 32 * 64 + payload b)
        else .stop .invalidContinuation a at' 1 := by
  have h80 : ¬ a < 0x80 := not_lt_of_toNat (Nat.le_trans (by decide) ha)
  have hc2 : ¬ a < 0xC2 := not_lt_of_toNat ha
  have he0 : a < 0xE0 := lt_of_toNat ha'
  rw [decodeFrom.eq_def]
  exact (if_neg h80).trans ((if_neg hc2).trans (if_pos he0))

/-- What is read behind the lead of three bytes. -/
theorem decodeFrom_three {a : UInt8} (ha : 0xE0 ≤ a.toNat) (ha' : a.toNat < 0xF0) (at' : Nat)
    {b : UInt8} (hb : secondFits a b = true) (rest : List UInt8) :
    decodeFrom at' [a] = .stop .truncated a at' 1 ∧
    decodeFrom at' (a :: b :: rest) =
      match rest with
      | [] => .stop .truncated a at' 2
      | d :: rest =>
        if isTail d then
          (decodeFrom (at' + 3) rest).cons (a.toNat % 16 * 4096 + payload b * 64 + payload d)
        else .stop .invalidContinuation a at' 2 := by
  have h80 : ¬ a < 0x80 := not_lt_of_toNat (Nat.le_trans (by decide) ha)
  have hc2 : ¬ a < 0xC2 := not_lt_of_toNat (Nat.le_trans (by decide) ha)
  have he0 : ¬ a < 0xE0 := not_lt_of_toNat ha
  have hf0 : a < 0xF0 := lt_of_toNat ha'
  have hsecond : ¬ (!secondFits a b) = true := by rw [hb]; decide
  refine ⟨?_, ?_⟩
  · rw [decodeFrom.eq_def]
    exact (if_neg h80).trans ((if_neg hc2).trans ((if_neg he0).trans (if_pos hf0)))
  · rw [decodeFrom.eq_def]
    exact (if_neg h80).trans ((if_neg hc2).trans ((if_neg he0).trans ((if_pos hf0).trans
      (if_neg hsecond))))

/-- What is read behind the lead of four bytes. -/
theorem decodeFrom_four {a : UInt8} (ha : 0xF0 ≤ a.toNat) (ha' : a.toNat < 0xF5) (at' : Nat)
    {b d : UInt8} (hb : secondFits a b = true) (hd : isTail d = true) (rest : List UInt8) :
    decodeFrom at' [a] = .stop .truncated a at' 1 ∧
    decodeFrom at' [a, b] = .stop .truncated a at' 2 ∧
    decodeFrom at' (a :: b :: d :: rest) =
      match rest with
      | [] => .stop .truncated a at' 3
      | e :: rest =>
        if isTail e then
          (decodeFrom (at' + 4) rest).cons
            (a.toNat % 8 * 262144 + payload b * 4096 + payload d * 64 + payload e)
        else .stop .invalidContinuation a at' 3 := by
  have h80 : ¬ a < 0x80 := not_lt_of_toNat (Nat.le_trans (by decide) ha)
  have hc2 : ¬ a < 0xC2 := not_lt_of_toNat (Nat.le_trans (by decide) ha)
  have he0 : ¬ a < 0xE0 := not_lt_of_toNat (Nat.le_trans (by decide) ha)
  have hf0 : ¬ a < 0xF0 := not_lt_of_toNat ha
  have hf5 : a < 0xF5 := lt_of_toNat ha'
  have hsecond : ¬ (!secondFits a b) = true := by rw [hb]; decide
  have hthird : ¬ (!isTail d) = true := by rw [hd]; decide
  refine ⟨?_, ?_, ?_⟩
  · rw [decodeFrom.eq_def]
    exact (if_neg h80).trans ((if_neg hc2).trans ((if_neg he0).trans ((if_neg hf0).trans
      (if_pos hf5))))
  · rw [decodeFrom.eq_def]
    exact (if_neg h80).trans ((if_neg hc2).trans ((if_neg he0).trans ((if_neg hf0).trans
      ((if_pos hf5).trans (if_neg hsecond)))))
  · rw [decodeFrom.eq_def]
    exact (if_neg h80).trans ((if_neg hc2).trans ((if_neg he0).trans ((if_neg hf0).trans
      ((if_pos hf5).trans ((if_neg hsecond).trans (if_neg hthird))))))

/-- A form is read as its character. -/
theorem decodeFrom_form {c : Char} {form : List UInt8} (h : Form c form) (at' : Nat)
    (rest : List UInt8) :
    decodeFrom at' (form ++ rest) = (decodeFrom (at' + form.length) rest).cons c.toNat := by
  cases h with
  | @one a ha hc =>
      have h80 : a < 0x80 := lt_of_toNat ha
      show decodeFrom at' (a :: rest) = _
      rw [decodeFrom.eq_def]
      simp only [if_pos h80, hc, List.length_singleton]
  | @two a b ha ha' hb hc =>
      show decodeFrom at' (a :: b :: rest) = _
      rw [decodeFrom_two ha ha', ← hc]
      exact if_pos hb
  | @three a b d ha ha' hb hd hc =>
      show decodeFrom at' (a :: b :: d :: rest) = _
      rw [(decodeFrom_three ha ha' at' hb (d :: rest)).2, ← hc]
      exact if_pos hd
  | @four a b d e ha ha' hb hd he hc =>
      show decodeFrom at' (a :: b :: d :: e :: rest) = _
      rw [(decodeFrom_four ha ha' at' hb hd (e :: rest)).2.2, ← hc]
      exact if_pos he

/-- A form that is cut off is recognised as such. -/
theorem decodeFrom_cut {c : Char} {form : List UInt8} (h : Form c form) {k : Nat} (hk : 0 < k)
    (hcut : k < form.length) (at' : Nat) :
    ∃ byte, decodeFrom at' (form.take k) = .stop .truncated byte at' k := by
  cases h with
  | one ha hc => exact absurd hk (Nat.not_lt.mpr (Nat.le_of_lt_succ hcut))
  | @two a b ha ha' hb hc =>
      obtain rfl : k = 1 := Nat.le_antisymm (Nat.le_of_lt_succ hcut) hk
      exact ⟨a, decodeFrom_two ha ha' at' []⟩
  | @three a b d ha ha' hb hd hc =>
      have hcuts := decodeFrom_three ha ha' at' hb []
      obtain rfl | rfl : k = 1 ∨ k = 2 := by
        rw [List.length_cons, List.length_cons, List.length_singleton] at hcut
        omega
      · exact ⟨a, hcuts.1⟩
      · exact ⟨a, hcuts.2⟩
  | @four a b d e ha ha' hb hd he hc =>
      have hcuts := decodeFrom_four ha ha' at' hb hd []
      obtain rfl | rfl | rfl : k = 1 ∨ k = 2 ∨ k = 3 := by
        rw [List.length_cons, List.length_cons, List.length_cons, List.length_singleton] at hcut
        omega
      · exact ⟨a, hcuts.1⟩
      · exact ⟨a, hcuts.2.1⟩
      · exact ⟨a, hcuts.2.2⟩

/-! ## Reading a text -/

theorem encode_cons (c : Char) (cs : List Char) :
    encode (c :: cs) = encodeChar c ++ encode cs := List.flatMap_cons

/-- What follows a text is read from where the text ends. -/
theorem decodeFrom_encode (cs : List Char) (at' : Nat) (rest : List UInt8) :
    decodeFrom at' (encode cs ++ rest)
      = ⟨cs ++ (decodeFrom (at' + (encode cs).length) rest).chars,
        (decodeFrom (at' + (encode cs).length) rest).fault⟩ := by
  induction cs generalizing at' with
  | nil => rfl
  | cons c cs ih =>
      rw [encode_cons, List.append_assoc, decodeFrom_form (encodeChar_form c), ih,
        List.length_append, Nat.add_assoc, Decoded.cons, Char.ofNat_toNat]
      rfl

/-- **A TEXT IS READ AS IT WAS WRITTEN** as UTF-8. -/
theorem decode_encode (cs : List Char) : decode (encode cs) = ⟨cs, none⟩ := by
  have h := decodeFrom_encode cs 0 []
  rw [List.append_nil] at h
  rw [decode, h]
  exact congrArg (Decoded.mk · none) (List.append_nil cs)

theorem encodeChar_ne_nil (c : Char) : encodeChar c ≠ [] := by
  intro h
  have hform := encodeChar_form c
  rw [h] at hform
  exact nomatch hform

end Utf8

/-! ## Reading by chunks -/

open Utf8

/-- What a chunk leaves unfinished: nothing, or the beginning of the next character. -/
inductive Unfinished : List UInt8 → List Char → Prop where
  | nothing (cs : List Char) : Unfinished [] cs
  | cut {c : Char} {k : Nat} (cs : List Char) (hk : 0 < k) (hcut : k < (encodeChar c).length) :
      Unfinished ((encodeChar c).take k) (c :: cs)

/-- Wherever a text is cut, there are whole characters in front, and what is unfinished
    belongs to the character behind them. -/
theorem encode_cut (cs : List Char) (n : Nat) :
    ∃ front back carry, cs = front ++ back ∧ (encode cs).take n = encode front ++ carry ∧
      carry ++ (encode cs).drop n = encode back ∧ Unfinished carry back := by
  induction cs generalizing n with
  | nil =>
      refine ⟨[], [], [], rfl, List.take_nil, ?_, .nothing []⟩
      exact List.drop_nil
  | cons c cs ih =>
      by_cases hzero : n = 0
      · subst hzero
        exact ⟨[], c :: cs, [], rfl, rfl, rfl, .nothing _⟩
      · by_cases hcut : n < (encodeChar c).length
        · refine ⟨[], c :: cs, (encodeChar c).take n, rfl, ?_, ?_, .cut cs (by omega) hcut⟩
          · rw [encode_cons, List.take_append_of_le_length (Nat.le_of_lt hcut)]
            rfl
          · rw [encode_cons, List.drop_append_of_le_length (Nat.le_of_lt hcut), ← List.append_assoc,
              List.take_append_drop]
        · obtain ⟨front, back, carry, rfl, htake, hdrop, hcarry⟩ := ih (n - (encodeChar c).length)
          refine ⟨c :: front, back, carry, rfl, ?_, ?_, hcarry⟩
          · rw [encode_cons, encode_cons, List.take_append, List.take_of_length_le (by omega),
              htake, List.append_assoc]
          · rw [encode_cons, List.drop_append, List.drop_of_length_le (by omega)]
            exact hdrop

/-- A chunk is read up to what it leaves unfinished. -/
theorem decodeChunk_encode {carry : List UInt8} {back : List Char} (h : Unfinished carry back)
    (front : List Char) : decodeChunk (encode front ++ carry) = .ok (front, carry) := by
  have hdecode := decodeFrom_encode front 0 carry
  rw [decodeChunk, decode, hdecode]
  cases h with
  | nothing =>
      rw [show decodeFrom _ [] = ⟨[], none⟩ from rfl]
      show Except.ok (front ++ [], []) = _
      rw [List.append_nil]
  | @cut c k cs hk hcut =>
      obtain ⟨byte, hcut⟩ := decodeFrom_cut (encodeChar_form c) hk hcut (0 + (encode front).length)
      rw [hcut]
      show Except.ok (front ++ [], List.drop (0 + (encode front).length) _) = _
      rw [List.append_nil, Nat.zero_add, List.drop_left]

/-- Nothing is unfinished where a text ends. -/
theorem Unfinished.eq_nil {cs : List Char} (h : Unfinished (encode cs) cs) : cs = [] := by
  generalize hcarry : encode cs = carry at h
  cases h with
  | nothing =>
      cases cs with
      | nil => rfl
      | cons c cs =>
          rw [encode_cons] at hcarry
          exact absurd (List.append_eq_nil_iff.mp hcarry).1 (encodeChar_ne_nil c)
  | @cut c k cs hk hcut =>
      have hlength := congrArg List.length hcarry
      rw [encode_cons, List.length_append, List.length_take] at hlength
      omega

theorem decodeChunks_encode {fuel : Nat} {carry bytes : List UInt8} {cs : List Char}
    (hfuel : bytes.length < fuel) (hbytes : carry ++ bytes = encode cs)
    (hcarry : Unfinished carry cs) : decodeChunks fuel carry bytes = ⟨cs, none⟩ := by
  induction fuel generalizing carry bytes cs with
  | zero => exact absurd hfuel (Nat.not_lt_zero _)
  | succ fuel ih =>
      cases bytes with
      | nil =>
          rw [List.append_nil] at hbytes
          subst hbytes
          obtain rfl := hcarry.eq_nil
          rfl
      | cons b rest =>
          -- What was carried and this chunk are a beginning of what is left of the text.
          obtain ⟨front, back, carry', rfl, htake, hdrop, hcarry'⟩ :=
            encode_cut cs (carry.length + chunkSize)
          have hchunk : carry ++ (b :: rest).take chunkSize = encode front ++ carry' := by
            rw [← htake, ← hbytes, List.take_length_add_append]
          have hrest : carry' ++ (b :: rest).drop chunkSize = encode back := by
            rw [← hdrop, ← hbytes, List.drop_length_add_append]
          have hless : ((b :: rest).drop chunkSize).length < fuel := by
            have hsize : 0 < chunkSize := by decide
            rw [List.length_drop]
            rw [List.length_cons] at hfuel ⊢
            omega
          rw [decodeChunks, hchunk, decodeChunk_encode hcarry']
          show Decoded.mk (front ++ (decodeChunks fuel carry' _).chars) _ = _
          rw [ih hless hrest hcarry']

/-- **A TEXT IS READ AS IT WAS WRITTEN** also by chunks, wherever they end. -/
theorem decodeStream_encode (cs : List Char) : decodeStream (encode cs) = ⟨cs, none⟩ :=
  decodeChunks_encode (Nat.lt_succ_self _) rfl (.nothing cs)

end Likeness.Text
