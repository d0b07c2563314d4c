import Likeness.Json.Document
import Likeness.Json.Writer
import Likeness.Proofs.Decimal.Notation
import Likeness.Proofs.Json.Quoted
import Mathlib.Data.List.TakeWhile

/-! # Values without parts are read as they were written

    A number or a name ends where the next part of a document begins: at a blank,
    a comma or a closing bracket.  So what is read of a text on its own is read of
    it in front of these as well (`scalar_append`). -/

namespace Likeness.Json

/-! ## Where a value ends -/

/-- A character that ends a number or a name. -/
def isDelimiter (c : Char) : Bool := isBlank c || c == ',' || c == ']' || c == '\x7d'

/-- A text that begins with a delimiter, if it has a character. -/
def Delimited (cs : List Char) : Prop := ∀ c, cs.head? = some c → isDelimiter c = true

theorem Delimited.nil : Delimited [] := fun _ h => nomatch h

theorem Delimited.cons {c : Char} (h : isDelimiter c = true) (cs : List Char) :
    Delimited (c :: cs) := by
  intro d hd
  cases hd
  exact h

/-- A delimiter is none of the characters of a number or a name. -/
theorem isDelimiter_ne {c d : Char} (hc : isDelimiter c = true) (hd : isDelimiter d = false) :
    c ≠ d := by
  rintro rfl
  exact absurd (hc.symm.trans hd) (by decide)

theorem isDigit_of_isDelimiter {c : Char} (h : isDelimiter c = true) :
    Decimal.isDigit c = false := by
  simp only [isDelimiter, isBlank, Bool.or_eq_true, beq_iff_eq] at h
  rcases h with (((((rfl | rfl) | rfl) | rfl) | rfl) | rfl) | rfl
  all_goals rfl

variable {tail : List Char}

theorem takeWhile_isDigit (h : Delimited tail) (cs : List Char) :
    (cs ++ tail).takeWhile Decimal.isDigit = cs.takeWhile Decimal.isDigit := by
  induction cs with
  | nil =>
      cases tail with
      | nil => rfl
      | cons c tail =>
          rw [List.nil_append, List.takeWhile_cons, isDigit_of_isDelimiter (h c rfl)]
          rfl
  | cons c cs ih =>
      rw [List.cons_append, List.takeWhile_cons, List.takeWhile_cons, ih]

theorem dropWhile_isDigit (h : Delimited tail) (cs : List Char) :
    (cs ++ tail).dropWhile Decimal.isDigit = cs.dropWhile Decimal.isDigit ++ tail := by
  induction cs with
  | nil =>
      cases tail with
      | nil => rfl
      | cons c tail =>
          rw [List.nil_append, List.dropWhile_cons, isDigit_of_isDelimiter (h c rfl)]
          rfl
  | cons c cs ih =>
      rw [List.cons_append, List.dropWhile_cons, List.dropWhile_cons, ih]
      split_ifs
      · rfl
      · rfl

/-! ## The parts of a number -/

theorem wholePart?_append (h : Delimited tail) {cs whole rest : List Char}
    (hcs : wholePart? cs = some (whole, rest)) :
    wholePart? (cs ++ tail) = some (whole, rest ++ tail) := by
  cases cs with
  | nil => exact nomatch hcs
  | cons c cs =>
      unfold wholePart? at hcs ⊢
      rw [List.cons_append]
      dsimp only at hcs ⊢
      rw [takeWhile_isDigit h, dropWhile_isDigit h]
      split_ifs at hcs ⊢
      · cases hcs
        rfl
      · cases hcs
        rfl

theorem fractionPart_of_ne {cs : List Char} (h : ∀ c, cs.head? = some c → c ≠ '.') :
    fractionPart cs = ([], cs) := by
  unfold fractionPart
  split
  · exact absurd rfl (h '.' rfl)
  · rfl

theorem fractionPart_append (h : Delimited tail) (cs : List Char) :
    fractionPart (cs ++ tail) = ((fractionPart cs).1, (fractionPart cs).2 ++ tail) := by
  cases cs with
  | nil => exact fractionPart_of_ne fun c hc => isDelimiter_ne (h c hc) (by decide)
  | cons c cs =>
      by_cases hpoint : c = '.'
      · subst hpoint
        simp only [List.cons_append, fractionPart, takeWhile_isDigit h, dropWhile_isDigit h]
        split_ifs
        · rfl
        · rfl
      · have hne : ∀ ds d, (c :: ds).head? = some d → d ≠ '.' := by
          rintro ds d ⟨⟩
          exact hpoint
        rw [List.cons_append, fractionPart_of_ne (hne _), fractionPart_of_ne (hne _)]
        rfl

/-- The sign of an exponent, and what follows it. -/
def exponentSign : List Char → List Char × List Char
  | '-' :: rest => (['-'], rest)
  | '+' :: rest => (['+'], rest)
  | rest => ([], rest)

theorem exponentSign_of_ne {cs : List Char} (h : ∀ c, cs.head? = some c → c ≠ '-' ∧ c ≠ '+') :
    exponentSign cs = ([], cs) := by
  unfold exponentSign
  split
  · exact absurd rfl (h '-' rfl).1
  · exact absurd rfl (h '+' rfl).2
  · rfl

theorem exponentSign_append (h : Delimited tail) (cs : List Char) :
    exponentSign (cs ++ tail) = ((exponentSign cs).1, (exponentSign cs).2 ++ tail) := by
  cases cs with
  | nil =>
      exact exponentSign_of_ne fun c hc =>
        ⟨isDelimiter_ne (h c hc) (by decide), isDelimiter_ne (h c hc) (by decide)⟩
  | cons c cs =>
      by_cases hminus : c = '-'
      · subst hminus
        rfl
      · by_cases hplus : c = '+'
        · subst hplus
          rfl
        · have hne : ∀ ds d, (c :: ds).head? = some d → d ≠ '-' ∧ d ≠ '+' := by
            rintro ds d ⟨⟩
            exact ⟨hminus, hplus⟩
          rw [List.cons_append, exponentSign_of_ne (hne _), exponentSign_of_ne (hne _)]
          rfl

theorem exponentPart_cons (c : Char) (rest : List Char) :
    exponentPart (c :: rest) =
      if c = 'e' ∨ c = 'E' then
        if ((exponentSign rest).2.takeWhile Decimal.isDigit).isEmpty then ([], c :: rest)
        else (c :: (exponentSign rest).1 ++ (exponentSign rest).2.takeWhile Decimal.isDigit,
          (exponentSign rest).2.dropWhile Decimal.isDigit)
      else ([], c :: rest) := rfl

theorem exponentPart_append (h : Delimited tail) (cs : List Char) :
    exponentPart (cs ++ tail) = ((exponentPart cs).1, (exponentPart cs).2 ++ tail) := by
  cases cs with
  | nil =>
      cases tail with
      | nil => rfl
      | cons c tail =>
          have hmark : ¬ (c = 'e' ∨ c = 'E') := by
            rintro (hc | hc)
            · exact isDelimiter_ne (h c rfl) (by decide) hc
            · exact isDelimiter_ne (h c rfl) (by decide) hc
          rw [List.nil_append, exponentPart_cons, if_neg hmark]
          rfl
  | cons c cs =>
      rw [List.cons_append, exponentPart_cons, exponentPart_cons, exponentSign_append h,
        takeWhile_isDigit h, dropWhile_isDigit h]
      split_ifs
      · rfl
      · rfl
      · rfl

/-- The sign of a number, and what follows it. -/
def numberSign : List Char → List Char × List Char
  | '-' :: rest => (['-'], rest)
  | cs => ([], cs)

theorem numberSign_of_ne {cs : List Char} (h : ∀ c, cs.head? = some c → c ≠ '-') :
    numberSign cs = ([], cs) := by
  unfold numberSign
  split
  · exact absurd rfl (h '-' rfl)
  · rfl

theorem numberSign_append (h : Delimited tail) (cs : List Char) :
    numberSign (cs ++ tail) = ((numberSign cs).1, (numberSign cs).2 ++ tail) := by
  cases cs with
  | nil => exact numberSign_of_ne fun c hc => isDelimiter_ne (h c hc) (by decide)
  | cons c cs =>
      by_cases hminus : c = '-'
      · subst hminus
        rfl
      · have hne : ∀ ds d, (c :: ds).head? = some d → d ≠ '-' := by
          rintro ds d ⟨⟩
          exact hminus
        rw [List.cons_append, numberSign_of_ne (hne _), numberSign_of_ne (hne _)]
        rfl

/-- The number of a sign and three parts, and what follows it; `left` is what was left at its
    first character. -/
def numberOf (left : Nat) (sign whole fraction exponent rest : List Char) :
    Except Refusal (Value × List Char) :=
  if fraction.isEmpty && exponent.isEmpty then
    if digitLimit < whole.length then .error (.tooManyDigits whole.length)
    else
      .ok (.int (if sign.isEmpty then ((Decimal.readNat? 10 whole).getD 0 : Int)
        else -((Decimal.readNat? 10 whole).getD 0 : Int)), rest)
  else
    match Decimal.readFloat? (sign ++ whole ++ fraction ++ exponent) with
    | some x => .ok (.real x, rest)
    | none => .error (.at .valueExpected left)

theorem number_eq (cs : List Char) :
    number cs =
      match wholePart? (numberSign cs).2 with
      | none => .error (.at .valueExpected cs.length)
      | some (whole, rest) =>
        numberOf cs.length (numberSign cs).1 whole (fractionPart rest).1
          (exponentPart (fractionPart rest).2).1 (exponentPart (fractionPart rest).2).2 := rfl

/-- What follows a number is left as it is. -/
theorem numberOf_append {left : Nat} {sign whole fraction exponent rest rest' : List Char}
    {v : Value} (h : numberOf left sign whole fraction exponent rest = .ok (v, rest'))
    (left' : Nat) (tail : List Char) :
    numberOf left' sign whole fraction exponent (rest ++ tail) = .ok (v, rest' ++ tail) := by
  unfold numberOf at h ⊢
  split_ifs at h ⊢ with hwhole hmany hsign
  · cases h
    rfl
  · cases h
    rfl
  · cases hread : Decimal.readFloat? (sign ++ whole ++ fraction ++ exponent) with
    | none =>
        rw [hread] at h
        exact nomatch h
    | some x =>
        rw [hread] at h
        cases h
        rfl

theorem number_append (h : Delimited tail) {cs rest : List Char} {v : Value}
    (hcs : number cs = .ok (v, rest)) : number (cs ++ tail) = .ok (v, rest ++ tail) := by
  rw [number_eq] at hcs ⊢
  rw [numberSign_append h]
  cases hwhole : wholePart? (numberSign cs).2 with
  | none =>
      rw [hwhole] at hcs
      exact nomatch hcs
  | some parts =>
      obtain ⟨whole, after⟩ := parts
      rw [hwhole] at hcs
      rw [wholePart?_append h hwhole]
      dsimp only
      rw [fractionPart_append h, exponentPart_append h]
      exact numberOf_append hcs _ tail

/-! ## Names -/

theorem cutWord?_eq_some {word : String} {cs rest : List Char} :
    cutWord? word cs = some rest ↔ cs = word.toList ++ rest := by
  unfold cutWord?
  dsimp only
  constructor
  · intro h
    split_ifs at h with hword
    cases h
    calc
      cs = cs.take word.toList.length ++ cs.drop word.toList.length :=
        (List.take_append_drop _ _).symm
      _ = word.toList ++ cs.drop word.toList.length := by rw [hword]
  · rintro rfl
    rw [List.take_left, List.drop_left, if_pos rfl]

/-- A name that holds no delimiter does not go on behind one. -/
theorem cutWord?_append (h : Delimited tail) {word : String}
    (hword : ∀ c ∈ word.toList, isDelimiter c = false) (cs : List Char) :
    cutWord? word (cs ++ tail) = (cutWord? word cs).map (· ++ tail) := by
  cases hcs : cutWord? word cs with
  | some rest =>
      rw [cutWord?_eq_some] at hcs
      rw [Option.map_some, cutWord?_eq_some, hcs, List.append_assoc]
  | none =>
      rw [Option.map_none, Option.eq_none_iff_forall_ne_some]
      intro rest hrest
      rw [cutWord?_eq_some, List.append_eq_append_iff] at hrest
      rcases hrest with ⟨more, hmore, htail⟩ | ⟨more, hmore, _⟩
      · cases more with
        | nil =>
            rw [List.append_nil] at hmore
            have hfound : cutWord? word cs = some [] := by
              rw [cutWord?_eq_some, hmore, List.append_nil]
            exact nomatch hcs.symm.trans hfound
        | cons c more =>
            have hdelimiter := h c (by rw [htail]; rfl)
            have hmem : c ∈ word.toList := by
              rw [hmore]
              exact List.mem_append_right _ List.mem_cons_self
            exact nomatch hdelimiter.symm.trans (hword c hmem)
      · exact nomatch hcs.symm.trans (cutWord?_eq_some.mpr hmore)

/-- A value that is read by name, and what follows it. -/
def named? (cs : List Char) : Option (Value × List Char) :=
  namedValues.findSome? fun n => (cutWord? n.1 cs).map fun rest => (n.2, rest)

theorem named?_append (h : Delimited tail) (cs : List Char) :
    named? (cs ++ tail) = (named? cs).map fun r => (r.1, r.2 ++ tail) := by
  have hlisted : ((namedValues.map (·.1)).all fun n =>
      n.toList.all fun c => isDelimiter c == false) = true := by decide +kernel
  -- No name goes on past a delimiter, so what follows the text cannot complete one.
  have hwords : ∀ n ∈ namedValues.map (·.1), ∀ c ∈ n.toList, isDelimiter c = false :=
    fun n hn c hc => eq_of_beq
      (List.all_eq_true.mp (List.all_eq_true.mp hlisted n hn) c hc)
  have hall : ∀ names : List (String × Value), (∀ n ∈ names.map (·.1), ∀ c ∈ n.toList,
      isDelimiter c = false) →
      (names.findSome? fun n => (cutWord? n.1 (cs ++ tail)).map fun rest => (n.2, rest))
        = (names.findSome? fun n => (cutWord? n.1 cs).map fun rest => (n.2, rest)).map
          fun r => (r.1, r.2 ++ tail) := by
    intro names hnames
    induction names with
    | nil => rfl
    | cons n names ih =>
        rw [List.findSome?_cons, List.findSome?_cons,
          cutWord?_append h (hnames n.1 List.mem_cons_self),
          ih fun m hm => hnames m (List.mem_cons_of_mem _ hm)]
        cases cutWord? n.1 cs with
        | none => rfl
        | some rest => rfl
  exact hall namedValues hwords

theorem scalar_of_some {cs : List Char} {r : Value × List Char} (h : named? cs = some r) :
    scalar cs = .ok r := by
  rw [named?] at h
  rw [scalar, h]

theorem scalar_of_none {cs : List Char} (h : named? cs = none) : scalar cs = number cs := by
  rw [named?] at h
  rw [scalar, h]

/-- **WHAT FOLLOWS A VALUE WITHOUT PARTS IS LEFT AS IT IS**, if it begins with a
    delimiter. -/
theorem scalar_append (h : Delimited tail) {cs rest : List Char} {v : Value}
    (hcs : scalar cs = .ok (v, rest)) : scalar (cs ++ tail) = .ok (v, rest ++ tail) := by
  have hname := named?_append h cs
  cases hnamed : named? cs with
  | none =>
      rw [hnamed] at hname
      rw [scalar_of_none hnamed] at hcs
      rw [scalar_of_none hname]
      exact number_append h hcs
  | some r =>
      rw [hnamed] at hname
      rw [scalar_of_some hnamed] at hcs
      cases hcs
      exact scalar_of_some hname

/-! ## Integers -/

/-- A character of numbers that are not read by name. -/
def isPlain (c : Char) : Bool := Decimal.isDigit c || "+-.e".toList.contains c

theorem isPlain_of_isDigit {c : Char} (h : Decimal.isDigit c = true) : isPlain c = true := by
  rw [isPlain, h]
  rfl

/-- What holds no other letters is not read by name. -/
theorem named?_eq_none {cs : List Char} (h : cs.all isPlain = true) : named? cs = none := by
  have hwords : ∀ n ∈ namedValues.map (·.1), n.toList.all isPlain = false := by decide
  rw [named?, List.findSome?_eq_none_iff]
  intro n hn
  have hword := hwords n.1 (List.mem_map_of_mem hn)
  cases hcut : cutWord? n.1 cs with
  | none => rfl
  | some rest =>
      rw [cutWord?_eq_some] at hcut
      rw [hcut, List.all_append, hword] at h
      exact nomatch h

theorem scalar_plain {cs : List Char} (h : cs.all isPlain = true) : scalar cs = number cs :=
  scalar_of_none (named?_eq_none h)

/-- The digits of a number are its whole part. -/
theorem wholePart?_digitsOf (n : Nat) :
    wholePart? (Decimal.digitsOf n) = some (Decimal.digitsOf n, []) := by
  by_cases hzero : n = 0
  · subst hzero
    rfl
  · obtain ⟨c, rest, hdigits, hne⟩ := Decimal.digitsOf_head hzero
    have hall := Decimal.digitsOf_isDigit n
    rw [hdigits, List.forall_mem_cons] at hall
    rw [hdigits, wholePart?, if_neg hne, if_pos hall.1,
      List.takeWhile_eq_self_iff.mpr hall.2, List.dropWhile_eq_nil_iff.mpr hall.2]

theorem numberSign_digitsOf (n : Nat) :
    numberSign (Decimal.digitsOf n) = ([], Decimal.digitsOf n) := by
  refine numberSign_of_ne fun c hc => ?_
  rintro rfl
  have hdigit := Decimal.digitsOf_isDigit n '-' (List.mem_of_mem_head? hc)
  exact nomatch hdigit

theorem numberOf_digitsOf {n : Nat} (h : ¬ digitLimit < (Decimal.digitsOf n).length) (left : Nat)
    (sign : List Char) :
    numberOf left sign (Decimal.digitsOf n) [] [] []
      = .ok (.int (if sign.isEmpty then (n : Int) else -(n : Int)), []) := by
  have hparts : (([] : List Char).isEmpty && ([] : List Char).isEmpty) = true := rfl
  rw [numberOf, if_pos hparts, if_neg h, Decimal.readNat?_digitsOf]
  rfl

theorem number_digitsOf {n : Nat} (h : ¬ digitLimit < (Decimal.digitsOf n).length) :
    number (Decimal.digitsOf n) = .ok (.int n, []) ∧
      number ('-' :: Decimal.digitsOf n) = .ok (.int (-n), []) := by
  refine ⟨?_, ?_⟩
  · rw [number_eq, numberSign_digitsOf, wholePart?_digitsOf]
    exact numberOf_digitsOf h _ _
  · rw [number_eq]
    show (match wholePart? (Decimal.digitsOf n) with
      | none => _
      | some (whole, rest) => _) = _
    rw [wholePart?_digitsOf]
    exact numberOf_digitsOf h _ _

/-- An integer that is written is read as it was written. -/
theorem scalar_integer {n : Int} {cs : List Char} (h : integer n = .ok cs) :
    scalar cs = .ok (.int n, []) := by
  unfold integer at h
  dsimp only at h
  split_ifs at h with hmany
  cases h
  have hdigits : (Decimal.digitsOf n.natAbs).all isPlain = true := by
    rw [List.all_eq_true]
    exact fun c hc => isPlain_of_isDigit (Decimal.digitsOf_isDigit _ c hc)
  rw [Decimal.intText, String.toList_ofList]
  split_ifs with hneg
  · have hsigned : ('-' :: Decimal.digitsOf n.natAbs).all isPlain = true := hdigits
    rw [scalar_plain hsigned, (number_digitsOf hmany).2, Int.ofNat_natAbs_of_nonpos (by omega),
      Int.neg_neg]
  · rw [scalar_plain hdigits, (number_digitsOf hmany).1, Int.natAbs_of_nonneg (by omega)]

/-! ## How values begin and end -/

/-- A character that a value begins with. -/
def isOpening (c : Char) : Bool := Decimal.isNumeral c || c == '"' || c == '[' || c == '\x7b'

/-- A character that a value ends with. -/
def isClosing (c : Char) : Bool :=
  Decimal.isNumeral c || c == '"' || c == ']' || c == '\x7d' || c == 'l'

theorem isNumeral_bounds {c : Char} (h : Decimal.isNumeral c = true) :
    0x2B ≤ c.toNat ∧ c.toNat ≤ 0x79 := by
  have hlisted : ("+-.eINafinty".toList.all fun d =>
      decide (0x2B ≤ d.toNat ∧ d.toNat ≤ 0x79)) = true := by decide +kernel
  rw [Decimal.isNumeral, Bool.or_eq_true] at h
  rcases h with hdigit | hother
  · rw [Decimal.isDigit, Bool.and_eq_true, decide_eq_true_eq, decide_eq_true_eq] at hdigit
    have hlow : '0'.toNat ≤ c.toNat := hdigit.1
    have hhigh : c.toNat ≤ '9'.toNat := hdigit.2
    exact ⟨Nat.le_trans (by decide) hlow, Nat.le_trans hhigh (by decide)⟩
  · exact of_decide_eq_true (List.all_eq_true.mp hlisted c (List.contains_iff_mem.mp hother))

theorem isOpening_bounds {c : Char} (h : isOpening c = true) :
    0x22 ≤ c.toNat ∧ c.toNat ≤ 0x7D ∧ c ≠ ']' ∧ c ≠ '\x7d' := by
  simp only [isOpening, Bool.or_eq_true, beq_iff_eq] at h
  rcases h with ((hnumeral | rfl) | rfl) | rfl
  · obtain ⟨hlow, hhigh⟩ := isNumeral_bounds hnumeral
    refine ⟨by omega, by omega, ?_, ?_⟩
    · rintro rfl
      exact nomatch hnumeral
    · rintro rfl
      exact nomatch hnumeral
  all_goals decide

theorem isClosing_bounds {c : Char} (h : isClosing c = true) :
    0x22 ≤ c.toNat ∧ c.toNat ≤ 0x7D := by
  simp only [isClosing, Bool.or_eq_true, beq_iff_eq] at h
  rcases h with (((hnumeral | rfl) | rfl) | rfl) | rfl
  · obtain ⟨hlow, hhigh⟩ := isNumeral_bounds hnumeral
    exact ⟨by omega, by omega⟩
  all_goals decide

/-- From the double quote to the closing brace there are no blanks. -/
theorem not_blank_of_bounds {c : Char} (hlow : 0x22 ≤ c.toNat) (hhigh : c.toNat ≤ 0x7D) :
    isBlank c = false ∧ Text.isBlank c = false := by
  refine ⟨?_, ?_⟩
  · simp only [isBlank, Bool.or_eq_false_iff, beq_eq_false_iff_ne]
    refine ⟨⟨⟨?_, ?_⟩, ?_⟩, ?_⟩
    all_goals
      rintro rfl
      exact absurd hlow (by decide)
  · simp only [Text.isBlank, Text.inRanges, Text.blankRanges, List.any_cons, List.any_nil,
      Bool.or_eq_false_iff, Bool.and_eq_false_iff, decide_eq_false_iff_not, and_true]
    omega

/-! ## Forms of values -/

/-- A text that is read as a value wherever it stands and whatever follows it, if it is not
    nested too deep; the number bounds how deep its parts are nested. -/
structure Form (v : Value) (nested : Nat) (cs : List Char) : Prop where
  opening : ∃ c rest, cs = c :: rest ∧ isOpening c = true
  closing : ∃ c, cs.getLast? = some c ∧ isClosing c = true
  reads : ∀ {fuel depth : Nat} {tail : List Char}, Delimited tail → 2 * cs.length ≤ fuel →
    depth + nested ≤ depthLimit → valueFrom fuel depth (cs ++ tail) = .ok (v, tail)

/-- The form of a number or a name. -/
theorem form_scalar {v : Value} {cs : List Char} (nested : Nat)
    (hopening : ∃ c rest, cs = c :: rest ∧ Decimal.isNumeral c = true)
    (hclosing : ∃ c, cs.getLast? = some c ∧ isClosing c = true)
    (h : scalar cs = .ok (v, [])) : Form v nested cs where
  opening := by
    obtain ⟨c, rest, hcs, hc⟩ := hopening
    exact ⟨c, rest, hcs, by rw [isOpening, hc]; rfl⟩
  closing := hclosing
  reads := by
    intro fuel depth tail htail hfuel _
    obtain ⟨c, rest, rfl, hc⟩ := hopening
    obtain ⟨fuel, rfl⟩ : ∃ k, fuel = k + 1 := by
      rw [List.length_cons] at hfuel
      exact ⟨fuel - 1, by omega⟩
    have hquote : c ≠ '"' := by
      rintro rfl
      exact nomatch hc
    have hbracket : c ≠ '[' := by
      rintro rfl
      exact nomatch hc
    have hbrace : c ≠ '\x7b' := by
      rintro rfl
      exact nomatch hc
    rw [List.cons_append, valueFrom, if_neg hquote, if_neg hbracket, if_neg hbrace]
    exact scalar_append htail h

/-- The form of a number. -/
theorem form_number {v : Value} {cs : List Char} (nested : Nat)
    (hcs : cs.all Decimal.isNumeral = true) (h : scalar cs = .ok (v, [])) : Form v nested cs := by
  rw [List.all_eq_true] at hcs
  cases cs with
  | nil => exact nomatch h
  | cons c rest =>
      refine form_scalar nested ⟨c, rest, rfl, hcs c List.mem_cons_self⟩ ?_ h
      refine ⟨_, List.getLast?_eq_some_getLast (List.cons_ne_nil c rest), ?_⟩
      rw [isClosing, hcs _ (List.getLast_mem _)]
      rfl

/-- The form of a text. -/
theorem form_text (s : String) (nested : Nat) :
    Form (.text s) nested (Quoted.encode s.toList) where
  opening := ⟨'"', _, rfl, rfl⟩
  closing := by
    refine ⟨'"', ?_, rfl⟩
    rw [Quoted.encode, List.getLast?_append]
    rfl
  reads := by
    intro fuel depth tail _ hfuel _
    obtain ⟨fuel, rfl⟩ : ∃ k, fuel = k + 1 := by
      rw [Quoted.encode, List.length_append, List.length_cons] at hfuel
      exact ⟨fuel - 1, by omega⟩
    obtain ⟨body, hbody, hread⟩ := quoted_encode s tail
    rw [hbody, valueFrom, if_pos rfl, hread]
    show Except.ok (Value.ofCodes (s.toList.map Char.toNat), tail) = _
    rw [Value.ofCodes_toNat, String.ofList_toList]

end Likeness.Json
