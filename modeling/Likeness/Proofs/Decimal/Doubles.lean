import Likeness.Proofs.Decimal.Rounding

/-! # Decimals of doubles

    The bits of a finite double are those of its magnitude, with the sign in front
    of them (`Reading.ofBits_finite`).  So a decimal that lies around a double is
    read as that double (`ofDecimal_of_around`): it is far from the exponents at
    which a decimal is taken for zero or for infinity without being rounded. -/

namespace Likeness.Decimal

/-! ## Bits -/

/-- Bits are the sign, put in front of the magnitude: its exponent and its fraction. -/
theorem bits_eq_signed {bits : Nat} (hbits : bits < 2 ^ 64) {b : Nat}
    (hb : b = bits / twoTo 52 % twoTo 11 * twoTo 52 + bits % twoTo 52) :
    bits = if decide (bits / twoTo 63 % 2 = 1) then b + twoTo 63 else b := by
  have h52 : twoTo 52 = 4503599627370496 := rfl
  have h63 : twoTo 63 = 9223372036854775808 := rfl
  have h11 : twoTo 11 = 2048 := rfl
  rw [h52, h11] at hb
  rw [h63]
  split_ifs with hnegative
  all_goals
    rw [decide_eq_true_eq] at hnegative
    omega

/-- A double whose exponent field is zero has no hidden bit. -/
theorem Binary.valid_subnormal {fraction : Nat} (hpos : 0 < fraction)
    (hlt : fraction < twoTo 52) : Binary.Valid ⟨fraction, -1074, false⟩ := by
  have h52 : twoTo 52 = 4503599627370496 := rfl
  rw [h52] at hlt
  exact ⟨hpos, by dsimp only; omega, le_rfl, by dsimp only; omega, .inl rfl, by simp⟩

/-- The mantissa of any other double is its fraction behind the hidden bit. -/
theorem Binary.valid_normal {field fraction : Nat} (hpos : 0 < field) (hfield : field < 2047)
    (hlt : fraction < twoTo 52) :
    Binary.Valid ⟨twoTo 52 + fraction, (field : Int) - 1075,
      decide (fraction = 0 ∧ 1 < field)⟩ := by
  have h52 : twoTo 52 = 4503599627370496 := rfl
  rw [h52] at hlt ⊢
  refine ⟨?_, ?_, ?_, ?_, ?_, ?_⟩
  all_goals dsimp only
  · omega
  · omega
  · omega
  · omega
  · omega
  · rw [decide_eq_true_eq]
    omega

/-- **BITS THAT ARE READ ARE THOSE OF THE MAGNITUDE**, with the sign in front of them. -/
theorem Reading.ofBits_finite {bits : Nat} (hbits : bits < 2 ^ 64) {negative : Bool} {m : Binary}
    (h : Reading.ofBits bits = .finite negative m) :
    (m.mantissa = 0 ∧ m.bits = 0 ∨ m.Valid) ∧
      bits = if negative then m.bits + twoTo 63 else m.bits := by
  have hfield : bits / twoTo 52 % twoTo 11 < 2048 := Nat.mod_lt _ (by decide)
  have hfraction : bits % twoTo 52 < twoTo 52 := Nat.mod_lt _ (by decide)
  have hsigned := fun b => bits_eq_signed hbits (b := b)
  unfold Reading.ofBits at h
  dsimp only at h
  generalize bits / twoTo 52 % twoTo 11 = field at *
  generalize bits % twoTo 52 = fraction at *
  split_ifs at h with hspecial hinfinite hsmall
  · obtain ⟨rfl, rfl⟩ := Reading.finite.inj h
    refine ⟨?_, hsigned _ ?_⟩
    · by_cases hzero : fraction = 0
      · subst hzero
        exact .inl ⟨rfl, rfl⟩
      · exact .inr (Binary.valid_subnormal (Nat.pos_of_ne_zero hzero) hfraction)
    · rw [hsmall, Nat.zero_mul, Nat.zero_add]
      exact Nat.zero_add fraction
  · obtain ⟨rfl, rfl⟩ := Reading.finite.inj h
    refine ⟨.inr (Binary.valid_normal (Nat.pos_of_ne_zero hsmall) (by omega) hfraction),
      hsigned _ ?_⟩
    have h52 : twoTo 52 = 4503599627370496 := rfl
    dsimp only [Binary.bits]
    rw [h52]
    omega

/-! ## Decimals -/

theorem cast_tenTo (n : Nat) : ((tenTo n : Nat) : ℚ) = 10 ^ n := by
  rw [tenTo]
  exact Nat.cast_pow 10 n

/-- A decimal as the quotient that is rounded. -/
theorem decimal_quotient (n : Nat) (e : ℤ) :
    ((n * tenTo e.toNat : Nat) : ℚ) / ((tenTo (-e).toNat : Nat) : ℚ) = n * 10 ^ e := by
  have he : (10 : ℚ) ^ (-e).toNat ≠ 0 := pow_ne_zero _ (by norm_num)
  rw [Nat.cast_mul, cast_tenTo, cast_tenTo, ← zpow_mul_toNat (by norm_num) e]
  field_simp

/-- What lies around a double is neither too large nor too small for doubles. -/
theorem Binary.Around.magnitude {x : Binary} (hx : x.Valid) {v : ℚ} (h : x.Around v) :
    (2 : ℚ) ^ (-1075 : ℤ) ≤ v ∧ v < 2 ^ (1024 : ℤ) := by
  obtain ⟨hlow, hhigh⟩ := h.bounds
  have hpos : (0 : ℚ) < 2 ^ x.exponent := zpow_pos two_pos _
  have hone : (1 : ℚ) ≤ x.mantissa := by exact_mod_cast hx.mantissa_pos
  have hmantissa : (x.mantissa : ℚ) + 1 ≤ 2 ^ 53 := by exact_mod_cast hx.mantissa_lt
  have hle := hx.exponent_le
  have hge := hx.exponent_ge
  constructor
  · have hhalf : (1 / 2 : ℚ) ≤ v / 2 ^ x.exponent := by linarith [x.reach_le]
    calc (2 : ℚ) ^ (-1075 : ℤ) ≤ 2 ^ (x.exponent - 1) := zpow_le_zpow_right₀ one_le_two (by omega)
      _ = 1 / 2 * 2 ^ x.exponent := by
          rw [zpow_sub₀ two_ne_zero, zpow_one]
          ring
      _ ≤ v := (le_div_iff₀ hpos).mp hhalf
  · have hless : v / 2 ^ x.exponent < 2 ^ 53 := by linarith
    calc v < 2 ^ 53 * 2 ^ x.exponent := (div_lt_iff₀ hpos).mp hless
      _ = 2 ^ ((53 : ℤ) + x.exponent) := by
          rw [zpow_add₀ two_ne_zero]
          norm_num
      _ ≤ 2 ^ (1024 : ℤ) := zpow_le_zpow_right₀ one_le_two (by omega)

/-- The decimal places of a power of two, as they are estimated, are right up to some places. -/
theorem estimate_bounds {n : Nat} (hn : n < 6000) :
    (10 : ℚ) ^ ((n * 30103 / 100000 : ℤ) - 9) ≤ 2 ^ n ∧
      (2 : ℚ) ^ (n + 1) ≤ 10 ^ ((n * 30103 / 100000 : ℤ) + 50) := by
  constructor
  · calc (10 : ℚ) ^ ((n * 30103 / 100000 : ℤ) - 9) ≤ 10 ^ ((3 * (n / 10) : Nat) : ℤ) :=
          zpow_le_zpow_right₀ (by norm_num) (by omega)
      _ = (10 ^ 3) ^ (n / 10) := by rw [zpow_natCast, pow_mul]
      _ ≤ (2 ^ 10) ^ (n / 10) := pow_le_pow_left₀ (by norm_num) (by norm_num) _
      _ = 2 ^ (10 * (n / 10)) := (pow_mul _ _ _).symm
      _ ≤ 2 ^ n := pow_le_pow_right₀ one_le_two (Nat.mul_div_le n 10)
  · calc (2 : ℚ) ^ (n + 1) ≤ 2 ^ (13 * (n / 13 + 1)) := pow_le_pow_right₀ one_le_two (by omega)
      _ = (2 ^ 13) ^ (n / 13 + 1) := pow_mul _ _ _
      _ ≤ (10 ^ 4) ^ (n / 13 + 1) := pow_le_pow_left₀ (by norm_num) (by norm_num) _
      _ = 10 ^ ((4 * (n / 13 + 1) : Nat) : ℤ) := by rw [zpow_natCast, pow_mul]
      _ ≤ 10 ^ ((n * 30103 / 100000 : ℤ) + 50) := zpow_le_zpow_right₀ (by norm_num) (by omega)

theorem two_pow_le_ten_pow : (2 : ℚ) ^ 33 ≤ 10 ^ 10 := by norm_num

/-- The digits of a decimal that is not too large for doubles. -/
theorem log2_lt_of_lt {n : Nat} (hn : 0 < n) {e : ℤ} (he : -1100 ≤ e)
    (h : (n * 10 ^ e : ℚ) < 2 ^ (1024 : ℤ)) : n.log2 < 6000 := by
  by_contra hlarge
  refine absurd h (not_lt.mpr ?_)
  -- Each decimal place is less than four binary ones.
  calc (2 : ℚ) ^ (1024 : ℤ) ≤ 2 ^ ((6000 : ℤ) + -(4 * 1100 : ℕ)) :=
        zpow_le_zpow_right₀ one_le_two (by norm_num)
    _ = 2 ^ (6000 : ℤ) * ((2 ^ 4) ^ 1100)⁻¹ := by
        rw [zpow_add₀ two_ne_zero, zpow_neg, zpow_natCast, pow_mul]
    _ ≤ 2 ^ (n.log2 : ℤ) * (10 ^ 1100)⁻¹ := by
        refine mul_le_mul (zpow_le_zpow_right₀ one_le_two (by omega)) ?_ (by positivity)
          (by positivity)
        exact inv_anti₀ (by positivity) (pow_le_pow_left₀ (by norm_num) (by norm_num) _)
    _ ≤ n * 10 ^ e := by
        refine mul_le_mul (log2_bounds hn).1 ?_ (by positivity) (by positivity)
        rw [← zpow_natCast, ← zpow_neg]
        exact zpow_le_zpow_right₀ (by norm_num) he

/-- Where the places of a decimal are estimated to be few, it is too small for doubles. -/
theorem lead_ge_of_le {n : Nat} (hn : 0 < n) {e : ℤ} (hlog : n.log2 < 6000)
    (h : (2 : ℚ) ^ (-1075 : ℤ) ≤ n * 10 ^ e) : -400 ≤ e + (n.log2 : ℤ) * 30103 / 100000 := by
  have hten : (0 : ℚ) < 10 ^ e := zpow_pos (by norm_num) e
  by_contra hsmall
  refine absurd h (not_le.mpr ?_)
  -- The estimate is off by at most 50 places; 33 binary places are less than ten decimal ones.
  calc (n : ℚ) * 10 ^ e < 2 ^ (n.log2 + 1) * 10 ^ e :=
        mul_lt_mul_of_pos_right (by exact_mod_cast (log2_bounds hn).2) hten
    _ ≤ 10 ^ ((n.log2 * 30103 / 100000 : ℤ) + 50) * 10 ^ e :=
        mul_le_mul_of_nonneg_right (estimate_bounds hlog).2 hten.le
    _ = 10 ^ ((n.log2 * 30103 / 100000 : ℤ) + 50 + e) := (zpow_add₀ (by norm_num) _ _).symm
    _ ≤ 10 ^ (-(10 * 35 : ℕ) : ℤ) := zpow_le_zpow_right₀ (by norm_num) (by omega)
    _ = ((10 ^ 10) ^ 35)⁻¹ := by rw [zpow_neg, zpow_natCast, pow_mul]
    _ ≤ ((2 ^ 33) ^ 35)⁻¹ :=
        inv_anti₀ (by positivity) (pow_le_pow_left₀ (by positivity) two_pow_le_ten_pow _)
    _ = 2 ^ (-(33 * 35 : ℕ) : ℤ) := by rw [zpow_neg, zpow_natCast, pow_mul]
    _ ≤ 2 ^ (-1075 : ℤ) := zpow_le_zpow_right₀ one_le_two (by norm_num)

/-- Where the places of a decimal are estimated to be many, it is too large for doubles. -/
theorem lead_le_of_lt {n : Nat} (hn : 0 < n) {e : ℤ} (hlog : n.log2 < 6000)
    (h : (n * 10 ^ e : ℚ) < 2 ^ (1024 : ℤ)) : e + (n.log2 : ℤ) * 30103 / 100000 ≤ 400 := by
  have hten : (0 : ℚ) < 10 ^ e := zpow_pos (by norm_num) e
  by_contra hlarge
  refine absurd h (not_lt.mpr ?_)
  calc (2 : ℚ) ^ (1024 : ℤ) ≤ 2 ^ ((33 * 39 : ℕ) : ℤ) :=
        zpow_le_zpow_right₀ one_le_two (by norm_num)
    _ = (2 ^ 33) ^ 39 := by rw [zpow_natCast, pow_mul]
    _ ≤ (10 ^ 10) ^ 39 := pow_le_pow_left₀ (by positivity) two_pow_le_ten_pow _
    _ = 10 ^ ((10 * 39 : ℕ) : ℤ) := by rw [zpow_natCast, pow_mul]
    _ ≤ 10 ^ ((n.log2 * 30103 / 100000 : ℤ) - 9 + e) :=
        zpow_le_zpow_right₀ (by norm_num) (by omega)
    _ = 10 ^ ((n.log2 * 30103 / 100000 : ℤ) - 9) * 10 ^ e := zpow_add₀ (by norm_num) _ _
    _ ≤ 2 ^ n.log2 * 10 ^ e := mul_le_mul_of_nonneg_right (estimate_bounds hlog).1 hten.le
    _ ≤ n * 10 ^ e := mul_le_mul_of_nonneg_right (by exact_mod_cast (log2_bounds hn).1) hten.le

/-- A decimal of a double is far from the exponents that are settled without rounding. -/
theorem lead_of_around {x : Binary} (hx : x.Valid) {n : Nat} {e : ℤ} (he : -1100 ≤ e)
    (h : x.Around (n * 10 ^ e)) :
    0 < n ∧ -400 ≤ e + (n.log2 : ℤ) * 30103 / 100000 ∧
      e + (n.log2 : ℤ) * 30103 / 100000 ≤ 400 := by
  obtain ⟨hlow, hhigh⟩ := h.magnitude hx
  have hn : 0 < n := by
    by_contra hzero
    rw [Nat.eq_zero_of_not_pos hzero, Nat.cast_zero, zero_mul] at hlow
    exact absurd hlow (not_le.mpr (zpow_pos two_pos _))
  have hlog := log2_lt_of_lt hn he hhigh
  exact ⟨hn, lead_ge_of_le hn hlog hlow, lead_le_of_lt hn hlog hhigh⟩

/-- **A DECIMAL AROUND A DOUBLE IS READ AS IT**. -/
theorem ofDecimal_of_around {x : Binary} (hx : x.Valid) {n : Nat} {e : ℤ} (he : -1100 ≤ e)
    (h : x.Around (n * 10 ^ e)) (negative : Bool) :
    Binary.ofDecimal negative n e
      = Float.ofBits (UInt64.ofNat (if negative then x.bits + twoTo 63 else x.bits)) := by
  obtain ⟨hn, hlow, hhigh⟩ := lead_of_around hx he h
  have hsmall : ¬ (n = 0 ∨ e + (n.log2 : ℤ) * 30103 / 100000 < -400) := by omega
  have hquotient : x.Around (((n * tenTo e.toNat : Nat) : ℚ) / ((tenTo (-e).toNat : Nat) : ℚ)) := by
    rwa [decimal_quotient]
  have hbits : Binary.bitsOfRatio? (n * tenTo e.toNat) (tenTo (-e).toNat) = some x.bits :=
    bitsOfRatio?_of_around hx (Nat.pow_pos (by decide)) hquotient
  unfold Binary.ofDecimal
  dsimp only
  rw [if_neg hsmall, if_neg (not_lt.mpr hhigh), hbits]
  rfl

end Likeness.Decimal
