import Likeness.Decimal.Shortest
import Likeness.Proofs.Decimal.Doubles

/-! # The fewest digits read back

    A decimal is chosen for a double only after it was compared with the ends of the
    reals around that double, so it lies around it (`Binary.readsBack_around`).  When
    no short decimal does, the exact one is taken.  That a short one always exists is
    not needed here. -/

namespace Likeness.Decimal

/-- The number that a decimal is. -/
def Digits.value (d : Digits) : ℚ := d.digits * 10 ^ d.exponent

/-! ## Comparing -/

/-- Both sides of a comparison, over what makes them naturals. -/
theorem compareScaled_sides (a : Nat) (i : ℤ) (b : Nat) (j : ℤ) :
    (a * 10 ^ i : ℚ) * (10 ^ (-i).toNat * 2 ^ (-j).toNat)
        = ((a * tenTo i.toNat * twoTo (-j).toNat : Nat) : ℚ) ∧
      (b * 2 ^ j : ℚ) * (10 ^ (-i).toNat * 2 ^ (-j).toNat)
        = ((b * twoTo j.toNat * tenTo (-i).toNat : Nat) : ℚ) := by
  have hten := zpow_mul_toNat (b := 10) (by norm_num) i
  have htwo := zpow_mul_toNat (b := 2) (by norm_num) j
  simp only [Nat.cast_mul, cast_tenTo, cast_twoTo]
  constructor
  · rw [← hten]
    ring
  · rw [← htwo]
    ring

theorem compareScaled_spec (a : Nat) (i : ℤ) (b : Nat) (j : ℤ) :
    (compareScaled a i b j = .lt ↔ (a * 10 ^ i : ℚ) < b * 2 ^ j) ∧
      (compareScaled a i b j = .eq ↔ (a * 10 ^ i : ℚ) = b * 2 ^ j) ∧
      (compareScaled a i b j = .gt ↔ (b * 2 ^ j : ℚ) < a * 10 ^ i) := by
  obtain ⟨hleft, hright⟩ := compareScaled_sides a i b j
  have hpos : (0 : ℚ) < 10 ^ (-i).toNat * 2 ^ (-j).toNat := by positivity
  unfold compareScaled
  generalize a * tenTo i.toNat * twoTo (-j).toNat = m at *
  generalize b * twoTo j.toNat * tenTo (-i).toNat = n at *
  rw [← mul_lt_mul_iff_left₀ hpos, ← mul_left_inj' hpos.ne',
    ← mul_lt_mul_iff_left₀ (b := (b * 2 ^ j : ℚ)) hpos, hleft, hright, Nat.cast_lt, Nat.cast_inj,
    Nat.cast_lt]
  exact ⟨Nat.compare_eq_lt, Nat.compare_eq_eq, Nat.compare_eq_gt⟩

/-! ## The decimal that is chosen -/

/-- The least natural that the reals around a double reach down to, in quarters. -/
theorem quarters_low {x : Binary} (hx : x.Valid) :
    (((if x.narrowBelow then 4 * x.mantissa - 1 else 4 * x.mantissa - 2 : Nat) : ℚ)
      * 2 ^ (x.exponent - 2)) / 2 ^ x.exponent = x.mantissa - x.reach := by
  have hpos := hx.mantissa_pos
  have hquarter : (2 : ℚ) ^ (x.exponent - 2) = 2 ^ x.exponent / 4 := by
    rw [zpow_sub₀ two_ne_zero]
    norm_num
  rw [hquarter, Binary.reach]
  split_ifs
  · rw [Nat.cast_sub (by omega)]
    push_cast
    field_simp
  · rw [Nat.cast_sub (by omega)]
    push_cast
    field_simp
    ring

theorem quarters_high (x : Binary) :
    (((4 * x.mantissa + 2 : Nat) : ℚ) * 2 ^ (x.exponent - 2)) / 2 ^ x.exponent
      = x.mantissa + 1 / 2 := by
  have hquarter : (2 : ℚ) ^ (x.exponent - 2) = 2 ^ x.exponent / 4 := by
    rw [zpow_sub₀ two_ne_zero]
    norm_num
  rw [hquarter]
  push_cast
  field_simp
  ring

/-- A decimal that reads back lies around the double. -/
theorem Binary.readsBack_around {x : Binary} (hx : x.Valid) {d : Digits}
    (h : x.readsBack d = true) : x.Around d.value := by
  have hpos : (0 : ℚ) < 2 ^ x.exponent := zpow_pos two_pos _
  unfold Binary.readsBack at h
  simp only [Bool.and_eq_true, Bool.or_eq_true, beq_iff_eq] at h
  obtain ⟨hbelow, habove⟩ := h
  constructor
  · rw [← quarters_low hx, div_lt_div_iff_of_pos_right hpos, div_left_inj' hpos.ne']
    rcases hbelow with hgt | ⟨heven, heq⟩
    · exact .inl ((compareScaled_spec ..).2.2.mp hgt)
    · exact .inr ⟨((compareScaled_spec ..).2.1.mp heq).symm, heven⟩
  · rw [← quarters_high, div_lt_div_iff_of_pos_right hpos, div_left_inj' hpos.ne']
    rcases habove with hlt | ⟨heven, heq⟩
    · exact .inl ((compareScaled_spec ..).1.mp hlt)
    · exact .inr ⟨(compareScaled_spec ..).2.1.mp heq, heven⟩

/-- A point of a grid is only taken when it reads back. -/
theorem Binary.gridPoint?_eq_some {x : Binary} {k : ℤ} {d : Digits} (h : x.gridPoint? k = some d) :
    x.readsBack d = true ∧ d.exponent = k := by
  unfold Binary.gridPoint? at h
  dsimp only at h
  split at h
  · rename_i hdown hup
    cases h
    refine ⟨?_, rfl⟩
    rcases roundHalfEven_eq_or (x.mantissa * twoTo x.exponent.toNat * tenTo (-k).toNat)
        (twoTo (-x.exponent).toNat * tenTo k.toNat) with heq | heq
    · rw [heq]
      exact hdown
    · rw [heq]
      exact hup
  · rename_i hdown hup
    cases h
    exact ⟨hdown, rfl⟩
  · rename_i hdown hup
    cases h
    exact ⟨hup, rfl⟩
  · exact nomatch h

/-- Zeros that are moved into the exponent leave the number as it is. -/
theorem Digits.strip_value (fuel : Nat) (d : Digits) :
    (d.strip fuel).value = d.value ∧ d.exponent ≤ (d.strip fuel).exponent := by
  induction fuel generalizing d with
  | zero => exact ⟨rfl, le_rfl⟩
  | succ fuel ih =>
      unfold Digits.strip
      split_ifs with hzero
      · obtain ⟨hvalue, hexponent⟩ := ih ⟨d.digits / 10, d.exponent + 1⟩
        refine ⟨hvalue.trans ?_, by dsimp only at hexponent; omega⟩
        have hdigits : (d.digits : ℚ) = (d.digits / 10 : Nat) * 10 := by
          exact_mod_cast (Nat.div_mul_cancel (Nat.dvd_of_mod_eq_zero hzero.2)).symm
        rw [Digits.value, Digits.value, hdigits, zpow_add₀ (by norm_num), zpow_one]
        ring
      · exact ⟨rfl, le_rfl⟩

/-- The exact decimal of a double is the double. -/
theorem Binary.exact_value (x : Binary) :
    x.exact.value = x.mantissa * 2 ^ x.exponent ∧ x.exact.exponent = min x.exponent 0 := by
  refine ⟨?_, rfl⟩
  have hfive : ((Nat.pow 5 (-x.exponent).toNat : Nat) : ℚ) = 5 ^ (-x.exponent).toNat :=
    Nat.cast_pow 5 _
  rw [Digits.value, Binary.exact, Nat.cast_mul, Nat.cast_mul, cast_twoTo, hfive,
    ← zpow_mul_toNat two_ne_zero x.exponent]
  dsimp only
  rcases le_total 0 x.exponent with hpos | hneg
  · have hzero : (-x.exponent).toNat = 0 := by omega
    rw [hzero, min_eq_right hpos]
    ring
  · have hten : (10 : ℚ) ^ x.exponent * (2 ^ (-x.exponent).toNat * 5 ^ (-x.exponent).toNat)
        = 1 := by
      have hzero : x.exponent.toNat = 0 := by omega
      rw [← mul_pow, show (2 * 5 : ℚ) = 10 by norm_num, zpow_mul_toNat (by norm_num), hzero,
        pow_zero]
    rw [min_eq_left hneg]
    calc (x.mantissa : ℚ) * (2 ^ x.exponent * 2 ^ (-x.exponent).toNat) * 5 ^ (-x.exponent).toNat
          * 10 ^ x.exponent
        = x.mantissa * 2 ^ x.exponent
            * (10 ^ x.exponent * (2 ^ (-x.exponent).toNat * 5 ^ (-x.exponent).toNat)) := by ring
      _ = x.mantissa * 2 ^ x.exponent := by rw [hten, mul_one]

theorem Binary.around_self {x : Binary} : x.Around (x.mantissa * 2 ^ x.exponent) := by
  have hself : (x.mantissa * 2 ^ x.exponent : ℚ) / 2 ^ x.exponent = x.mantissa :=
    mul_div_cancel_right₀ _ (zpow_ne_zero _ two_ne_zero)
  have hreach : 0 < x.reach := by
    unfold Binary.reach
    split_ifs
    · norm_num
    · norm_num
  constructor
  · rw [hself]
    exact .inl (by linarith)
  · rw [hself]
    exact .inl (by linarith)

/-- The scale of a double is not far below the exponent of its last place. -/
theorem Binary.scale_ge {x : Binary} (hx : x.Valid) : -1000 ≤ x.scale := by
  have hleast := hx.exponent_ge
  have hguess : -500 ≤ (((Nat.log2 x.mantissa : ℤ) + x.exponent) * 30103).fdiv 100000 := by
    rw [Int.fdiv_eq_ediv_of_nonneg _ (by norm_num)]
    omega
  unfold Binary.scale
  dsimp only
  split_ifs
  · omega
  · omega
  · omega
  · omega

/-- **THE CHOSEN DECIMAL LIES AROUND ITS DOUBLE**. -/
theorem Binary.shortest_around {x : Binary} (hx : x.Valid) :
    x.Around x.shortest.value ∧ -1100 ≤ x.shortest.exponent := by
  unfold Binary.shortest
  rw [if_neg hx.mantissa_pos.ne']
  dsimp only
  split
  · rename_i d hfound
    obtain ⟨n, hn, hpoint⟩ := List.exists_of_findSome?_eq_some hfound
    obtain ⟨hreads, hexponent⟩ := Binary.gridPoint?_eq_some hpoint
    obtain ⟨hvalue, hge⟩ := Digits.strip_value 20 d
    have hscale := Binary.scale_ge hx
    have hsmall := List.mem_range.mp hn
    rw [hvalue]
    exact ⟨Binary.readsBack_around hx hreads, by omega⟩
  · obtain ⟨hvalue, hexponent⟩ := x.exact_value
    have hleast := hx.exponent_ge
    rw [hvalue]
    exact ⟨Binary.around_self, by omega⟩

end Likeness.Decimal
