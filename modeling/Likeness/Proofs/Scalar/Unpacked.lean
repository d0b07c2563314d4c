import Likeness.Decimal.Exact
import Mathlib

/-! # Doubles and their parts

    The logical model of doubles works on their parts: it takes the bits apart,
    works on sign, mantissa and exponent, and puts the result into bits again.
    What is taken apart is what `Reading.ofFloat` reads (`unpacks`), and what was
    put together is taken apart into the same parts, or into an infinity when the
    exponent has grown too large (`unpack_pack`).

    Both need the parts to be in the form that bits have (`Canonical`). -/

namespace Likeness.Double

open Decimal (Binary Reading)
open Float.Model Float.Model.UnpackedFloat

/-- The sign is a minus. -/
def isNegative : Sign → Bool
  | .negative => true
  | .positive => false

/-- A mantissa and an exponent in the form that bits have: the mantissa has 53 bits, or fewer
    at the least exponent. -/
structure Normal (m : Nat) (e : Int) : Prop where
  mantissa_lt : m < 2 ^ 53
  exponent_ge : -1074 ≤ e
  full : e = -1074 ∨ 2 ^ 52 ≤ m

/-- Parts in the form that bits have, save that the exponent may be too large for them. -/
def Canonical : UnpackedFloat → Prop
  | .finite _ m e _ => Normal m e
  | _ => True

/-- The parts after they were put into bits: an exponent that is too large is lost. -/
def packed : UnpackedFloat → UnpackedFloat
  | .finite s m e hm => if 971 < e then .infinity s else .finite s m e hm
  | u => u

theorem packed_finite {s : Sign} {m : Nat} {e : Int} (hm : 0 < m) (he : e ≤ 971) :
    packed (.finite s m e hm) = .finite s m e hm :=
  if_neg (not_lt.mpr he)

/-- The parts of what was read. -/
inductive Unpacks : Reading → UnpackedFloat → Prop where
  | nan : Unpacks .nan .notANumber
  | infinite (s : Sign) : Unpacks (.infinite (isNegative s)) (.infinity s)
  | zero (s : Sign) (e : Int) (narrow : Bool) :
      Unpacks (.finite (isNegative s) ⟨0, e, narrow⟩) (.zero s)
  | finite (s : Sign) (m : Nat) (e : Int) (hm : 0 < m) (narrow : Bool) :
      Unpacks (.finite (isNegative s) ⟨m, e, narrow⟩) (.finite s m e hm)

/-! ## Taking bits apart -/

theorem toNat_unpackMantissa (b : BitVec 64) :
    (@unpackMantissa Format.binary64 b).toNat = b.toNat % twoTo 52 := by
  show (b.toNat >>> 0) % 2 ^ 52 = _
  rw [Nat.shiftRight_zero]

theorem toNat_unpackExponent (b : BitVec 64) :
    (@unpackExponent Format.binary64 b).toNat = b.toNat / twoTo 52 % twoTo 11 := by
  show (b.toNat >>> 52) % 2 ^ 11 = _
  rw [Nat.shiftRight_eq_div_pow]

theorem toNat_unpackSign (b : BitVec 64) :
    (@unpackSign Format.binary64 b).toNat = b.toNat / twoTo 63 % 2 := by
  show (b.toNat >>> 63) % 2 = _
  rw [Nat.shiftRight_eq_div_pow]

theorem isNegative_ofBitVec (b : BitVec 1) :
    isNegative (Sign.ofBitVec b) = decide (b.toNat = 1) := by
  by_cases h : b = 0#1
  · rw [h]
    rfl
  · have hone : b.toNat = 1 := by
      have hzero : b.toNat ≠ 0 := fun hn => h (BitVec.eq_of_toNat_eq hn)
      have := b.isLt
      omega
    rw [Sign.ofBitVec, if_neg h, hone]
    rfl

theorem toNat_hidden (b : BitVec 52) : (1#1 ++ b).toNat = twoTo 52 + b.toNat := by
  rw [BitVec.toNat_append, ← Nat.shiftLeft_add_eq_or_of_lt b.isLt, Nat.shiftLeft_eq]
  rfl

/-- Two words are equal as soon as their numbers are. -/
theorem eq_iff_toNat {n : Nat} {b c : BitVec n} : b = c ↔ b.toNat = c.toNat :=
  BitVec.toNat_inj.symm

/-- Bits are taken apart as they are read, into parts that fit into bits. -/
theorem unpacks_bits (b : BitVec 64) :
    Unpacks (Reading.ofBits b.toNat) (UnpackedFloat.unpack Format.binary64 b) ∧
      Canonical (UnpackedFloat.unpack Format.binary64 b) ∧
      packed (UnpackedFloat.unpack Format.binary64 b)
        = UnpackedFloat.unpack Format.binary64 b := by
  have hsign : isNegative (Sign.ofBitVec (@unpackSign Format.binary64 b))
      = decide (b.toNat / twoTo 63 % 2 = 1) := by
    rw [isNegative_ofBitVec, toNat_unpackSign]
  have hmantissa := toNat_unpackMantissa b
  have hexponent := toNat_unpackExponent b
  have hfraction : b.toNat % twoTo 52 < 2 ^ 52 := Nat.mod_lt _ (by decide)
  have hbias : (Format.binary64.exponentBias : Int) + Format.binary64.mantissaBitsWithoutImplicit
      = 1075 := by decide
  unfold Reading.ofBits UnpackedFloat.unpack
  dsimp only
  rw [← hsign]
  by_cases hspecial : @unpackExponent Format.binary64 b = -1#11
  · have hfield : b.toNat / twoTo 52 % twoTo 11 = 2047 := by rw [← hexponent, hspecial]; rfl
    rw [if_pos hspecial, if_pos hfield]
    by_cases hzero : @unpackMantissa Format.binary64 b = 0#52
    · rw [if_pos hzero, if_pos (by rw [← hmantissa, hzero]; rfl)]
      exact ⟨.infinite _, trivial, rfl⟩
    · have hne : ¬ b.toNat % twoTo 52 = 0 := fun h => hzero (eq_iff_toNat.mpr (hmantissa.trans h))
      rw [if_neg hzero, if_neg hne]
      exact ⟨.nan, trivial, rfl⟩
  · have hfield : ¬ b.toNat / twoTo 52 % twoTo 11 = 2047 :=
      fun h => hspecial (eq_iff_toNat.mpr (hexponent.trans h))
    rw [if_neg hspecial, if_neg hfield]
    by_cases hleast : @unpackExponent Format.binary64 b = 0#11
    · have hfield' : b.toNat / twoTo 52 % twoTo 11 = 0 := by rw [← hexponent, hleast]; rfl
      rw [if_pos hleast, if_pos hfield']
      by_cases hzero : @unpackMantissa Format.binary64 b = 0#52
      · rw [dif_pos hzero, ← hmantissa, hzero]
        exact ⟨.zero _ _ _, trivial, rfl⟩
      · have hpos : 0 < (@unpackMantissa Format.binary64 b).toNat :=
          Nat.pos_of_ne_zero fun h => hzero (eq_iff_toNat.mpr h)
        rw [dif_neg hzero, ← hmantissa]
        simp only [hexponent, hfield', hbias]
        exact ⟨.finite _ _ _ hpos _, ⟨by omega, le_rfl, .inl rfl⟩, packed_finite hpos (by norm_num)⟩
    · have hfield' : ¬ b.toNat / twoTo 52 % twoTo 11 = 0 :=
        fun h => hleast (eq_iff_toNat.mpr (hexponent.trans h))
      rw [if_neg hleast, if_neg hfield']
      simp only [hexponent, hbias, toNat_hidden, hmantissa]
      have hless : b.toNat / twoTo 52 % twoTo 11 < 2048 := Nat.mod_lt _ (by decide)
      refine ⟨.finite _ _ _ _ _, ⟨?_, ?_, .inr (Nat.le_add_right _ _)⟩, packed_finite _ ?_⟩
      · rw [show twoTo 52 = 2 ^ 52 from rfl] at hfraction ⊢
        omega
      · omega
      · omega

/-- **A DOUBLE IS TAKEN APART AS IT IS READ**, into parts in the form that bits have. -/
theorem unpacks (x : Float) :
    Unpacks (Reading.ofFloat x) x.toModel.unpack ∧ Canonical x.toModel.unpack := by
  obtain ⟨hunpacks, hcanonical, -⟩ := unpacks_bits x.toBits.toBitVec
  exact ⟨hunpacks, hcanonical⟩

/-! ## Putting parts together -/

/-- A double made of parts. -/
def ofParts (u : UnpackedFloat) : Float := .ofModel (.pack u)

theorem hidden_pos (m : BitVec 52) : 0 < (1#1 ++ m).toNat := by
  rw [toNat_hidden]
  exact Nat.add_pos_left (Nat.pow_pos two_pos) _

/-- What components are taken apart into, when they stand for a number. -/
theorem unpack_packComponents (s : Sign) {e : BitVec 11} (he : e ≠ -1#11) (m : BitVec 52) :
    UnpackedFloat.unpack Format.binary64 (packComponents Format.binary64 s e m)
      = if e = 0#11 then
          (if h : m = 0#52 then .zero s
          else .finite s m.toNat (-1074) (Nat.pos_of_ne_zero fun h' => h (eq_iff_toNat.mpr h')))
        else .finite s (1#1 ++ m).toNat (e.toNat - 1075) (hidden_pos m) := by
  have hbias : (Format.binary64.exponentBias : Int) + Format.binary64.mantissaBitsWithoutImplicit
      = 1075 := by decide
  unfold UnpackedFloat.unpack
  dsimp only
  simp only [unpackMantissa_packComponents, unpackExponent_packComponents,
    unpackSign_packComponents, Sign.ofBitVec_toBitVec, hbias, if_neg he]
  split_ifs with hleast hzero
  · rfl
  · subst hleast
    rfl
  · rfl

theorem unpack_packedInfinity (s : Sign) :
    UnpackedFloat.unpack Format.binary64 (packedInfinity Format.binary64 s) = .infinity s := by
  cases s with
  | negative => rfl
  | positive => rfl

theorem unpack_pack {u : UnpackedFloat} (hu : Canonical u) :
    (ofParts u).toModel.unpack = packed u := by
  show UnpackedFloat.unpack Format.binary64 (UnpackedFloat.pack Format.binary64 u) = packed u
  cases u with
  | infinity s => exact unpack_packedInfinity s
  | notANumber => rfl
  | zero s => exact unpack_packedZero
  | finite s m e hm =>
      obtain ⟨hlt, hge, hfull⟩ := hu
      have hbias : (e + Format.binary64.exponentBias + Format.binary64.mantissaBitsWithoutImplicit)
          = e + 1075 := by
        rw [add_assoc]
        rfl
      have hlog : m.log2 + 1 = Format.binary64.mantissaBits ↔ 2 ^ 52 ≤ m := by
        show m.log2 + 1 = 53 ↔ _
        have hbelow : m.log2 < 53 := (Nat.log2_lt hm.ne').mpr hlt
        rw [← Nat.le_log2 hm.ne']
        omega
      unfold UnpackedFloat.pack packed
      simp only [hbias, hlog]
      by_cases hlarge : 971 < e
      · rw [if_pos hlarge, if_pos (by show 2 ^ 11 ≤ _; omega)]
        exact unpack_packedInfinity s
      · rw [if_neg hlarge, if_neg (by show ¬ 2 ^ 11 ≤ _; omega)]
        by_cases hnormal : 2 ^ 52 ≤ m
        · have hfield : (BitVec.ofNat 11 (e + 1075).toNat).toNat = (e + 1075).toNat := by
            rw [BitVec.toNat_ofNat]
            omega
          have hhidden : (1#1 ++ BitVec.ofNat 52 m).toNat = m := by
            rw [toNat_hidden, BitVec.toNat_ofNat, show twoTo 52 = 2 ^ 52 from rfl]
            omega
          have hspecial : BitVec.ofNat 11 (e + 1075).toNat ≠ -1#11 := by
            intro h
            have hnat : (e + 1075).toNat = 2047 := hfield.symm.trans (eq_iff_toNat.mp h)
            omega
          have hleast : ¬ BitVec.ofNat 11 (e + 1075).toNat = 0#11 := by
            intro h
            have hnat : (e + 1075).toNat = 0 := hfield.symm.trans (eq_iff_toNat.mp h)
            omega
          have hexponent : ((e + 1075).toNat : Int) - 1075 = e := by omega
          rw [if_pos hnormal, unpack_packComponents s hspecial, if_neg hleast]
          simp only [hfield, hhidden, hexponent]
        · have hfraction : (BitVec.ofNat 52 m).toNat = m := by
            rw [BitVec.toNat_ofNat]
            omega
          have hzero : ¬ BitVec.ofNat 52 m = 0#52 := by
            intro h
            have hnat : m = 0 := hfraction.symm.trans (eq_iff_toNat.mp h)
            omega
          have hexponent : e = -1074 := hfull.resolve_right hnormal
          rw [if_neg hnormal, unpack_packComponents s (by decide)]
          simp only [if_true, dif_neg hzero, hfraction, hexponent]

end Likeness.Double
