import Likeness.Proofs.HashCode.Codes
import Mathlib.Algebra.BigOperators.Fin
import Mathlib.Algebra.Ring.Int.Parity
import Mathlib.Data.Int.Interval
import Mathlib.RingTheory.Coprime.Lemmas
import Mathlib.Tactic.Linarith
import Mathlib.Tactic.Ring

/-! # A total is a polynomial in the multiplier

    Reduction to signed 32-bit words respects sums and products, so that it can be
    put off to the end: a total is the reduction of a polynomial in the multiplier,
    whose coefficients are the start and the codes.  An odd multiplier is a unit
    modulo a power of two, so that no step forgets the total before it.

    The main result is `Builder.receiveAll_polynomial`. -/

namespace Likeness.HashCode

/-! ## Words -/

/-- The signed 32-bit words. -/
def words : Set Int := {n | -(twoTo 31) ≤ n ∧ n < twoTo 31}

theorem finite_words : words.Finite :=
  Set.finite_Ico (-(twoTo 31) : Int) (twoTo 31)

theorem wrap_mem (n : Int) : wrap n ∈ words := by
  have hpos : 0 < modulus := by decide
  exact ⟨Int.le_bmod hpos, Int.bmod_lt hpos⟩

/-- Words that differ by a multiple of the modulus are the same. -/
theorem eq_of_dvd_sub {a b : Int} (ha : a ∈ words) (hb : b ∈ words)
    (h : (modulus : Int) ∣ a - b) : a = b := by
  have hsize : (modulus : Int) = twoTo 31 + twoTo 31 := by decide
  have hzero : a - b = 0 := by
    refine Int.eq_zero_of_abs_lt_dvd h ?_
    rw [hsize, abs_lt]
    exact ⟨by linarith [ha.1, hb.2], by linarith [ha.2, hb.1]⟩
  exact Int.sub_eq_zero.mp hzero

theorem dvd_sub_of_wrap_eq {a b : Int} (h : wrap a = wrap b) : (modulus : Int) ∣ a - b := by
  rw [Int.dvd_iff_bmod_eq_zero, ← Int.bmod_eq_bmod_iff_bmod_sub_eq_zero]
  exact h

/-! ## Polynomials -/

/-- The reduction of a total may be put off until after the next step. -/
theorem step_wrap (m t v : Int) : step m (wrap t) v = wrap (t * m + v) := by
  rw [step, wrap, wrap, wrap, ← Int.bmod_add_bmod, Int.bmod_mul_bmod, Int.bmod_add_bmod]

/-- The start times the highest power of the multiplier, and each code times the power
    for the codes behind it. -/
def polynomial (m start : Int) (vs : List Int) : Int :=
  start * m ^ vs.length + ∑ i : Fin vs.length, vs[i] * m ^ (vs.length - 1 - i)

theorem polynomial_cons (m start v : Int) (vs : List Int) :
    polynomial m start (v :: vs) = polynomial m (start * m + v) vs := by
  have hsum : ∑ i : Fin (v :: vs).length, (v :: vs)[i] * m ^ ((v :: vs).length - 1 - i)
      = v * m ^ vs.length + ∑ i : Fin vs.length, vs[i] * m ^ (vs.length - 1 - i) := by
    refine (Fin.sum_univ_succ (n := vs.length) _).trans ?_
    refine congrArg₂ (· + ·) rfl (Finset.sum_congr rfl fun i _ => ?_)
    show vs[i] * m ^ (vs.length - (i.val + 1)) = _
    rw [Nat.sub_sub, Nat.add_comm 1]
  rw [polynomial, polynomial, hsum, List.length_cons]
  ring

/-- **A TOTAL IS A POLYNOMIAL**: codes appended one after another give the reduction of
    the polynomial that they are the coefficients of. -/
theorem appendCodes_wrap (m t : Int) (vs : List Int) :
    appendCodes m (wrap t) vs = wrap (polynomial m t vs) := by
  induction vs generalizing t with
  | nil =>
      have hconst : polynomial m t [] = t := by
        rw [polynomial]
        simp
      rw [hconst]
      rfl
  | cons v vs ih =>
      rw [polynomial_cons, ← ih (t * m + v), ← step_wrap]
      rfl

/-! ## No step forgets -/

theorem step_mem (m t v : Int) : step m t v ∈ words :=
  wrap_mem _

theorem isCoprime_modulus {m : Int} (hm : Odd m) : IsCoprime (modulus : Int) m := by
  have htwo : IsCoprime (2 : Int) m := by
    obtain ⟨k, rfl⟩ := hm
    exact ⟨-k, 1, by ring⟩
  exact htwo.pow_left (m := 32)

/-- With an odd multiplier, a step takes the words onto the words one to one. -/
theorem step_bijOn {m : Int} (hm : Odd m) (v : Int) :
    Set.BijOn (fun t => step m t v) words words := by
  have hmaps : Set.MapsTo (fun t => step m t v) words words := fun t _ => step_mem m t v
  refine (finite_words.injOn_iff_bijOn_of_mapsTo hmaps).mp ?_
  intro t ht t' ht' heq
  -- the difference of the totals is a multiple of the modulus after the step, hence before it
  have hafter : (modulus : Int) ∣ (t * m + v) - (t' * m + v) := dvd_sub_of_wrap_eq heq
  have hmul : (t * m + v) - (t' * m + v) = (t - t') * m := by ring
  rw [hmul] at hafter
  exact eq_of_dvd_sub ht ht' ((isCoprime_modulus hm).dvd_of_dvd_mul_right hafter)

/-- So do codes appended one after another. -/
theorem appendCodes_bijOn {m : Int} (hm : Odd m) (vs : List Int) :
    Set.BijOn (fun t => appendCodes m t vs) words words := by
  induction vs with
  | nil => exact Set.bijOn_id words
  | cons v vs ih => exact ih.comp (step_bijOn hm v)

/-! ## Builders -/

/-- Odd integers start a hash code. -/
theorem start_odd {initial m : Int} (hinitial : Odd initial) (hm : Odd m) :
    start (.int initial) (.int m) = .ok ⟨m, wrap initial⟩ := by
  have hodd : ∀ {n : Int}, Odd n → isEven (.whole n) = false := by
    intro n hn
    have hmod : n % 2 = 1 := Int.odd_iff.mp hn
    show decide (n % (2 * 1 : Nat) = 0) = false
    exact decide_eq_false (by omega)
  have hnumber : ∀ {even : String → Fault} {n : Int}, Odd n →
      oddNumber even (.int n) = .ok (some n) := by
    intro even n hn
    show (if isEven (.whole n) then _ else _) = _
    rw [hodd hn]
    rfl
  rw [start, hnumber hinitial, hnumber hm]
  rfl

/-- Calls whose codes are all there are made to the end, from any total. -/
theorem Builder.receiveAll_of_codes {calls : List Call} {vs : List Int}
    (hcodes : calls.flatMap Call.codes = vs.map .ok) (b : Builder) :
    b.receiveAll calls = .ok { b with total := appendCodes b.multiplier b.total vs } := by
  rw [b.receiveAll_eq_fold, hcodes, fold_ok]
  rfl

/-- Only such calls are made to the end. -/
theorem Builder.exists_codes_of_receiveAll {calls : List Call} {b b' : Builder}
    (hcalls : b.receiveAll calls = .ok b') :
    ∃ vs : List Int, calls.flatMap Call.codes = vs.map .ok := by
  rw [b.receiveAll_eq_fold] at hcalls
  cases hfold : fold b.multiplier (calls.flatMap Call.codes) b.total with
  | ok total => exact exists_codes_of_fold hfold
  | error s =>
      rw [hfold] at hcalls
      exact nomatch hcalls

/-- **CALLS GIVE A POLYNOMIAL, AND FORGET NOTHING**: for calls that are made to the end
    there are codes, one list for every start and every multiplier, such that any two
    odd integers start a hash code, the calls are made to the end from there, and the
    total is a word, the reduction of the polynomial of these codes.  For each odd
    multiplier the calls take the words onto the words one to one, so that totals that
    differ before them differ after them. -/
theorem Builder.receiveAll_polynomial {calls : List Call} {b b' : Builder}
    (hcalls : b.receiveAll calls = .ok b') :
    ∃ vs : List Int, calls.flatMap Call.codes = vs.map .ok ∧
      (∀ initial m : Int, Odd initial → Odd m → ∃ begun ended,
        start (.int initial) (.int m) = .ok begun ∧ begun.receiveAll calls = .ok ended ∧
        ended.total ∈ words ∧ ended.total = wrap (initial * m ^ vs.length +
          ∑ i : Fin vs.length, vs[i] * m ^ (vs.length - 1 - i))) ∧
      ∀ m : Int, Odd m → ∃ after : Int → Int,
        (∀ t, Builder.receiveAll ⟨m, t⟩ calls = .ok ⟨m, after t⟩) ∧
        Set.BijOn after words words := by
  obtain ⟨vs, hcodes⟩ := Builder.exists_codes_of_receiveAll hcalls
  refine ⟨vs, hcodes, ?_, ?_⟩
  · intro initial m hinitial hm
    have htotal := appendCodes_wrap m initial vs
    have hword : appendCodes m (wrap initial) vs ∈ words := htotal ▸ wrap_mem _
    exact ⟨⟨m, wrap initial⟩, _, start_odd hinitial hm, Builder.receiveAll_of_codes hcodes _,
      hword, htotal⟩
  · intro m hm
    exact ⟨fun t => appendCodes m t vs, fun t => Builder.receiveAll_of_codes hcodes ⟨m, t⟩,
      appendCodes_bijOn hm vs⟩

/-- A list that holds a set, then the code of a base. -/
theorem Builder.receiveAll_polynomial_of_set :
    let calls := [Call.value (.list [.int 5, .set false [.int 4294967296, .null], .bool true]),
      Call.base (.int (-7))]
    (∃ ended, Builder.receiveAll ⟨37, 17⟩ calls = .ok ended) ∧
      ∃ after : Int → Int, (∀ t, Builder.receiveAll ⟨3, t⟩ calls = .ok ⟨3, after t⟩) ∧
        Set.BijOn after words words := by
  intro calls
  have hcalls : ∃ ended, Builder.receiveAll ⟨37, 17⟩ calls = .ok ended := ⟨_, rfl⟩
  obtain ⟨ended, hended⟩ := hcalls
  obtain ⟨vs, -, -, hbij⟩ := Builder.receiveAll_polynomial hended
  exact ⟨⟨ended, hended⟩, hbij 3 (by decide)⟩

end Likeness.HashCode
