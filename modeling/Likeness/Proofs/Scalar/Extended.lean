import Likeness.Proofs.Scalar.Specials

/-! # Exact fractions and the special values

    Fractions in which nothing is rounded, with two infinities and what is not a
    number beside them.  The special values follow the rules of doubles; there is
    one zero, and it counts as positive when it divides. -/

namespace Likeness

/-- A fraction or a special value. -/
inductive Extended where
  | finite (q : ℚ)
  | infinite (negative : Bool)
  | nan

namespace Extended

/-- The sum; opposite infinities have none. -/
def add : Extended → Extended → Extended
  | finite a, finite b => finite (a + b)
  | finite _, infinite t => infinite t
  | infinite s, finite _ => infinite s
  | infinite s, infinite t => if s = t then infinite s else nan
  | _, _ => nan

def neg : Extended → Extended
  | finite a => finite (-a)
  | infinite s => infinite (!s)
  | nan => nan

/-- The product; zero and an infinity have none. -/
def mul : Extended → Extended → Extended
  | finite a, finite b => finite (a * b)
  | finite a, infinite t => if a = 0 then nan else infinite (decide (a < 0) ^^ t)
  | infinite s, finite b => if b = 0 then nan else infinite (s ^^ decide (b < 0))
  | infinite s, infinite t => infinite (s ^^ t)
  | _, _ => nan

/-- The quotient; zeros have none, and neither have infinities. -/
def div : Extended → Extended → Extended
  | finite a, finite b =>
    if b = 0 then (if a = 0 then nan else infinite (decide (a < 0))) else finite (a / b)
  | finite _, infinite _ => finite 0
  | infinite s, finite b => infinite (s ^^ decide (b < 0))
  | _, _ => nan

/-- An exact number with its value in lowest terms. -/
def exact : Extended → Decimal.Exact
  | finite q => .ratio q.num q.den
  | infinite s => .infinite s
  | nan => .nan

def ofExact : Decimal.Exact → Extended
  | .ratio num den => finite (num / den)
  | .infinite s => infinite s
  | .nan => nan

instance : Scalar Extended where
  add := add
  sub x y := add x y.neg
  mul := mul
  div := div
  ofNat n := finite n
  ofFloat x := ofExact (.ofFloat x)
  nearest? num den := some (finite (num / den))
  atMost x y := x.exact.below y.exact || x.exact.equal y.exact
  exact := exact
  text
    | finite q => Decimal.intText q.num ++ "/" ++ Decimal.intText q.den
    | infinite s => if s then "-inf" else "inf"
    | nan => "nan"

theorem denotes (a : ℚ) : Scalar.Denotes (finite a) a :=
  ⟨a.num, a.den, rfl, a.den_pos, a.num_div_den⟩

theorem eq_finite {x : Extended} {a : ℚ} (h : Scalar.Denotes x a) : x = finite a := by
  cases x with
  | finite q => rw [h.unique (denotes q)]
  | infinite s =>
      obtain ⟨_, _, hexact, -⟩ := h
      exact nomatch hexact
  | nan =>
      obtain ⟨_, _, hexact, -⟩ := h
      exact nomatch hexact

theorem rounded (a : ℚ) : Scalar.Rounded (finite a) a := .inl (denotes a).nearest

instance : Scalar.Rounds Extended where
  den_pos x num den h := by
    cases x with
    | finite q =>
        obtain ⟨-, rfl⟩ := Decimal.Exact.ratio.inj h
        exact q.den_pos
    | infinite s => exact nomatch h
    | nan => exact nomatch h
  atMost_eq _ _ := rfl
  mul_comm x y := by
    show mul x y = mul y x
    cases x with
    | finite a =>
        cases y with
        | finite b => rw [mul, mul, Rat.mul_comm]
        | infinite t => rw [mul, mul, Bool.xor_comm]
        | nan => rfl
    | infinite s =>
        cases y with
        | finite b => rw [mul, mul, Bool.xor_comm]
        | infinite t => rw [mul, mul, Bool.xor_comm]
        | nan => rfl
    | nan => cases y <;> rfl
  ofNat_denotes n _ := denotes n
  ofNat_nearest n _ := (denotes n).nearest
  ofInt?_nearest n x h := by
    obtain rfl := Option.some.inj h
    rw [Nat.cast_one, div_one]
    exact (denotes n).nearest
  ofInt?_some n _ := ⟨_, rfl⟩
  add_rounded ha hb := by
    rw [eq_finite ha, eq_finite hb]
    exact rounded _
  sub_rounded {x y a b} ha hb := by
    rw [eq_finite ha, eq_finite hb, sub_eq_add_neg]
    exact rounded _
  mul_rounded ha hb := by
    rw [eq_finite ha, eq_finite hb]
    exact rounded _
  div_rounded {x y a b} ha hb hne := by
    rw [eq_finite ha, eq_finite hb]
    show Scalar.Rounded (if b = 0 then _ else finite (a / b)) _
    rw [if_neg hne]
    exact rounded _
  injective hx hy _ := (eq_finite hx).trans (eq_finite hy).symm
  complement {x y z a b c} _ _ _ hy hb hz hc := by
    obtain rfl := (hy.eq (denotes _)).unique hb
    obtain rfl := (hz.eq (denotes _)).unique hc
    linarith

instance : Scalar.Specials Extended where
  ofFloat_ratio {x num den} h := by
    show Scalar.Denotes (ofExact (.ofFloat x)) _
    rw [h]
    exact denotes _
  ofFloat_infinite {x negative} h := by
    show exact (ofExact (.ofFloat x)) = _
    rw [h]
    rfl
  infinite_mul {x y b} hx hy := by
    rw [eq_finite hy]
    cases x with
    | finite q => exact nomatch hx
    | nan => exact nomatch hx
    | infinite s =>
        obtain rfl := Decimal.Exact.infinite.inj hx
        show exact (if b = 0 then nan else infinite (false ^^ decide (b < 0))) = _
        rw [Bool.false_xor]
        split_ifs with hb
        · rfl
        · rfl
  nan_mul {x y} hx := by
    cases x with
    | finite q => exact nomatch hx
    | infinite s => exact nomatch hx
    | nan => rfl
  add_nan {x y} hy := by
    cases y with
    | finite q => exact nomatch hy
    | infinite s => exact nomatch hy
    | nan => cases x <;> rfl

end Extended

end Likeness
