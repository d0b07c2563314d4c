/-!
# Powers of two and of ten

Doubles and machine words are measured in powers of two, decimals in powers of
ten.
-/

namespace Likeness

/-- Two to a power. -/
abbrev twoTo (n : Nat) : Nat := Nat.pow 2 n

/-- Ten to a power. -/
abbrev tenTo (n : Nat) : Nat := Nat.pow 10 n

end Likeness
