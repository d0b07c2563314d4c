import Likeness.Power
import Likeness.Scalar

/-!
# Signed 32-bit words

Hash codes are signed 32-bit words.  Wider integers and doubles are brought to 32
bits by folding their upper half onto the lower one.
-/

namespace Likeness.HashCode

/-- The number of 32-bit words. -/
def modulus : Nat := twoTo 32

/-- An integer as a signed 32-bit word. -/
def wrap (n : Int) : Int := Int.bmod n modulus

/-- The lower halves of 64 bits, the upper one laid over the lower one. -/
def overlay (bits : Nat) : Int := wrap ((bits ^^^ (bits / twoTo 32)) % twoTo 32 : Nat)

/-- The code of an integer: itself when it is a word, else its low 64 bits
    overlaid. -/
def ofInt (n : Int) : Int :=
  if -(twoTo 31) ≤ n ∧ n < twoTo 31 then n else overlay (n % twoTo 64).toNat

/-- The code of a double: its 64 bits overlaid. -/
def ofFloat (x : Float) : Int := overlay x.toBits.toNat

end Likeness.HashCode
