/-!
# UTF-8

Files hold bytes.  `encode` writes a text as UTF-8; `decode` reads bytes back
as far as they are UTF-8 and says what stopped it: the position, how many bytes
of the broken sequence were read, and the cause.
-/

namespace Likeness.Text.Utf8

/-- Why bytes are not UTF-8. -/
inductive Cause where
  /-- The byte begins no sequence. -/
  | invalidStart
  /-- A byte inside a sequence is not the continuation it has to be. -/
  | invalidContinuation
  /-- The bytes end inside a sequence. -/
  | truncated
  deriving Repr, DecidableEq

/-- Where and why bytes stop being UTF-8. -/
structure Fault where
  cause : Cause
  /-- The first byte of the broken sequence. -/
  byte : UInt8
  /-- The position of that byte. -/
  position : Nat
  /-- How many bytes of the sequence were read before it broke. -/
  length : Nat
  deriving Repr, DecidableEq

/-- The text before a fault, if there is one, else the whole text. -/
structure Decoded where
  chars : List Char
  fault : Option Fault

/-- One more character in front. -/
def Decoded.cons (c : Nat) (d : Decoded) : Decoded := ⟨Char.ofNat c :: d.chars, d.fault⟩

/-- A text that stops at once. -/
def Decoded.stop (cause : Cause) (byte : UInt8) (position length : Nat) : Decoded :=
  ⟨[], some ⟨cause, byte, position, length⟩⟩

/-- A continuation byte. -/
def isTail (b : UInt8) : Bool := 0x80 ≤ b && b ≤ 0xBF

/-- The byte after a lead byte: the long forms of short characters, surrogates
    and code points beyond the last are excluded by it. -/
def secondFits (lead b : UInt8) : Bool :=
  isTail b && !(lead == 0xE0 && b < 0xA0) && !(lead == 0xED && 0xA0 ≤ b)
    && !(lead == 0xF0 && b < 0x90) && !(lead == 0xF4 && 0x90 ≤ b)

/-- The low six bits of a continuation byte. -/
def payload (b : UInt8) : Nat := b.toNat % 64

/-- Reads characters from a position on. -/
def decodeFrom (at' : Nat) : List UInt8 → Decoded
  | [] => ⟨[], none⟩
  | b :: rest =>
    if b < 0x80 then (decodeFrom (at' + 1) rest).cons b.toNat
    else if b < 0xC2 then .stop .invalidStart b at' 1
    else if b < 0xE0 then
      match rest with
      | [] => .stop .truncated b at' 1
      | c :: rest =>
        if isTail c then (decodeFrom (at' + 2) rest).cons (b.toNat % 32 * 64 + payload c)
        else .stop .invalidContinuation b at' 1
    else if b < 0xF0 then
      match rest with
      | [] => .stop .truncated b at' 1
      | c :: rest =>
        if !secondFits b c then .stop .invalidContinuation b at' 1
        else
          match rest with
          | [] => .stop .truncated b at' 2
          | d :: rest =>
            if isTail d then
              (decodeFrom (at' + 3) rest).cons (b.toNat % 16 * 4096 + payload c * 64 + payload d)
            else .stop .invalidContinuation b at' 2
    else if b < 0xF5 then
      match rest with
      | [] => .stop .truncated b at' 1
      | c :: rest =>
        if !secondFits b c then .stop .invalidContinuation b at' 1
        else
          match rest with
          | [] => .stop .truncated b at' 2
          | d :: rest =>
            if !isTail d then .stop .invalidContinuation b at' 2
            else
              match rest with
              | [] => .stop .truncated b at' 3
              | e :: rest =>
                if isTail e then
                  (decodeFrom (at' + 4) rest).cons
                    (b.toNat % 8 * 262144 + payload c * 4096 + payload d * 64 + payload e)
                else .stop .invalidContinuation b at' 3
    else .stop .invalidStart b at' 1

/-- Reads bytes as UTF-8. -/
def decode (bytes : List UInt8) : Decoded := decodeFrom 0 bytes

/-- A continuation byte with the given low bits. -/
def tail (n : Nat) : UInt8 := UInt8.ofNat (0x80 + n % 64)

/-- The bytes of one character. -/
def encodeChar (c : Char) : List UInt8 :=
  let n := c.toNat
  if n < 0x80 then [UInt8.ofNat n]
  else if n < 0x800 then [UInt8.ofNat (0xC0 + n / 64), tail n]
  else if n < 0x10000 then [UInt8.ofNat (0xE0 + n / 4096), tail (n / 64), tail n]
  else [UInt8.ofNat (0xF0 + n / 262144), tail (n / 4096), tail (n / 64), tail n]

/-- A text as UTF-8. -/
def encode (s : List Char) : List UInt8 := s.flatMap encodeChar

end Likeness.Text.Utf8
