/-!
# Octets written as characters

Three octets are written as four characters, each of which stands for six bits;
`=` fills up the last four.  Other characters are passed over in reading.
-/

namespace Likeness.Text.Base64

/-- The six bits that a character stands for. -/
def bits? (c : Char) : Option Nat :=
  if 'A' ≤ c ∧ c ≤ 'Z' then some (c.toNat - 65)
  else if 'a' ≤ c ∧ c ≤ 'z' then some (c.toNat - 71)
  else if '0' ≤ c ∧ c ≤ '9' then some (c.toNat + 4)
  else if c = '+' then some 62
  else if c = '/' then some 63
  else none

/-- The octets that characters stand for.  The place is that in a group of four,
    `held` are the bits that wait for more, and `fills` counts the signs since the
    last bits that fill up a group.  A group that is full ends the text; one that is
    not is refused at its end. -/
def decodeFrom (place held fills : Nat) : List Char → Option (List UInt8)
  | [] => if place = 0 then some [] else none
  | c :: rest =>
    if c = '=' then
      if place < 2 then decodeFrom place held fills rest
      else if 4 ≤ place + fills + 1 then some []
      else decodeFrom place held (fills + 1) rest
    else
      match bits? c with
      | none => decodeFrom place held fills rest
      | some n =>
        match place with
        | 0 => decodeFrom 1 n 0 rest
        | 1 => (decodeFrom 2 (n % 16) 0 rest).map (UInt8.ofNat (held * 4 + n / 16) :: ·)
        | 2 => (decodeFrom 3 (n % 4) 0 rest).map (UInt8.ofNat (held * 16 + n / 4) :: ·)
        | _ => (decodeFrom 0 0 0 rest).map (UInt8.ofNat (held * 64 + n) :: ·)

/-- The octets that a text stands for. -/
def decode (cs : List Char) : Option (List UInt8) := decodeFrom 0 0 0 cs

end Likeness.Text.Base64
