import Likeness.Text.Lines

/-!
# Pieces

A file can be read by pieces of so many characters.  Bytes are decoded in chunks:
a chunk is made longer when it would hold too few characters for the piece, as far
as can be told from the chunk before it.  A piece that cannot be filled because of
a fault is lost.
-/

namespace Likeness.Text

/-- How many characters a piece has; the last one may have less. -/
def pieceSize : Nat := 4096

/-- The pieces of a file that can be read, and why no more can. -/
structure Pieces where
  pieces : List (List Char)
  fault : Option Utf8.Fault

namespace Pieces

/-- Where the reading of a file stands. -/
structure Progress where
  /-- Bytes of a character that is not finished. -/
  carry : List UInt8
  /-- A carriage return was read, which may be half a break. -/
  halfBreak : Bool
  /-- How many characters were read. -/
  total : Nat
  /-- How many bytes the next chunk has. -/
  size : Nat

/-- How many bytes the next chunk has, when a number of characters has been read,
    the last of them from the bytes of one chunk. -/
def sizeAfter (total bytes chars : Nat) : Nat :=
  let wanted := pieceSize - total % pieceSize
  if chars = 0 then chunkSize
  else
    let guess := Float.ofNat bytes / Float.ofNat chars * Float.ofNat wanted
    max chunkSize guess.toUInt64.toNat

/-- The characters of a file from some place on, up to a fault. -/
def decode : Nat → Progress → List UInt8 → Utf8.Decoded
  | 0, _, _ => ⟨[], none⟩
  | fuel + 1, p, bytes =>
    match bytes with
    | [] =>
      match (Utf8.decode p.carry).fault with
      | none => ⟨if p.halfBreak then ['\n'] else [], none⟩
      | some f => ⟨[], some f⟩
    | b :: rest =>
      let chunk := (b :: rest).take p.size
      match decodeChunk (p.carry ++ chunk) with
      | .error f => ⟨[], some f⟩
      | .ok (cs, carry) =>
        let raw := if p.halfBreak then '\r' :: cs else cs
        let cs := unifyBreaks (withoutHalfBreak raw)
        let total := p.total + cs.length
        let d := decode fuel
          ⟨carry, raw.getLast? = some '\r', total, sizeAfter total chunk.length cs.length⟩
          ((b :: rest).drop p.size)
        ⟨cs ++ d.chars, d.fault⟩

/-- The pieces of a file. -/
def ofBytes (bytes : List UInt8) : Pieces :=
  let d := decode (bytes.length + 1) ⟨[], false, 0, chunkSize⟩ bytes
  let full := d.chars.length / pieceSize
  let count := if d.fault.isNone && d.chars.length % pieceSize ≠ 0 then full + 1 else full
  ⟨(List.range count).map fun i => (d.chars.drop (i * pieceSize)).take pieceSize, d.fault⟩

end Pieces

end Likeness.Text
