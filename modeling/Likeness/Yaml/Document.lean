import Likeness.Text.Pieces
import Likeness.Text.Ranges
import Likeness.Yaml.Arrangement
import Likeness.Yaml.Making

/-!
# Reading documents

A file is read by pieces, and a document in it only as far as is needed: what is wrong
with the bytes or with the characters behind a place where the reading ends is never
found.
-/

namespace Likeness.Yaml

/-- The code points that a document may contain. -/
def allowedRanges : List (Nat × Nat) := [
  (0x09, 0x0A), (0x0D, 0x0D), (0x20, 0x7E), (0x85, 0x85), (0xA0, 0xFFFD), (0x10000, 0x10FFFF)]

/-- A text has only characters that a document may contain. -/
def isAllowed (cs : List Char) : Bool := cs.all fun c => Text.inRanges allowedRanges c.toNat

/-- How many pieces of a file are looked at before anything else. -/
def frontCount : Nat := 2

/-- The part of a text that can be read, and why no more can.  The first pieces have
    to be right before anything is read; what is wrong behind them is found only when
    the reading comes that far. -/
def readable (p : Text.Pieces) : Except Fault (List Char × Option Fault) :=
  let front := p.pieces.take frontCount
  match p.fault with
  | some f =>
    if front.length < frontCount then .error (.notUtf8 f) else cut front (some (.notUtf8 f))
  | none => cut front none
where
  /-- The pieces up to the first with a character that is not allowed. -/
  cut (front : List (List Char)) (stop : Option Fault) : Except Fault (List Char × Option Fault) :=
    if front.any fun cs => !isAllowed cs then refuse .character
    else
      let later := p.pieces.drop frontCount
      let good := later.takeWhile isAllowed
      .ok ((front ++ good).flatten,
        if good.length < later.length then some (.notYaml .character) else stop)

/-- The value of a text; one without a document has none. -/
def read (p : Text.Pieces) : Except Fault Value := do
  let (cs, stop) ← readable p
  match ← Document.ofTokens? (tokensOf cs stop) with
  | none => .ok .null
  | some d => d.value

end Likeness.Yaml
