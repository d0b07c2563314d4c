import Likeness.Decimal.Numeral
import Likeness.Json.Problem
import Likeness.Text.Quoted

/-!
# Texts in JSON

A text stands in double quotes.  Quotes, backslashes and control characters are
escaped in it, and nothing else has to be.  `encode` writes a text with its
quotes; `textFrom` reads the code points of one behind its opening quote.  An escape
may name half of a character, which stays one when its other half does not follow.
-/

namespace Likeness.Json.Quoted

/-- One character between quotes. -/
def encodeChar (c : Char) : List Char :=
  if c = '"' then ['\\', '"']
  else if c = '\\' then ['\\', '\\']
  else if c = '\n' then ['\\', 'n']
  else if c = '\r' then ['\\', 'r']
  else if c = '\t' then ['\\', 't']
  else if c = '\x08' then ['\\', 'b']
  else if c = '\x0c' then ['\\', 'f']
  else if c.toNat < 0x20 then '\\' :: 'u' :: Text.Quoted.hex 4 c.toNat
  else [c]

/-- A text in quotes. -/
def encode (s : List Char) : List Char := '"' :: s.flatMap encodeChar ++ ['"']

/-- The code points of a text in quotes that is given by its code points. -/
def encodeCodes (codes : List Nat) : List Nat :=
  34 :: codes.flatMap (fun code =>
    if code < 0x80 then (encodeChar (Char.ofNat code)).map Char.toNat else [code]) ++ [34]

/-- The character that a letter stands for behind a backslash. -/
def escaped? (c : Char) : Option Char :=
  if c = '"' ∨ c = '\\' ∨ c = '/' then some c
  else if c = 'b' then some '\x08'
  else if c = 'f' then some '\x0c'
  else if c = 'n' then some '\n'
  else if c = 'r' then some '\r'
  else if c = 't' then some '\t'
  else none

/-- The number of four hexadecimal digits. -/
def hex4? (a b c d : Char) : Option Nat := Decimal.readNat? 16 [a, b, c, d]

/-- A high surrogate. -/
def isHigh (n : Nat) : Bool := 0xD800 ≤ n && n ≤ 0xDBFF

/-- A low surrogate. -/
def isLow (n : Nat) : Bool := 0xDC00 ≤ n && n ≤ 0xDFFF

/-- The code point of two surrogates. -/
def joined (high low : Nat) : Nat := 0x10000 + (high - 0xD800) * 0x400 + (low - 0xDC00)

/-- A high surrogate with its partner in the escape that follows it, or on its own
    when there is none.  An escape needs a character behind it, as the closing quote
    is still to come. -/
def joinedWith (high : Nat) : List Char → Except Refusal (Nat × List Char)
  | '\\' :: 'u' :: a :: b :: c :: d :: e :: rest =>
    match hex4? a b c d with
    | none => .error (.at .badUnicodeEscape (rest.length + 6))
    | some low =>
      if isLow low then .ok (joined high low, e :: rest)
      else .ok (high, '\\' :: 'u' :: a :: b :: c :: d :: e :: rest)
  | rest => .ok (high, rest)

/-- The code point of an escape by number, behind its mark. -/
def unicodeEscape : List Char → Except Refusal (Nat × List Char)
  | a :: b :: c :: d :: e :: rest =>
    match hex4? a b c d with
    | none => .error (.at .badUnicodeEscape (rest.length + 6))
    | some n => if isHigh n then joinedWith n (e :: rest) else .ok (n, e :: rest)
  | rest => .error (.at .badUnicodeEscape (rest.length + 1))

/-- The code point of an escape, behind its backslash; `start` is what was left at
    the opening quote. -/
def escape (start : Nat) : List Char → Except Refusal (Nat × List Char)
  | [] => .error (.at .unterminatedText start)
  | c :: rest =>
    if c = 'u' then unicodeEscape rest
    else
      match escaped? c with
      | some d => .ok (d.toNat, rest)
      | none => .error (.at .badEscape (rest.length + 2))

/-- The code points of the text behind an opening quote, and what follows its closing
    quote.  The first number bounds the characters that are read. -/
def textFrom (start : Nat) : Nat → List Char → Except Refusal (List Nat × List Char)
  | 0, _ | _, [] => .error (.at .unterminatedText start)
  | fuel + 1, c :: rest =>
    if c = '"' then .ok ([], rest)
    else if c = '\\' then do
      let (d, rest) ← escape start rest
      let (ds, rest) ← textFrom start fuel rest
      .ok (d :: ds, rest)
    else if c.toNat < 0x20 then .error (.at .controlCharacter (rest.length + 1))
    else do
      let (ds, rest) ← textFrom start fuel rest
      .ok (c.toNat :: ds, rest)

end Likeness.Json.Quoted
