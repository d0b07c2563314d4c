import Likeness.Decimal.Layout
import Likeness.Text.Printable

/-!
# Quoted text

Messages quote a text in single quotes, or in double quotes when it holds a
single quote and no double quote.  Backslashes, the chosen quote, line feeds,
carriage returns and tabs are escaped by a letter; other characters that are not
printable by their code in hexadecimal, in the shortest of three widths.
-/

namespace Likeness.Text.Quoted

/-- A number in lower-case hexadecimal, filled up with zeros. -/
def hex (width n : Nat) : List Char := Decimal.padLeft width '0' (Nat.toDigits 16 n)

/-- The quote a text is put in. -/
def quoteFor (s : List Char) : Char :=
  if s.contains '\'' && !s.contains '"' then '"' else '\''

/-- A code point inside quotes by its number, in the shortest of three widths. -/
def encodeNumber (code : Nat) : List Char :=
  if code < 0x100 then '\\' :: 'x' :: hex 2 code
  else if code < 0x10000 then '\\' :: 'u' :: hex 4 code
  else '\\' :: 'U' :: hex 8 code

/-- One character inside quotes. -/
def encodeChar (quote c : Char) : List Char :=
  if c == quote || c == '\\' then ['\\', c]
  else if c == '\n' then ['\\', 'n']
  else if c == '\r' then ['\\', 'r']
  else if c == '\t' then ['\\', 't']
  else if isPrintable c then [c]
  else encodeNumber c.toNat

/-- A text in quotes. -/
def encode (s : List Char) : List Char :=
  let quote := quoteFor s
  quote :: s.flatMap (encodeChar quote) ++ [quote]

end Quoted

/-- A text in quotes, as messages show it. -/
def quoted (s : String) : String := String.ofList (Quoted.encode s.toList)

/-- A text given by its code points in quotes; halves of characters are shown by
    their numbers. -/
def quotedCodes (codes : List Nat) : String :=
  let quote := Quoted.quoteFor (codes.map Char.ofNat)
  String.ofList (quote :: (codes.flatMap fun code =>
    if 0xD800 ≤ code ∧ code ≤ 0xDFFF then Quoted.encodeNumber code
    else Quoted.encodeChar quote (Char.ofNat code)) ++ [quote])

/-- A list as messages show it: items in brackets, separated by commas. -/
def bracketed (items : List String) : String :=
  "[" ++ String.intercalate ", " items ++ "]"

end Likeness.Text
