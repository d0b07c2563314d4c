import Likeness.Decimal.Numeral
import Likeness.Text.Blank

/-!
# Literals

What a handler is given is written as literals: numbers, quoted texts, names, and
groups of these in parentheses or braces, joined by operators.  Only whether a text
is of this form matters here, and what is wrong with it if it is not.  A problem
with brackets or quotes counts before any other.
-/

namespace Likeness.Terminal.Literal

/-- What a text is not a literal for. -/
inductive Problem where
  | syntaxWrong
  | commaMissing
  | neverClosed (opening : Char)
  | unmatched (closing : Char)
  | mismatched (closing opening : Char)
  | unterminated (tripled : Bool)
  /-- A number of this kind goes on as none can. -/
  | badNumber (kind : String)
  | badDigit (digit : Char) (kind : String)
  | leadingZeros
  | afterContinuation
  | valueMissing
  | colonMissing
  deriving Repr, DecidableEq

/-- A problem in words. -/
def Problem.message : Problem → String
  | syntaxWrong => "invalid syntax"
  | commaMissing => "invalid syntax. Perhaps you forgot a comma?"
  | neverClosed c => "'" ++ String.ofList [c] ++ "' was never closed"
  | unmatched c => "unmatched '" ++ String.ofList [c] ++ "'"
  | mismatched c o =>
    "closing parenthesis '" ++ String.ofList [c] ++ "' does not match opening parenthesis '"
      ++ String.ofList [o] ++ "'"
  | unterminated tripled =>
    "unterminated " ++ (if tripled then "triple-quoted " else "")
      ++ "string literal (detected at line 1)"
  | badNumber kind => "invalid " ++ kind ++ " literal"
  | badDigit c kind => "invalid digit '" ++ String.ofList [c] ++ "' in " ++ kind ++ " literal"
  | leadingZeros =>
    "leading zeros in decimal integer literals are not permitted; "
      ++ "use an 0o prefix for octal integers"
  | afterContinuation => "unexpected character after line continuation character"
  | valueMissing => "expression expected after dictionary key and ':'"
  | colonMissing => "':' expected after dictionary key"

/-- A part of a literal. -/
inductive Token where
  | number
  | text
  | name
  | opening (c : Char)
  | closing (c : Char)
  | comma
  | colon
  | point
  /-- An operator that may stand in front of one operand. -/
  | sign
  /-- An operator between two operands. -/
  | operator
  | other
  deriving Repr, DecidableEq

/-! ## Parts -/

/-- A name begins with this character. -/
def startsName (c : Char) : Bool := c.isAlpha || c = '_' || 0x80 ≤ c.toNat

/-- A name goes on with this character. -/
def inName (c : Char) : Bool := startsName c || Decimal.isDigit c

/-- The digits at the head of a text, with low lines between them, and the rest;
    none when a low line has no digit behind it. -/
def digits? (p : Char → Bool) (cs : List Char) : Option (List Char) :=
  let run := cs.takeWhile fun c => p c || c = '_'
  if run.head? = some '_' ∨ run.getLast? = some '_'
      ∨ (run.zip run.tail).contains ('_', '_') then none
  else some (cs.drop run.length)

/-- What follows the exponent of a number, if it has one. -/
def afterExponent? : List Char → Option (List Char)
  | c :: rest =>
    if c = 'e' ∨ c = 'E' then
      let body := (Decimal.cutSign rest).2
      if (body.head?).any Decimal.isDigit then digits? Decimal.isDigit body
      else some (c :: rest)
    else some (c :: rest)
  | [] => some []

/-- The base that a letter behind a zero asks for, and what numbers in it are called. -/
def baseOf? (c : Char) : Option (Nat × String) :=
  if c = 'x' ∨ c = 'X' then some (16, "hexadecimal")
  else if c = 'o' ∨ c = 'O' then some (8, "octal")
  else if c = 'b' ∨ c = 'B' then some (2, "binary")
  else none

/-- What follows the digits of a number in a base. -/
def afterDigits (base : Nat) (kind : String) (cs : List Char) : Except Problem (List Char) :=
  let cs := if cs.head? = some '_' then cs.drop 1 else cs
  let isDigit (c : Char) : Bool := (Decimal.digitIn? base c).isSome
  match digits? isDigit cs with
  | none => .error (.badNumber kind)
  | some rest =>
    match rest with
    | c :: _ =>
      if Decimal.isDigit c then .error (.badDigit c kind)
      else if startsName c || rest.length = cs.length then .error (.badNumber kind)
      else .ok rest
    | [] => if cs.isEmpty then .error (.badNumber kind) else .ok []

/-- What follows a decimal number. -/
def afterDecimal (cs : List Char) : Except Problem (List Char) := do
  let bad : Except Problem (List Char) := .error (.badNumber "decimal")
  let whole := cs.takeWhile fun c => Decimal.isDigit c || c = '_'
  let rest ← (digits? Decimal.isDigit cs).elim bad .ok
  let rest ← match rest with
    | '.' :: rest => (digits? Decimal.isDigit rest).elim bad .ok
    | rest => .ok rest
  let rest ← (afterExponent? rest).elim bad .ok
  let (imaginary, rest) := match rest with
    | c :: more => if c = 'j' ∨ c = 'J' then (true, more) else (false, rest)
    | [] => (false, [])
  if whole.length + rest.length = cs.length && !imaginary && whole.head? = some '0'
      && whole.any (fun c => c ≠ '0' && c ≠ '_') then .error .leadingZeros
  else if (rest.head?).any startsName then bad
  else .ok rest

/-- What follows a number. -/
def afterNumber : List Char → Except Problem (List Char)
  | '0' :: c :: rest =>
    match baseOf? c with
    | some (base, kind) => afterDigits base kind rest
    | none => afterDecimal ('0' :: c :: rest)
  | cs => afterDecimal cs

/-- What follows the closing quote of a text. -/
def afterQuote? (quote : Char) : List Char → Option (List Char)
  | [] => none
  | '\\' :: _ :: rest => afterQuote? quote rest
  | c :: rest => if c = quote then some rest else afterQuote? quote rest

/-- What follows three closing quotes. -/
def afterThreeQuotes? (quote : Char) : List Char → Option (List Char)
  | [] => none
  | '\\' :: _ :: rest => afterThreeQuotes? quote rest
  | c :: rest =>
    if c = quote && rest.take 2 = [quote, quote] then some (rest.drop 2)
    else afterThreeQuotes? quote rest

/-- What follows a quoted text, from its opening quote on. -/
def afterText (quote : Char) (cs : List Char) : Except Problem (List Char) :=
  if cs.take 3 = [quote, quote, quote] then
    (afterThreeQuotes? quote (cs.drop 3)).elim (.error (.unterminated true)) .ok
  else (afterQuote? quote (cs.drop 1)).elim (.error (.unterminated false)) .ok

/-- The letters that may stand in front of a quoted text. -/
def isMark (word : List Char) : Bool :=
  ["b", "r", "u", "f", "br", "rb", "fr", "rf"].contains (String.ofList (Decimal.lowerAscii word))

/-- The words that are operators. -/
def operatorWords : List String := ["and", "or", "in", "is"]

/-- The words that stand for nothing by themselves. -/
def otherWords : List String := ["if", "else", "for", "not", "lambda", "def", "class", "return",
  "while", "with", "as", "assert", "async", "await", "break", "continue", "del", "elif", "except",
  "finally", "from", "global", "import", "nonlocal", "pass", "raise", "try", "yield"]

/-- The operators of two characters. -/
def longOperators : List String := ["**", "//", "<<", ">>", "==", "!=", "<=", ">="]

/-- The parts of a text, given the brackets that are open; with the one that stays
    open last, if one does.  The number bounds the parts. -/
def tokens : Nat → List Char → List Char → Except Problem (List Token × Option Char)
  | 0, open', _ => .ok ([], open'.head?)
  | _ + 1, open', [] => .ok ([], open'.head?)
  | fuel + 1, open', c :: rest =>
    let put (t : Token) (open' rest : List Char) : Except Problem (List Token × Option Char) :=
      (tokens fuel open' rest).map fun r => (t :: r.1, r.2)
    if c = ' ' ∨ c = '\t' ∨ c = '\x0c' then tokens fuel open' rest
    else if c = '#' then .ok ([], open'.head?)
    else if c = '\\' then .error .afterContinuation
    else if c = '\'' ∨ c = '"' then do put .text open' (← afterText c (c :: rest))
    else if startsName c then
      let word := c :: rest.takeWhile inName
      let rest := rest.dropWhile inName
      match rest with
      | q :: _ =>
        if (q = '\'' ∨ q = '"') ∧ isMark word then do put .text open' (← afterText q rest)
        else put (wordToken word) open' rest
      | [] => put (wordToken word) open' rest
    else if Decimal.isDigit c || c = '.' && (rest.head?).any Decimal.isDigit then do
      put .number open' (← afterNumber (c :: rest))
    else if c = '(' ∨ c = '\x7b' then put (.opening c) (c :: open') rest
    else if c = ')' ∨ c = '\x7d' then
      match open' with
      | [] => .error (.unmatched c)
      | o :: open' =>
        if (o == '(') = (c == ')') then put (.closing c) open' rest
        else .error (.mismatched c o)
    else if (c :: rest).take 3 = ['.', '.', '.'] then put .number open' (rest.drop 2)
    else if longOperators.contains (String.ofList ((c :: rest).take 2)) then
      put .operator open' (rest.drop 1)
    else if c = ',' then put .comma open' rest
    else if c = ':' then put .colon open' rest
    else if c = '.' then put .point open' rest
    else if c = '+' ∨ c = '-' ∨ c = '~' then put .sign open' rest
    else if "*/%@&|^<>".toList.contains c then put .operator open' rest
    else put .other open' rest
where
  /-- The part that a word is. -/
  wordToken (word : List Char) : Token :=
    let w := String.ofList word
    if operatorWords.contains w then .operator
    else if otherWords.contains w then .other
    else if w = "True" ∨ w = "False" ∨ w = "None" then .number
    else .name

/-! ## Form -/

/-- The problem at the place where some parts are left: at the end it is the
    bracket that stays open. -/
def stuck (unclosed : Option Char) : List Token → Problem
  | [] => unclosed.elim .syntaxWrong .neverClosed
  | _ => .syntaxWrong

/-- An operand may begin with this part. -/
def startsOperand : Token → Bool
  | .number | .text | .name | .sign | .opening _ => true
  | _ => false

mutual

/-- What follows operands joined by operators. -/
def expression (unclosed : Option Char) : Nat → List Token → Except Problem (List Token)
  | 0, ts => .error (stuck unclosed ts)
  | fuel + 1, ts => do
    match ← operand unclosed fuel ts with
    | .operator :: rest => expression unclosed fuel rest
    | .sign :: rest => expression unclosed fuel rest
    | rest => .ok rest

/-- What follows an operand, with the calls and names behind it. -/
def operand (unclosed : Option Char) : Nat → List Token → Except Problem (List Token)
  | 0, ts => .error (stuck unclosed ts)
  | fuel + 1, .sign :: ts => operand unclosed fuel ts
  | fuel + 1, .number :: ts => behind unclosed fuel ts
  | fuel + 1, .name :: ts => behind unclosed fuel ts
  | fuel + 1, .text :: ts => behind unclosed fuel (ts.dropWhile (· = .text))
  | fuel + 1, .opening c :: ts => do behind unclosed fuel (← group unclosed fuel c ts)
  | _, [.operator] => .error (stuck unclosed [])
  | _, ts => .error (stuck unclosed ts)

/-- What follows the calls and names behind an operand. -/
def behind (unclosed : Option Char) : Nat → List Token → Except Problem (List Token)
  | fuel + 1, .opening '(' :: ts => do behind unclosed fuel (← group unclosed fuel '(' ts)
  | fuel + 1, .point :: .name :: ts => behind unclosed fuel ts
  | _, .point :: ts => .error (stuck unclosed ts)
  | _, [] => if unclosed.isSome then .error (stuck unclosed []) else .ok []
  | _, ts => .ok ts

/-- What follows an expression inside brackets: two of them side by side lack a
    comma. -/
def member (unclosed : Option Char) : Nat → List Token → Except Problem (List Token)
  | 0, ts => .error (stuck unclosed ts)
  | fuel + 1, ts => do
    let rest ← expression unclosed fuel ts
    match rest with
    | t :: _ =>
      if startsOperand t && !(ts.take 2 == [.name, .text]) then
        match expression unclosed fuel rest with
        | .ok _ => .error .commaMissing
        | .error (.neverClosed c) => .error (.neverClosed c)
        | .error .commaMissing => .error .commaMissing
        | .error _ => .error .syntaxWrong
      else .ok rest
    | [] => .error (stuck unclosed [])

/-- What follows a group, from behind its opening bracket on. -/
def group (unclosed : Option Char) : Nat → Char → List Token → Except Problem (List Token)
  | 0, _, ts => .error (stuck unclosed ts)
  | _ + 1, _, .closing _ :: ts => .ok ts
  | fuel + 1, c, ts => do
    match ← member unclosed fuel ts with
    | .colon :: rest => if c = '\x7b' then entry unclosed fuel rest else .error .syntaxWrong
    | rest => items unclosed fuel rest

/-- What follows the items of a group, from behind the first on. -/
def items (unclosed : Option Char) : Nat → List Token → Except Problem (List Token)
  | _ + 1, .closing _ :: ts => .ok ts
  | _ + 1, .comma :: .closing _ :: ts => .ok ts
  | fuel + 1, .comma :: ts => do items unclosed fuel (← member unclosed fuel ts)
  | _, ts => .error (stuck unclosed ts)

/-- What follows the entries of a group, from behind the first colon on. -/
def entry (unclosed : Option Char) : Nat → List Token → Except Problem (List Token)
  | 0, ts => .error (stuck unclosed ts)
  | _ + 1, .closing _ :: _ => .error .valueMissing
  | _ + 1, .comma :: _ => .error .valueMissing
  | fuel + 1, ts => do
    match ← member unclosed fuel ts with
    | .closing _ :: rest => .ok rest
    | .comma :: .closing _ :: rest => .ok rest
    | .comma :: rest =>
      match ← member unclosed fuel rest with
      | .colon :: rest => entry unclosed fuel rest
      | .closing _ :: _ | .comma :: _ => .error .colonMissing
      | rest => .error (stuck unclosed rest)
    | rest => .error (stuck unclosed rest)

end

/-- What follows expressions that are separated by commas. -/
def expressions (unclosed : Option Char) : Nat → List Token → Except Problem (List Token)
  | 0, ts => .error (stuck unclosed ts)
  | fuel + 1, ts => do
    match ← expression unclosed (8 * fuel + 8) ts with
    | [.comma] => .ok []
    | .comma :: rest => expressions unclosed fuel rest
    | t :: rest =>
      if startsOperand t then
        match expression unclosed (8 * fuel + 8) (t :: rest) with
        | .error (.neverClosed c) => .error (.neverClosed c)
        | _ => .error .syntaxWrong
      else .ok (t :: rest)
    | [] => .ok []

/-- What is wrong with a text as a literal. -/
def problem? (cs : List Char) : Option Problem :=
  match tokens (cs.length + 1) [] cs with
  | .error p => some p
  | .ok (ts, unclosed) =>
    match expressions unclosed (ts.length + 1) ts with
    | .error p => some p
    | .ok [] => if unclosed.isSome then some (stuck unclosed []) else none
    | .ok rest => some (stuck unclosed rest)

end Likeness.Terminal.Literal
