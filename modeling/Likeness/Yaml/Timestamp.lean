import Likeness.Decimal.Numeral
import Likeness.Yaml.Problem

/-!
# Dates and times

A plain scalar may be a date, or a date with a time and an offset from universal
time.  It has to exist.
-/

namespace Likeness.Yaml

/-- A date, with a time of day and an offset in seconds if they are written. -/
structure Timestamp where
  year : Nat
  month : Nat
  day : Nat
  time : Option (Nat × Nat × Nat)
  offset : Int

namespace Timestamp

/-- At least one digit and at most some, as a number, with how many there are and
    what follows. -/
def digits? (most : Nat) (cs : List Char) : Option (Nat × Nat × List Char) :=
  let ds := (cs.take most).takeWhile Decimal.isDigit
  (Decimal.readNat? 10 ds).map fun n => (n, ds.length, cs.drop ds.length)

/-- Exactly some digits. -/
def exactly? (count : Nat) (cs : List Char) : Option (Nat × List Char) :=
  (digits? count cs).bind fun (n, found, rest) => if found = count then some (n, rest) else none

/-- What follows a character. -/
def after? (c : Char) : List Char → Option (List Char)
  | [] => none
  | d :: rest => if d = c then some rest else none

/-- A blank or a tab. -/
def isBlank (c : Char) : Bool := c == ' ' || c == '\t'

/-- The offset at the end of a time: none, a letter, or hours with minutes. -/
def offset? (cs : List Char) : Option Int :=
  match cs.dropWhile isBlank with
  | [] => if cs.isEmpty then some 0 else none
  | ['Z'] => some 0
  | sign :: rest =>
    if sign ≠ '+' ∧ sign ≠ '-' then none
    else do
      let (hours, _, rest) ← digits? 2 rest
      let minutes ← match rest with
        | [] => some 0
        | rest => do
          let (minutes, rest) ← exactly? 2 (← after? ':' rest)
          if rest.isEmpty then some minutes else none
      let seconds : Nat := hours * 3600 + minutes * 60
      some (if sign = '-' then -(seconds : Int) else (seconds : Int))

/-- The time of day and the offset. -/
def time? (cs : List Char) : Option ((Nat × Nat × Nat) × Int) := do
  let (hour, _, rest) ← digits? 2 cs
  let (minute, rest) ← exactly? 2 (← after? ':' rest)
  let (second, rest) ← exactly? 2 (← after? ':' rest)
  let rest := match rest with
    | '.' :: rest => rest.dropWhile Decimal.isDigit
    | rest => rest
  some ((hour, minute, second), ← offset? rest)

/-- What stands between a date and a time: a letter, or blanks. -/
def separated? (cs : List Char) : Option (List Char) :=
  match cs with
  | [] => none
  | c :: rest =>
    if c = 'T' ∨ c = 't' then some rest
    else if isBlank c then some (rest.dropWhile isBlank)
    else none

/-- A date and maybe a time.  A date alone has two digits for month and day if it
    is `strict`. -/
def read? (strict : Bool) (cs : List Char) : Option Timestamp := do
  let (year, rest) ← exactly? 4 cs
  let (month, monthDigits, rest) ← digits? 2 (← after? '-' rest)
  let (day, dayDigits, rest) ← digits? 2 (← after? '-' rest)
  if rest.isEmpty then
    if strict ∧ (monthDigits ≠ 2 ∨ dayDigits ≠ 2) then none
    else some ⟨year, month, day, none, 0⟩
  else
    let (time, offset) ← time? (← separated? rest)
    some ⟨year, month, day, some time, offset⟩

/-- A year with a leap day. -/
def isLeap (year : Nat) : Bool := year % 4 == 0 && (year % 100 != 0 || year % 400 == 0)

/-- The days of a month. -/
def daysIn (year month : Nat) : Nat :=
  if month = 2 then (if isLeap year then 29 else 28)
  else if month = 4 ∨ month = 6 ∨ month = 9 ∨ month = 11 then 30
  else 31

/-- What does not exist of a date and time; the offset is looked at first. -/
def problem? (t : Timestamp) : Option TimeProblem :=
  if t.offset ≤ -86400 ∨ 86400 ≤ t.offset then some (.offset t.offset)
  else if t.year = 0 then some .year
  else if t.month = 0 ∨ 12 < t.month then some .month
  else if t.day = 0 ∨ daysIn t.year t.month < t.day then some .day
  else
    match t.time with
    | none => none
    | some (hour, minute, second) =>
      if 23 < hour then some .hour
      else if 59 < minute then some .minute
      else if 59 < second then some .second
      else none

end Timestamp

end Likeness.Yaml
