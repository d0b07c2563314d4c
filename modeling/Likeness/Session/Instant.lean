import Likeness.Decimal.Layout

/-!
# Points in time

The time of a run is written into its summary and into the name of its folder.
-/

namespace Likeness

/-- A point in time, in universal time. -/
structure Instant where
  year : Nat
  month : Nat
  day : Nat
  hour : Nat
  minute : Nat
  second : Nat
  microsecond : Nat
  deriving Repr, DecidableEq

namespace Instant

/-- A number with a least count of digits. -/
def padded (width n : Nat) : String :=
  String.ofList (Decimal.padLeft width '0' (Decimal.digitsOf n))

/-- Date and time with the offset from universal time; a fraction of a second is
    written unless it is zero. -/
def iso (t : Instant) : String :=
  padded 4 t.year ++ "-" ++ padded 2 t.month ++ "-" ++ padded 2 t.day ++ "T"
    ++ padded 2 t.hour ++ ":" ++ padded 2 t.minute ++ ":" ++ padded 2 t.second
    ++ (if t.microsecond = 0 then "" else "." ++ padded 6 t.microsecond) ++ "+00:00"

/-- Date and time in digits, for names of folders. -/
def stamp (t : Instant) : String :=
  padded 4 t.year ++ padded 2 t.month ++ padded 2 t.day ++ "_"
    ++ padded 2 t.hour ++ padded 2 t.minute ++ padded 2 t.second

/-- The year, month and day of a count of days since the first of January 1970.
    Years are counted from March, so that a leap day ends its year; 400 such years
    have 146097 days. -/
def civil (days : Nat) : Nat × Nat × Nat :=
  let shifted := days + 719468
  let era := shifted / 146097
  let dayOfEra := shifted % 146097
  let yearOfEra := (dayOfEra - dayOfEra / 1460 + dayOfEra / 36524 - dayOfEra / 146096) / 365
  let dayOfYear := dayOfEra - (365 * yearOfEra + yearOfEra / 4 - yearOfEra / 100)
  let shiftedMonth := (5 * dayOfYear + 2) / 153
  let day := dayOfYear - (153 * shiftedMonth + 2) / 5 + 1
  let month := if shiftedMonth < 10 then shiftedMonth + 3 else shiftedMonth - 9
  let year := yearOfEra + era * 400 + (if month ≤ 2 then 1 else 0)
  (year, month, day)

/-- The point in time some seconds and microseconds after the start of 1970. -/
def ofUnix (seconds microsecond : Nat) : Instant :=
  let (year, month, day) := civil (seconds / 86400)
  let rest := seconds % 86400
  ⟨year, month, day, rest / 3600, rest / 60 % 60, rest % 60, microsecond⟩

end Instant

end Likeness
