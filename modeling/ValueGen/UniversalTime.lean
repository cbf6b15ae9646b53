/-
This file writes a point in universal time, counted in nanoseconds from the start of the year 1970,
as a date and a time with its offset. Decimals of the second are written in groups of three, as
many as are needed.
-/

namespace ValueGen.UniversalTime

/-- A date. -/
structure Date where
  year : Nat
  month : Nat
  day : Nat
  deriving DecidableEq, Repr

/-- The date so many days after the first of January 1970. Years are counted from the first of
March of the year zero, so that a leap day comes last, and in periods of 400 years, which are all
equally long. -/
def dateOfDays (days : Nat) : Date :=
  let days := days + 719468
  let inPeriod := days % 146097
  let yearInPeriod :=
    (inPeriod - inPeriod / 1460 + inPeriod / 36524 - inPeriod / 146096) / 365
  let dayInYear := inPeriod - (365 * yearInPeriod + yearInPeriod / 4 - yearInPeriod / 100)
  let monthInYear := (5 * dayInYear + 2) / 153
  let day := dayInYear - (153 * monthInYear + 2) / 5 + 1
  let month := if monthInYear < 10 then monthInYear + 3 else monthInYear - 9
  let year := 400 * (days / 146097) + yearInPeriod
  ⟨if month ≤ 2 then year + 1 else year, month, day⟩

/-- A number with at least so many digits. -/
def padded (digits number : Nat) : String :=
  let text := toString number
  "".pushn '0' (digits - text.length) ++ text

/-- The decimals of a second, which are so many nanoseconds. -/
def decimals (nanoseconds : Nat) : String :=
  if nanoseconds = 0 then ""
  else if nanoseconds % 1000000 = 0 then "." ++ padded 3 (nanoseconds / 1000000)
  else if nanoseconds % 1000 = 0 then "." ++ padded 6 (nanoseconds / 1000)
  else "." ++ padded 9 nanoseconds

/-- Writes the point in time. -/
def format (nanoseconds : Nat) : String :=
  let seconds := nanoseconds / 1000000000
  let date := dateOfDays (seconds / 86400)
  padded 4 date.year ++ "-" ++ padded 2 date.month ++ "-" ++ padded 2 date.day ++ "T" ++
    padded 2 (seconds / 3600 % 24) ++ ":" ++ padded 2 (seconds / 60 % 60) ++ ":" ++
    padded 2 (seconds % 60) ++ decimals (nanoseconds % 1000000000) ++ "+00:00"

end ValueGen.UniversalTime
