/-!
# Instants

An instant is written as a date and a time of day in the Gregorian calendar and Coordinated
Universal Time. Its fraction of a second has as many digits as are needed, in groups of three.
-/

namespace LayeredFlags.Text

/-- A point in time, counted from the start of the year 1970. -/
structure Instant where
  /-- The seconds since then. -/
  seconds : Nat
  /-- The nanoseconds since that second. -/
  nanoseconds : Nat
deriving DecidableEq, Repr

namespace Instant

/-- A number with zeros before it, up to a width. -/
def padded (width number : Nat) : String :=
  let digits := toString number
  String.ofList (List.replicate (width - digits.length) '0') ++ digits

/-- The days from the first of March of the year zero to the first of January 1970. -/
def epochDays : Nat := 719468

/-- The days of 400 years. The calendar repeats after them. -/
def cycleDays : Nat := 146097

/-- The year, the month and the day of a day counted from the start of the year 1970. Years
are taken to begin in March, so that the leap day is the last of its year. -/
def date (days : Nat) : Nat × Nat × Nat :=
  let day := days + epochDays
  let inCycle := day % cycleDays
  let year := (inCycle - inCycle / 1460 + inCycle / 36524 - inCycle / 146096) / 365
  let inYear := inCycle - (365 * year + year / 4 - year / 100)
  let month := (5 * inYear + 2) / 153
  let shifted := if month < 10 then month + 3 else month - 9
  let since := year + 400 * (day / cycleDays)
  (if shifted ≤ 2 then since + 1 else since, shifted, inYear - (153 * month + 2) / 5 + 1)

/-- The digits of a fraction of a second. -/
def fraction (nanoseconds : Nat) : String :=
  if nanoseconds = 0 then ""
  else if nanoseconds % 1000000 = 0 then "." ++ padded 3 (nanoseconds / 1000000)
  else if nanoseconds % 1000 = 0 then "." ++ padded 6 (nanoseconds / 1000)
  else "." ++ padded 9 nanoseconds

/-- The text of an instant. -/
def toText (instant : Instant) : String :=
  let (year, month, day) := date (instant.seconds / 86400)
  let second := instant.seconds % 86400
  s!"{padded 4 year}-{padded 2 month}-{padded 2 day}T" ++
    s!"{padded 2 (second / 3600)}:{padded 2 (second / 60 % 60)}:{padded 2 (second % 60)}" ++
    fraction instant.nanoseconds ++ "Z"

end Instant

end LayeredFlags.Text
