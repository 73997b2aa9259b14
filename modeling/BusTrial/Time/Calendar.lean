import BusTrial.Time.Basic

/-!
# The calendar

`Civil.ofInstant?` turns a point in time into a date of the Gregorian calendar and a time of day,
both in Coordinated Universal Time.  Years are counted through zero, and the calendar ends with the
years `-262143` and `262142`: a point beyond them has no date.

What is printed for people is the local time of the machine.  The time zone of the machine is taken
to be UTC throughout, so local dates and times are those of `Civil`; no zone with an offset is
modelled.
-/

namespace BusTrial

/-- A date and a time of day. -/
structure Civil where
  year : Int
  month : Nat
  day : Nat
  hour : Nat
  minute : Nat
  second : Nat
  deriving DecidableEq, Repr

namespace Civil

/-- The first and the last year that have dates. -/
def firstYear : Int := -262143

/-- The last year that has dates. -/
def lastYear : Int := 262142

/-- The year, month and day of a count of days from the epoch.  Years are counted from the first of
March, so that the leap day ends a year, and in eras of 400 years, which have 146097 days. -/
def ofDays (days : Int) : Int × Nat × Nat :=
  let z := days + 719468
  let era := z / 146097
  let dayOfEra := (z % 146097).toNat
  let yearOfEra := (dayOfEra - dayOfEra / 1460 + dayOfEra / 36524 - dayOfEra / 146096) / 365
  let dayOfYear := dayOfEra - (365 * yearOfEra + yearOfEra / 4 - yearOfEra / 100)
  let shifted := (5 * dayOfYear + 2) / 153
  let day := dayOfYear - (153 * shifted + 2) / 5 + 1
  let month := if shifted < 10 then shifted + 3 else shifted - 9
  let year := yearOfEra + era * 400
  (if month ≤ 2 then year + 1 else year, month, day)

/-- The date and time of day of a point in time, unless it is beyond the calendar. -/
def ofInstant? (t : Instant) : Option Civil :=
  let seconds := t.nanos / 1000000000
  let (year, month, day) := ofDays (seconds / 86400)
  let secondOfDay := (seconds % 86400).toNat
  if firstYear ≤ year ∧ year ≤ lastYear then
    some { year, month, day, hour := secondOfDay / 3600, minute := secondOfDay % 3600 / 60,
           second := secondOfDay % 60 }
  else none

/-- A number with zeros before it up to a width. -/
def padded (width n : Nat) : String :=
  let digits := Decimal.digitChars n
  .ofList (Decimal.zeros (width - digits.length) ++ digits)

/-- The year in four digits, and with its sign where those do not suffice. -/
def yearText (year : Int) : String :=
  if 0 ≤ year ∧ year ≤ 9999 then padded 4 year.toNat
  else (if year < 0 then "-" else "+") ++ padded 4 year.natAbs

/-- The date, such as `1970-01-31`. -/
def dateText (c : Civil) : String :=
  yearText c.year ++ "-" ++ padded 2 c.month ++ "-" ++ padded 2 c.day

/-- The time of day, such as `23:59:00`. -/
def timeText (c : Civil) : String :=
  padded 2 c.hour ++ ":" ++ padded 2 c.minute ++ ":" ++ padded 2 c.second

end Civil

end BusTrial
