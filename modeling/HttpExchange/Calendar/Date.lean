/-!
# Dates and times

Dates of the Gregorian calendar, extended to all years, and times of day in
universal time, with the count of days and of seconds since the beginning of
1970. Years are counted from March in the computations, so that the leap day is
the last day of a year.

## Main definitions

- `Date.dayNumber`, `Date.ofDayNumber`: dates and counts of days.
- `DateTime.seconds`, `DateTime.ofSeconds`: points in time and counts of seconds.
-/

namespace HttpExchange

/-- A date. -/
structure Date where
  year : Int
  month : Nat
  day : Nat
  deriving DecidableEq, Repr

namespace Date

/-- Whether a year has a leap day. -/
def isLeap (year : Int) : Bool := year % 4 == 0 && (year % 100 != 0 || year % 400 == 0)

/-- The number of days of a month. -/
def daysInMonth (year : Int) (month : Nat) : Nat :=
  if month = 2 then (if isLeap year then 29 else 28)
  else if month = 4 ∨ month = 6 ∨ month = 9 ∨ month = 11 then 30
  else 31

/-- The first and the last year that dates may have. -/
def minYear : Int := -262143

@[inherit_doc minYear] def maxYear : Int := 262142

/-- Whether a year is within the bounds. -/
def yearInBounds (year : Int) : Bool := minYear ≤ year && year ≤ maxYear

/-- Whether the parts of a date fit together. -/
def isValid (d : Date) : Bool :=
  yearInBounds d.year && 1 ≤ d.month && d.month ≤ 12 && 1 ≤ d.day &&
    d.day ≤ daysInMonth d.year d.month

/-- The date of the parts, if they fit together. -/
def ofParts? (year : Int) (month day : Nat) : Option Date :=
  let d : Date := ⟨year, month, day⟩
  if d.isValid then some d else none

/-- The days before a year that is counted from March, since the March of year zero. -/
def daysBeforeYear (year : Int) : Int := 365 * year + year / 4 - year / 100 + year / 400

/-- The days before a month, counted from March, in its year. -/
def daysBeforeMonth (month : Nat) : Nat := (153 * month + 2) / 5

/-- The days from the March of year zero to the beginning of 1970. -/
def epochDay : Int := 719468

/-- The number of days from the beginning of 1970 to a date. -/
def dayNumber (d : Date) : Int :=
  let year := if d.month ≤ 2 then d.year - 1 else d.year
  let month := if d.month ≤ 2 then d.month + 9 else d.month - 3
  daysBeforeYear year + daysBeforeMonth month + d.day - 1 - epochDay

/-- The year, counted from March, of a day since the March of year zero. -/
def yearOfDay (day : Int) : Int :=
  let cycle := day / 146097
  let rest := day % 146097
  400 * cycle + (rest - rest / 1460 + rest / 36524 - rest / 146096) / 365

/-- The date of a number of days since the beginning of 1970. -/
def ofDayNumber (n : Int) : Date :=
  let day := n + epochDay
  let year := yearOfDay day
  let dayOfYear := (day - daysBeforeYear year).toNat
  let month := (5 * dayOfYear + 2) / 153
  let dayOfMonth := dayOfYear - daysBeforeMonth month + 1
  if month < 10 then ⟨year, month + 3, dayOfMonth⟩ else ⟨year + 1, month - 9, dayOfMonth⟩

end Date

/-- A point in time, to the second. -/
structure DateTime where
  date : Date
  hour : Nat
  minute : Nat
  second : Nat
  deriving DecidableEq, Repr

namespace DateTime

/-- The beginning of a date. -/
def ofDate (d : Date) : DateTime := ⟨d, 0, 0, 0⟩

/-- Whether the parts of a point in time fit together. -/
def isValid (t : DateTime) : Bool :=
  t.date.isValid && t.hour < 24 && t.minute < 60 && t.second < 60

/-- The seconds since the beginning of 1970. -/
def seconds (t : DateTime) : Int :=
  t.date.dayNumber * 86400 + t.hour * 3600 + t.minute * 60 + t.second

/-- The point in time some seconds after the beginning of 1970. -/
def ofSeconds (s : Int) : DateTime :=
  let time := (s % 86400).toNat
  ⟨Date.ofDayNumber (s / 86400), time / 3600, time / 60 % 60, time % 60⟩

/-- The point in time some seconds after the beginning of 1970, if its year is within the
bounds. -/
def ofSeconds? (s : Int) : Option DateTime :=
  let t := ofSeconds s
  if Date.yearInBounds t.date.year then some t else none

end DateTime

end HttpExchange
