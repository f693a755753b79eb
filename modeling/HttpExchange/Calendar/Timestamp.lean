import HttpExchange.Calendar.Date
import HttpExchange.Numeral.Integer

/-!
# Timestamps

The text of a point in time: a date, a `T`, a time of day, and the distance from
universal time. What is written is always in universal time; what is read may be
at any distance.

## Main definitions

- `Timestamp.text`: the text of a point in time.
- `Timestamp.read?`: the seconds since the beginning of 1970 that a text denotes.
-/

namespace HttpExchange.Timestamp

/-! ## Writing -/

/-- The text of a year: four digits, with a sign outside of the years 0 to 9999. -/
def yearText (year : Int) : Text :=
  if 0 ≤ year ∧ year ≤ 9999 then Numeral.padded 4 year.toNat
  else (if year < 0 then '-' else '+') :: Numeral.padded 4 year.natAbs

/-- The text of a point in time in universal time. -/
def text (t : DateTime) : Text :=
  yearText t.date.year ++ '-' :: Numeral.padded 2 t.date.month ++ '-' :: Numeral.padded 2 t.date.day
    ++ 'T' :: Numeral.padded 2 t.hour ++ ':' :: Numeral.padded 2 t.minute
    ++ ':' :: Numeral.padded 2 t.second ++ "+00:00".toList

/-! ## Reading -/

/-- A number of exactly `width` digits, and what follows it. -/
def readFixed? (width : Nat) (t : Text) : Option (Nat × Text) :=
  let digits := t.take width
  if digits.length = width ∧ digits.all Char.isDigit then some (Numeral.value digits, t.drop width)
  else none

/-- What follows a character. -/
def expect? (c : Char) : Text → Option Text
  | [] => none
  | d :: rest => if d = c then some rest else none

/-- The date that a text begins with, and what follows it. -/
def readDate? (t : Text) : Option (Date × Text) := do
  let (year, t) ← readFixed? 4 t
  let t ← expect? '-' t
  let (month, t) ← readFixed? 2 t
  let t ← expect? '-' t
  let (day, t) ← readFixed? 2 t
  let date ← Date.ofParts? year month day
  some (date, t)

/-- The time of day that a text begins with, in seconds, and what follows it. A leap second counts
as the second before it. -/
def readTime? (t : Text) : Option (Nat × Text) := do
  let (hour, t) ← readFixed? 2 t
  let t ← expect? ':' t
  let (minute, t) ← readFixed? 2 t
  let t ← expect? ':' t
  let (second, t) ← readFixed? 2 t
  if hour < 24 ∧ minute < 60 ∧ second ≤ 60 then
    some (hour * 3600 + minute * 60 + min second 59, t)
  else none

/-- What follows a fraction of a second, if there is one. It does not count. -/
def skipFraction? : Text → Option Text
  | '.' :: c :: rest => if c.isDigit then some (rest.dropWhile Char.isDigit) else none
  | ['.'] => none
  | t => some t

/-- The distance from universal time in seconds, which ends a text. -/
def readOffset? : Text → Option Int
  | ['Z'] | ['z'] => some 0
  | sign :: t => do
    let east ← if sign = '+' then some true
      else if sign = '-' ∨ sign = '\u2212' then some false
      else none
    let (hours, t) ← readFixed? 2 t
    let t ← expect? ':' t
    let (minutes, t) ← readFixed? 2 t
    if t.isEmpty ∧ hours < 24 ∧ minutes < 60 then
      let offset : Int := hours * 3600 + minutes * 60
      some (if east then offset else -offset)
    else none
  | [] => none

/-- Whether a character may stand between date and time. -/
def separates (c : Char) : Bool := c == 'T' || c == 't' || c == ' '

/-- The seconds since the beginning of 1970 that a text denotes. -/
def read? (t : Text) : Option Int := do
  let (date, t) ← readDate? t
  let separator ← t.head?
  if !separates separator then none
  let (time, t) ← readTime? t.tail
  let t ← skipFraction? t
  let offset ← readOffset? t
  some (date.dayNumber * 86400 + time - offset)

end HttpExchange.Timestamp
