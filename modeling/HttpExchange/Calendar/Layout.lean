import HttpExchange.Calendar.Timestamp
import HttpExchange.Text.Blank

/-!
# Layouts of dates

A layout is a sequence of fields and marks. Blanks before a field do not count,
and a blank of the layout stands for any number of blanks. A field may have
fewer digits than its width, and a year may have a sign.

## Main definitions

- `Layout.read?`: reads a text by a layout.
- `Moment.read?`: reads a text by the layouts in use.
-/

namespace HttpExchange

/-- An element of a layout. -/
inductive Layout.Item where
  | year | month | day | hour | minute | second
  /-- Any number of blanks. -/
  | blank
  /-- A character that stands for itself. -/
  | mark (c : Char)
  deriving DecidableEq, Repr

/-- A layout. -/
abbrev Layout := List Layout.Item

namespace Layout

/-- `2024-02-29`. -/
def yearMonthDay : Layout := [.year, .mark '-', .month, .mark '-', .day]

/-- `29/02/2024`. -/
def dayMonthYear : Layout := [.day, .mark '/', .month, .mark '/', .year]

/-- `2024/02/29`. -/
def slashed : Layout := [.year, .mark '/', .month, .mark '/', .day]

/-- `12:30`. -/
def hourMinute : Layout := [.hour, .mark ':', .minute]

/-- `12:30:59`. -/
def hourMinuteSecond : Layout := hourMinute ++ [.mark ':', .second]

/-- A number of one to `width` digits, and what follows it. -/
def readNumber? (width : Nat) (t : Text) : Option (Nat × Text) :=
  let digits := (t.take width).takeWhile Char.isDigit
  if digits.isEmpty then none else some (Numeral.value digits, t.drop digits.length)

/-- A year: up to four digits, or any number of digits after a sign. -/
def readYear? (t : Text) : Option (Int × Text) :=
  match t with
  | '-' :: rest => (readNumber? rest.length rest).map fun (n, rest) => (-(n : Int), rest)
  | '+' :: rest => (readNumber? rest.length rest).map fun (n, rest) => ((n : Int), rest)
  | _ => (readNumber? 4 t).map fun (n, rest) => ((n : Int), rest)

/-- Takes one element off a text and notes what it says. -/
def step? (p : DateTime) (t : Text) : Item → Option (DateTime × Text)
  | .year => (readYear? (Text.trimStart t)).map fun (n, rest) =>
    ({ p with date := { p.date with year := n } }, rest)
  | .month => (readNumber? 2 (Text.trimStart t)).map fun (n, rest) =>
    ({ p with date := { p.date with month := n } }, rest)
  | .day => (readNumber? 2 (Text.trimStart t)).map fun (n, rest) =>
    ({ p with date := { p.date with day := n } }, rest)
  | .hour => (readNumber? 2 (Text.trimStart t)).map fun (n, rest) => ({ p with hour := n }, rest)
  | .minute => (readNumber? 2 (Text.trimStart t)).map fun (n, rest) =>
    ({ p with minute := n }, rest)
  | .second => (readNumber? 2 (Text.trimStart t)).map fun (n, rest) =>
    ({ p with second := if n = 60 then 59 else n }, rest)
  | .blank => some (p, Text.trimStart t)
  | .mark c => (Timestamp.expect? c t).map fun rest => (p, rest)

/-- The point in time that a text denotes in a layout. What the layout does not say is zero. -/
def read? (layout : Layout) (t : Text) : Option DateTime := do
  let (p, rest) ← layout.foldlM (fun (p, t) item => step? p t item) ((⟨⟨0, 0, 0⟩, 0, 0, 0⟩, t))
  if rest.isEmpty ∧ p.isValid then some p else none

end Layout

namespace Moment

/-- The layouts that are tried one after the other when a text is no timestamp. -/
def layouts : List Layout := [
  Layout.yearMonthDay ++ [.blank] ++ Layout.hourMinuteSecond,
  Layout.yearMonthDay ++ [.mark 'T'] ++ Layout.hourMinuteSecond,
  Layout.yearMonthDay ++ [.blank] ++ Layout.hourMinute,
  Layout.yearMonthDay, Layout.dayMonthYear, Layout.slashed]

/-- The seconds since the beginning of 1970 that a text denotes: a timestamp, a date in one of the
layouts, or a year and a month. -/
def read? (t : Text) : Option Int :=
  let t := Text.trim t
  (Timestamp.read? t) <|>
    (layouts.findSome? (Layout.read? · t) <|>
      Layout.read? Layout.yearMonthDay (t ++ "-01".toList)).map DateTime.seconds

end Moment

end HttpExchange
