import HttpExchange.Numeral.Integer

/-!
# Decimal numbers

The numbers that a numeral with a point and an exponent denotes, exactly, and
the numerals that denote one: an optional sign, digits with at most one point
among them and at least one digit, and an optional exponent. Besides, the words
for infinity and for what is no number are read, in any case.
-/

namespace HttpExchange.Numeral

/-- The number `± coefficient · 10 ^ exponent`. -/
structure Decimal where
  negative : Bool
  coefficient : Nat
  exponent : Int
  deriving DecidableEq, Repr

/-- What a numeral can denote. -/
inductive Literal where
  | finite (d : Decimal)
  | infinite (negative : Bool)
  | notANumber
  deriving DecidableEq, Repr

/-- A sign, if there is one, and what follows it. -/
def splitSign : Text → Bool × Text
  | '-' :: rest => (true, rest)
  | '+' :: rest => (false, rest)
  | rest => (false, rest)

/-- The exponent that a text denotes: an optional sign and at least one digit. -/
def readExponent? (t : Text) : Option Int :=
  let (negative, digits) := splitSign t
  if isDigits digits then
    some (if negative then -(value digits : Int) else (value digits : Int))
  else none

/-- A numeral without a sign. -/
def readUnsigned? (negative : Bool) (t : Text) : Option Decimal :=
  let whole := t.takeWhile Char.isDigit
  let rest := t.dropWhile Char.isDigit
  let (fraction, rest) := match rest with
    | '.' :: rest => (rest.takeWhile Char.isDigit, rest.dropWhile Char.isDigit)
    | rest => ([], rest)
  let digits := whole ++ fraction
  if digits.isEmpty then none
  else
    let number (e : Int) : Decimal := ⟨negative, value digits, e - fraction.length⟩
    match rest with
    | [] => some (number 0)
    | 'e' :: exponent | 'E' :: exponent => (readExponent? exponent).map number
    | _ => none

/-- The number that a numeral denotes. -/
def Decimal.read? (t : Text) : Option Decimal :=
  let (negative, rest) := splitSign t
  readUnsigned? negative rest

/-- What a numeral denotes. -/
def Literal.read? (t : Text) : Option Literal :=
  let (negative, rest) := splitSign t
  let word := Text.lower rest
  if word = "inf" || word = "infinity" then some (.infinite negative)
  else if word = "nan" then some .notANumber
  else (readUnsigned? negative rest).map .finite

/-- The number of digits before the point when the coefficient is written out, counted from its
first digit that is not zero: the number lies below `10 ^ magnitude`, and not below a tenth of
it unless it is zero. -/
def Decimal.magnitude (d : Decimal) : Int := (ofNat d.coefficient).length + d.exponent

end HttpExchange.Numeral
