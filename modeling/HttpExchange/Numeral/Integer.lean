import HttpExchange.Text.Basic

/-!
# Integers in decimal

How integers are written, and how they are read back within bounds. Writing uses
the fewest digits. Reading is lenient about leading zeros and a plus sign, and
strict about everything else: no blanks, no separators, no sign alone.
-/

namespace HttpExchange.Numeral

/-- The character of a digit below ten. -/
def digitChar (d : Nat) : Char := Char.ofNat ('0'.toNat + d)

/-- The value of a decimal digit. -/
def digitValue (c : Char) : Nat := c.toNat - '0'.toNat

/-- The decimal digits of a natural number, none of them superfluous. -/
def ofNat (n : Nat) : Text :=
  if n < 10 then [digitChar n] else ofNat (n / 10) ++ [digitChar (n % 10)]

/-- The decimal text of an integer; only negative ones carry a sign. -/
def ofInt (i : Int) : Text :=
  if i < 0 then '-' :: ofNat i.natAbs else ofNat i.natAbs

/-- The number that a run of digits denotes. -/
def value (digits : Text) : Nat := digits.foldl (fun n c => n * 10 + digitValue c) 0

/-- Whether a text consists of decimal digits and has at least one. -/
def isDigits (t : Text) : Bool := !t.isEmpty && t.all Char.isDigit

/-- A natural number of at most `bound`, possibly after a plus sign. -/
def readNat? (bound : Nat) (t : Text) : Option Nat :=
  let digits := match t with
    | '+' :: rest => rest
    | rest => rest
  if isDigits digits && value digits ≤ bound then some (value digits) else none

/-- The greatest integer of 64 bits with a sign. -/
def maxInt64 : Int := 0x7FFFFFFFFFFFFFFF

/-- The least integer of 64 bits with a sign. -/
def minInt64 : Int := -0x8000000000000000

/-- The greatest integer of 64 bits without a sign. -/
def maxNat64 : Nat := 0xFFFFFFFFFFFFFFFF

/-- A signed integer of 64 bits. -/
def readInt64? (t : Text) : Option Int :=
  match t with
  | '-' :: digits =>
    if isDigits digits && minInt64 ≤ -(value digits : Int) then some (-(value digits : Int))
    else none
  | _ => (readNat? maxInt64.toNat t).map Int.ofNat

/-- An unsigned integer of 64 bits. -/
def readNat64? (t : Text) : Option Nat := readNat? maxNat64 t

/-- An unsigned integer of 16 bits. -/
def readUInt16? (t : Text) : Option UInt16 := (readNat? 65535 t).map UInt16.ofNat

/-- The text of `n` with at least `width` digits, filled up with zeros. -/
def padded (width n : Nat) : Text :=
  List.replicate (width - (ofNat n).length) '0' ++ ofNat n

end HttpExchange.Numeral
