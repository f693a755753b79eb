import HttpExchange.Text.Basic

/-!
# Punycode

A way to write any text with letters, digits and hyphens. The ASCII characters
come first, and a hyphen ends them. The others follow in ascending order, each
as a number that says how far to count on, through the places where it could be
inserted and the characters that could be inserted there. The number of digits
adapts itself to the distances.

The reader takes one digit at a time, so it is a recursion on the text.
-/

namespace HttpExchange.Host.Punycode

/-- The value of a digit. -/
def digit? (c : Char) : Option Nat :=
  if c.isAlpha then some (c.toLower.toNat - 'a'.toNat)
  else if c.isDigit then some (c.toNat - '0'.toNat + 26)
  else none

/-- The least value of a digit that is followed by another one. -/
def threshold (place bias : Nat) : Nat := min 26 (max 1 (place - bias))

/-- Divides by 35 until a distance is small, and gives the quotient and how often that took,
36 times. -/
def shrink (distance : Nat) : Nat × Nat :=
  if 455 < distance then
    let (quotient, places) := shrink (distance / 35)
    (quotient, places + 36)
  else (distance, 0)
termination_by distance
decreasing_by omega

/-- The bias after a distance, which leads to a text of `length` characters. -/
def adapt (distance length : Nat) (isFirst : Bool) : Nat :=
  let damped := if isFirst then distance / 700 else distance / 2
  let (quotient, places) := shrink (damped + damped / length)
  places + 36 * quotient / (quotient + 38)

/-- What the reader knows between two digits. -/
structure Reader where
  /-- The text so far. -/
  text : Text
  /-- The last character that was inserted, as a number. -/
  code : Nat := 128
  /-- Where the count stands, and where it stood before the number that is being read. -/
  index : Nat := 0
  start : Nat := 0
  weight : Nat := 1
  /-- The place of the digit, 36 times. -/
  place : Nat := 36
  bias : Nat := 72
  deriving Repr

namespace Reader

/-- Inserts the character to which a number leads. -/
def insert (index : Nat) (r : Reader) : Option Reader :=
  let length := r.text.length + 1
  let code := r.code + index / length
  let position := index % length
  if code.isValidChar then some {
    text := r.text.insertIdx position (Char.ofNat code)
    code
    index := position + 1
    start := position + 1
    bias := adapt (index - r.start) length (r.start == 0) }
  else none

/-- Takes a digit. Numbers stay within 32 bits. -/
def step (r : Reader) (c : Char) : Option Reader := do
  let digit ← digit? c
  let index := r.index + digit * r.weight
  let least := threshold r.place r.bias
  let weight := r.weight * (36 - least)
  if 0x100000000 ≤ index then none
  else if digit < least then r.insert index
  else if 0x100000000 ≤ weight then none
  else some { r with index, weight, place := r.place + 36 }

/-- The text that has been read, unless a number has not come to its end. -/
def finish (r : Reader) : Option Text := if r.place = 36 then some r.text else none

end Reader

/-- The ASCII characters, and the digits of the others. A hyphen that nothing precedes ends no
characters. -/
def split (t : Text) : Text × Text :=
  match Text.splitLast '-' t with
  | some (c :: plain, digits) => (c :: plain, digits)
  | _ => ([], t)

/-- The text that is written. -/
def decode? (t : Text) : Option Text :=
  let (plain, digits) := split t
  (digits.foldlM Reader.step { text := plain }).bind Reader.finish

end HttpExchange.Host.Punycode
