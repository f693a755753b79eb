import HttpExchange.Numeral.Integer

/-!
# IPv4 addresses

An address has up to four numbers with dots between them. Each number may be
written in decimal, in octal after a zero or in hexadecimal after `0x`. Every
number but the last fills one byte, and the last one fills all bytes that are
left. A dot at the end does not count.
-/

namespace HttpExchange.Host.Ipv4

/-- The value of a digit in a base of at most 16. -/
def digit? (base : Nat) (c : Char) : Option Nat :=
  let value := if c.isDigit then c.toNat - '0'.toNat
    else if 'a' ≤ c ∧ c ≤ 'f' then c.toNat - 'a'.toNat + 10
    else if 'A' ≤ c ∧ c ≤ 'F' then c.toNat - 'A'.toNat + 10
    else base
  if value < base then some value else none

/-- The number that digits denote. -/
def numberIn? (base : Nat) (t : Text) : Option Nat :=
  t.foldlM (fun n c => (digit? base c).map (n * base + ·)) 0

/-- The number that a part of an address denotes. -/
def number? : Text → Option Nat
  | [] => none
  | '0' :: 'x' :: t => numberIn? 16 t
  | '0' :: c :: t => numberIn? 8 (c :: t)
  | t => numberIn? 10 t

/-- The parts between the dots. -/
def parts (t : Text) : List Text :=
  let all := Text.splitOn '.' t
  if all.getLast? = some [] then all.dropLast else all

/-- Whether the last part of a name is a number, so that the name has to be an address. -/
def endsInNumber (t : Text) : Bool :=
  (parts t).getLast?.any fun last => Numeral.isDigits last || (number? last).isSome

/-- Whether some numbers fill a number of bytes. -/
def fill : (bytes : Nat) → List Nat → Bool
  | _, [] | 0, _ => false
  | bytes, [n] => n < 256 ^ bytes
  | bytes + 1, n :: rest => n < 256 && fill bytes rest

/-- Whether a text is an address. -/
def isAddress (t : Text) : Bool := ((parts t).mapM number?).any (fill 4)

end HttpExchange.Host.Ipv4
