import HttpExchange.Numeral.Integer

/-!
# IPv6 addresses

An address has eight pieces of up to four hexadecimal digits, with colons
between them. Two colons stand once for one or more pieces that are zero. The
last two pieces may be written as an address of four decimal bytes.
-/

namespace HttpExchange.Host.Ipv6

/-- Whether a character is a hexadecimal digit. -/
def isHexDigit (c : Char) : Bool :=
  c.isDigit || ('a' ≤ c && c ≤ 'f') || ('A' ≤ c && c ≤ 'F')

/-- Whether a text is a byte in decimal, without a superfluous zero. -/
def isByte (t : Text) : Bool :=
  Numeral.isDigits t && (t.length == 1 || t.head? != some '0') && Numeral.value t ≤ 255

/-- Whether a text is an address of four decimal bytes. -/
def isDotted (t : Text) : Bool :=
  let bytes := Text.splitOn '.' t
  bytes.length == 4 && bytes.all isByte

/-- Whether a text makes up the pieces of an address for which there is room. -/
def isPieces : (room : Nat) → (compressed : Bool) → Text → Bool
  | room, compressed, [] => compressed || room == 0
  | 0, _, _ => false
  | room + 1, compressed, ':' :: rest => !compressed && isPieces room true rest
  | room + 1, compressed, t =>
    let digits := (t.take 4).takeWhile isHexDigit
    !digits.isEmpty && match t.drop digits.length with
      | [] => compressed || room == 0
      | ':' :: rest => !rest.isEmpty && isPieces room compressed rest
      | '.' :: _ => (room == 1 || (compressed && 1 ≤ room)) && isDotted t
      | _ => false

/-- Whether a text is an address. -/
def isAddress : Text → Bool
  | ':' :: ':' :: rest => isPieces 7 true rest
  | ':' :: _ => false
  | t => isPieces 8 false t

end HttpExchange.Host.Ipv6
