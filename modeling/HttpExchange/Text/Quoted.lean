import HttpExchange.Text.Unprintable

/-!
# Quoted text

A text between double quotes, for messages: quotes, backslashes and the usual
control characters have short escapes, and whatever would not show is written by
its number.
-/

namespace HttpExchange.Text

/-- The hexadecimal digits of a number, none of them superfluous. -/
def hexDigits (n : Nat) : Text :=
  let digit (d : Nat) : Char :=
    if d < 10 then Char.ofNat ('0'.toNat + d) else Char.ofNat ('a'.toNat + (d - 10))
  if n < 16 then [digit n] else hexDigits (n / 16) ++ [digit (n % 16)]

/-- Whether a character shows. -/
def isPrintable (c : Char) : Bool := ' ' ≤ c && !unprintable.covers c

/-- A character as it is written between quotes. -/
def quoteChar (c : Char) : Text :=
  match c with
  | '\x00' => ['\\', '0']
  | '\t' => ['\\', 't']
  | '\r' => ['\\', 'r']
  | '\n' => ['\\', 'n']
  | '"' => ['\\', '"']
  | '\\' => ['\\', '\\']
  | c => if isPrintable c then [c] else ['\\', 'u', '{'] ++ hexDigits c.toNat ++ ['}']

/-- A text between quotes. -/
def quoted (t : Text) : Text := '"' :: t.flatMap quoteChar ++ ['"']

end HttpExchange.Text
