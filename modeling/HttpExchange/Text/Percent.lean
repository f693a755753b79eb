import HttpExchange.Text.Utf8

/-!
# Percent encoding

A byte can be written as a percent sign and two hexadecimal digits. A percent
sign that no two such digits follow stands for itself.
-/

namespace HttpExchange.Percent

/-- The percent sign. -/
def sign : UInt8 := 0x25

/-- The value of a byte that is a hexadecimal digit. -/
def hexValue? (b : UInt8) : Option UInt8 :=
  if 0x30 ≤ b ∧ b ≤ 0x39 then some (b - 0x30)
  else if 0x41 ≤ b ∧ b ≤ 0x46 then some (b - 0x41 + 10)
  else if 0x61 ≤ b ∧ b ≤ 0x66 then some (b - 0x61 + 10)
  else none

/-- The byte that two digits denote. -/
def byte? (high low : UInt8) : Option UInt8 := do
  let high ← hexValue? high
  let low ← hexValue? low
  pure (high * 16 + low)

/-- Replaces each escape by its byte. -/
def decode : List UInt8 → List UInt8
  | b :: high :: low :: rest =>
    if b = sign then
      match byte? high low with
      | some c => c :: decode rest
      | none => b :: decode (high :: low :: rest)
    else b :: decode (high :: low :: rest)
  | rest => rest

/-- A hexadecimal digit in upper case. -/
def hexDigit (n : Nat) : Char :=
  if n < 10 then Char.ofNat ('0'.toNat + n) else Char.ofNat ('A'.toNat + (n - 10))

/-- The escape of a byte. -/
def escape (b : UInt8) : Text := ['%', hexDigit (b.toNat / 16), hexDigit (b.toNat % 16)]

end HttpExchange.Percent
