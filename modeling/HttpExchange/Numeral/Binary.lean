import HttpExchange.Numeral.Decimal

/-!
# Rounding to a binary format

A number `m · 2 ^ q` of a binary floating-point format is the pair `(m, q)`.
`Format.round` gives the one nearest to a decimal number, a tie going to the
even `m`, by exact integer arithmetic; what is too large has none. Powers are
written out as `Nat.pow`, which means the same in every module.

## Main definitions

- `Format.round`: the nearest number of a format.
- `truncate64`: the integer part of a decimal number read in double precision,
  clamped to 64 bits.
-/

namespace HttpExchange.Numeral

/-- A binary format: the number of bits of a coefficient, the least exponent of two, and the power
of two that all its numbers stay below. -/
structure Format where
  precision : Nat
  minExponent : Int
  limit : Nat

/-- Double precision. -/
def double : Format := ⟨53, -1074, 1024⟩

/-- Single precision. -/
def single : Format := ⟨24, -149, 128⟩

/-- The number `coefficient · 2 ^ exponent`. -/
structure Dyadic where
  coefficient : Nat
  exponent : Int
  deriving DecidableEq, Repr

/-- The integer nearest to `n / d`; of two, the even one. -/
def divRoundEven (n d : Nat) : Nat :=
  let q := n / d
  let r := n % d
  if 2 * r < d then q
  else if d < 2 * r then q + 1
  else if q % 2 = 0 then q else q + 1

/-- The exponent `e` with `2 ^ e ≤ n / d < 2 ^ (e + 1)`, for positive `n` and `d`. -/
def binaryExponent (n d : Nat) : Int :=
  let e : Int := (n.log2 : Int) - (d.log2 : Int)
  let reached := if 0 ≤ e then d * Nat.pow 2 e.toNat ≤ n else d ≤ n * Nat.pow 2 (-e).toNat
  if reached then e else e - 1

/-- The number of the format nearest to `n / d`, for positive `d`; `none` beyond its limit. A
coefficient that rounding has made one bit too long is even, so halving it loses nothing. -/
def Format.roundRatio (f : Format) (n d : Nat) : Option Dyadic :=
  if n = 0 then some ⟨0, f.minExponent⟩
  else
    let q := max (binaryExponent n d - (f.precision - 1)) f.minExponent
    let m := if 0 ≤ q then divRoundEven n (d * Nat.pow 2 q.toNat)
      else divRoundEven (n * Nat.pow 2 (-q).toNat) d
    if Nat.pow 2 f.limit ≤ m * Nat.pow 2 q.toNat then none
    else if m = Nat.pow 2 f.precision then some ⟨m / 2, q + 1⟩
    else some ⟨m, q⟩

/-- The number of the format nearest to the absolute value of a decimal number. Magnitudes far
outside every format are decided without computing the power of ten. -/
def Format.round (f : Format) (d : Decimal) : Option Dyadic :=
  if d.coefficient = 0 then some ⟨0, f.minExponent⟩
  else if 400 < d.magnitude then none
  else if d.magnitude < -400 then some ⟨0, f.minExponent⟩
  else if 0 ≤ d.exponent then f.roundRatio (d.coefficient * Nat.pow 10 d.exponent.toNat) 1
  else f.roundRatio d.coefficient (Nat.pow 10 (-d.exponent).toNat)

/-- The integer part of a number of a format. -/
def Dyadic.floor (x : Dyadic) : Nat :=
  if 0 ≤ x.exponent then x.coefficient * Nat.pow 2 x.exponent.toNat
  else x.coefficient / Nat.pow 2 (-x.exponent).toNat

/-- Brings an integer into the range of 64 bits. -/
def clamp64 (i : Int) : Int := max minInt64 (min maxInt64 i)

/-- The integer part of a decimal number in double precision, clamped to 64 bits; `none` when the
number is beyond double precision. -/
def truncate64 (d : Decimal) : Option Int :=
  (double.round d).map fun x => clamp64 (if d.negative then -(x.floor : Int) else x.floor)

end HttpExchange.Numeral
