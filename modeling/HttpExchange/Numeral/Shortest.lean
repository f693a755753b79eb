import HttpExchange.Numeral.Binary

/-!
# Shortest decimal text

A number of a binary format is written with the fewest digits that read back as
the same number; among numerals of that many digits, with the one nearest to it.
The text is positional: it has no exponent, and a point only before a fraction.

For each count of digits the two neighbours of the number on that decimal grid
are tried, and the first count with a neighbour that reads back wins.
-/

namespace HttpExchange.Numeral

/-- `n · 10 ^ e / d` as a ratio of natural numbers. -/
def scaleRatio (n d : Nat) (e : Int) : Nat × Nat :=
  if 0 ≤ e then (n * Nat.pow 10 e.toNat, d) else (n, d * Nat.pow 10 (-e).toNat)

/-- The ratio that a number denotes. -/
def Dyadic.ratio (x : Dyadic) : Nat × Nat :=
  if 0 ≤ x.exponent then (x.coefficient * Nat.pow 2 x.exponent.toNat, 1)
  else (x.coefficient, Nat.pow 2 (-x.exponent).toNat)

/-- The neighbour of `x` on the grid of multiples of `10 ^ e` that reads back as `x`; of two, the
nearer one, and the greater one of two at the same distance. -/
def gridPoint? (f : Format) (x : Dyadic) (e : Int) : Option Decimal :=
  let (n, d) := x.ratio
  let (n, d) := scaleRatio n d (-e)
  let below : Decimal := ⟨false, n / d, e⟩
  let above : Decimal := ⟨false, n / d + 1, e⟩
  let ok (c : Decimal) : Bool := f.round c == some x
  if ok below then
    if ok above && d ≤ 2 * (n % d) then some above else some below
  else if ok above then some above
  else none

/-- The shortest decimal number that reads back as `x`, looked for on ever finer grids. -/
def shortest (f : Format) (x : Dyadic) : (grids : Nat) → (e : Int) → Decimal
  | 0, e =>
    let (n, d) := scaleRatio x.ratio.1 x.ratio.2 (-e)
    ⟨false, n / d, e⟩
  | grids + 1, e =>
    match gridPoint? f x e with
    | some d => d
    | none => shortest f x grids (e - 1)

/-- The text of a decimal number without an exponent. -/
def Decimal.positional (d : Decimal) : Text :=
  let digits := ofNat d.coefficient
  if 0 ≤ d.exponent then
    if d.coefficient = 0 then "0" else digits ++ List.replicate d.exponent.toNat '0'
  else
    let places := (-d.exponent).toNat
    let digits := List.replicate (places + 1 - digits.length) '0' ++ digits
    let whole := digits.take (digits.length - places)
    let fraction := Text.dropEndWhile (· == '0') (digits.drop (digits.length - places))
    if fraction.isEmpty then whole else whole ++ '.' :: fraction

/-- The text of a number of single precision. Nine digits always suffice. -/
def Dyadic.singleText (x : Dyadic) : Text :=
  if x.coefficient = 0 then "0"
  else
    let (n, d) := x.ratio
    let top : Int := (ofNat (n / d)).length
    -- the first grid has at most one significant digit, however small the number is
    let first : Int := if n / d = 0 then 0 - ((ofNat (d / n)).length : Int) + 1 else top
    (shortest single x 12 first).positional

/-- The text of what a numeral denotes in single precision. -/
def Literal.singleText (l : Literal) : Text :=
  let sign (negative : Bool) (t : Text) : Text := if negative then '-' :: t else t
  match l with
  | .notANumber => "NaN"
  | .infinite negative => sign negative "inf"
  | .finite d =>
    match single.round d with
    | none => sign d.negative "inf"
    | some x => sign d.negative x.singleText

end HttpExchange.Numeral
