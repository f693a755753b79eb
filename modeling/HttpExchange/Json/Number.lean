import HttpExchange.Json.Basic
import HttpExchange.Numeral.Binary

/-!
# Numbers inside JSON values

A number is its numeral. What arithmetic needs is read off the numeral on
demand: the integer it spells, if it spells one of 64 bits, or its value in
double precision.
-/

namespace HttpExchange.Json

/-- Whether a numeral has a point or an exponent, and so spells no integer. -/
def isFractional (numeral : Text) : Bool :=
  numeral.any fun c => c == '.' || c == 'e' || c == 'E'

/-- Whether a numeral is finite in double precision. -/
def isFinite (numeral : Text) : Bool :=
  match Numeral.Decimal.read? numeral with
  | some d => (Numeral.double.round d).isSome
  | none => false

/-- Whether double precision or 64 bits can hold a numeral, so that it may stay a number. -/
def isPortable (numeral : Text) : Bool :=
  (Numeral.readInt64? numeral).isSome || (isFractional numeral && isFinite numeral)

mutual

/-- The value in which every number that is not portable has become a string with its digits. -/
def portable : Json → Json
  | .num numeral => if isPortable numeral then .num numeral else .str numeral
  | .arr items => .arr (portableItems items)
  | .obj members => .obj (portableMembers members)
  | v => v

/-- `portable` at every item. -/
def portableItems : List Json → List Json
  | [] => []
  | v :: rest => portable v :: portableItems rest

/-- `portable` at every member. -/
def portableMembers : List (Text × Json) → List (Text × Json)
  | [] => []
  | (k, v) :: rest => (k, portable v) :: portableMembers rest

end

/-- The integer of a numeral: the one it spells, else its integer part in double precision. -/
def integerOfNumeral? (numeral : Text) : Option Int :=
  match Numeral.readInt64? numeral with
  | some i => some i
  | none => (Numeral.Decimal.read? numeral).bind Numeral.truncate64

/-- Whether a finite numeral is other than zero in double precision. -/
def nonzeroOfNumeral? (numeral : Text) : Option Bool :=
  ((Numeral.Decimal.read? numeral).bind Numeral.double.round).map (·.coefficient != 0)

/-- The 64-bit integer that a value spells. -/
def asInt64? : Json → Option Int
  | .num numeral => Numeral.readInt64? numeral
  | _ => none

end HttpExchange.Json
