import HttpExchange.Calendar.Layout
import HttpExchange.ErrorClass
import HttpExchange.Json.Number
import HttpExchange.Json.Writer

/-!
# Adapters

An adapter converts the values of a field between the form they have outside, in
JSON or SQL, and the form in which they are stored. Null stays null in both
directions.

## Main definitions

- `Json.toInteger?`, `Json.toBoolean?`: what values count as integers and as
  truth values.
- `Adapter.adaptIn`, `Adapter.adaptOut`: the conversions.
-/

namespace HttpExchange

/-! ## Lenient readings -/

/-- The integer that a text denotes: one of 64 bits, or the integer part of a finite number. -/
def integerOfText? (t : Text) : Option Int := Json.integerOfNumeral? (Text.trim t)

/-- The integer that a value counts as. -/
def Json.toInteger? : Json → Option Int
  | .num numeral => Json.integerOfNumeral? numeral
  | .str t => integerOfText? t
  | _ => none

/-- The words that count as true. -/
def trueWords : List String := ["true", "1", "on", "yes"]

/-- The words that count as false. -/
def falseWords : List String := ["false", "0", "off", "no", ""]

/-- The truth value of a word. -/
def booleanOfText? (t : Text) : Option Bool :=
  let word := Text.lower (Text.trim t)
  if trueWords.any (·.toList == word) then some true
  else if falseWords.any (·.toList == word) then some false
  else none

/-- The truth value that a value counts as. -/
def Json.toBoolean? : Json → Option Bool
  | .bool b => some b
  | .num numeral => Json.nonzeroOfNumeral? numeral
  | .str t => booleanOfText? t
  | _ => none

/-! ## Conversions -/

/-- A kind of database. -/
inductive Dbms where
  | mysql | sqlite
  deriving DecidableEq, Repr

/-- The name of a kind of database. -/
def Dbms.name : Dbms → Text
  | .mysql => "MYSQL"
  | .sqlite => "SQLITE"

/-- A value that cannot be converted. -/
structure AdaptError where
  errorClass : ErrorClass
  message : Json
  deriving DecidableEq

/-- A conversion that fails with a code. -/
def AdaptError.invalid (code : Text) : AdaptError := ⟨.invalidParam, .str code⟩

/-- What is wrong, in words. -/
def AdaptError.text (e : AdaptError) : Text :=
  match e.message with
  | .str t => t
  | v => v.write

/-- A conversion of values. -/
inductive Adapter where
  /-- Leaves values as they are. -/
  | passthrough
  /-- A calendar year. -/
  | year
  /-- A point in time: outside a timestamp, inside a number of seconds. -/
  | dateTime
  /-- A truth value. -/
  | boolean
  /-- An integer. -/
  | integer
  /-- A truth value as a database column. -/
  | sqlBoolean (dbms : Dbms)
  deriving DecidableEq, Repr

namespace Adapter

/-- The name of an adapter. -/
def usage : Adapter → Text
  | .passthrough => "default"
  | .year => "json/date.year"
  | .dateTime => "json/datetime"
  | .boolean => "json/boolean"
  | .integer => "json/number.integer"
  | .sqlBoolean _ => "sql/boolean"

/-- The type of what is stored. -/
def castIn : Adapter → Text
  | .passthrough => ""
  | .year | .dateTime | .integer => "integer"
  | .boolean | .sqlBoolean _ => "boolean"

/-- The type of what is shown outside. -/
def castOut : Adapter → Text
  | .passthrough => ""
  | .year | .integer => "Number"
  | .dateTime => "string"
  | .boolean => "boolean"
  | .sqlBoolean .mysql => "TINYINT(4)"
  | .sqlBoolean .sqlite => "INTEGER"

/-- The result of a conversion, or a failure with a code. -/
def orInvalid (code : Text) : Option Json → Except AdaptError Json
  | some v => .ok v
  | none => .error (.invalid code)

/-- The year of a point in time. -/
def yearOf (seconds : Int) : Int := (DateTime.ofSeconds seconds).date.year

/-- The year that a value denotes: a number stands for itself, a date for its year. -/
def yearIn? (v : Json) : Option Json :=
  match v.toInteger?, v.asText? with
  | some n, _ => some (.ofInt n)
  | none, some t => (Moment.read? t).map fun seconds => .ofInt (yearOf seconds)
  | none, none => none

/-- Whether a number can be a year; otherwise it is taken for a number of seconds. -/
def isPlausibleYear (n : Int) : Bool := 1970 ≤ n && n ≤ 2100

/-- The year that a stored number shows. -/
def yearOut? (v : Json) : Option Json :=
  v.toInteger?.bind fun n =>
    if isPlausibleYear n then some (.ofInt n)
    else (DateTime.ofSeconds? n).map fun t => .ofInt t.date.year

/-- The number of seconds that a value denotes. -/
def dateTimeIn? : Json → Option Json
  | .num numeral => (Json.integerOfNumeral? numeral).map .ofInt
  | .str t => (Moment.read? t).map .ofInt
  | _ => none

/-- The timestamp that a stored number shows. -/
def dateTimeOut? (v : Json) : Option Json :=
  (v.toInteger?.bind DateTime.ofSeconds?).map fun t => .str (Timestamp.text t)

/-- The truth value of a database column. -/
def sqlBooleanIn? (v : Json) : Option Json :=
  match v.toInteger? with
  | some n => some (.bool (n != 0))
  | none => v.toBoolean?.map .bool

/-- The database column of a truth value. -/
def sqlBooleanOut? (v : Json) : Option Json := v.toBoolean?.map fun b => .ofNat b.toNat

/-- Converts a value that is not null for storing. -/
def convertIn (v : Json) : Adapter → Except AdaptError Json
  | .passthrough => .ok v
  | .year => orInvalid "invalid_date" (yearIn? v)
  | .dateTime => orInvalid "invalid_datetime" (dateTimeIn? v)
  | .boolean => orInvalid "invalid_boolean" (v.toBoolean?.map .bool)
  | .integer => orInvalid "invalid_integer" (v.toInteger?.map .ofInt)
  | .sqlBoolean _ => orInvalid "invalid_boolean" (sqlBooleanIn? v)

/-- Converts a stored value that is not null. -/
def convertOut (v : Json) : Adapter → Except AdaptError Json
  | .passthrough => .ok v
  | .year => orInvalid "invalid_year" (yearOut? v)
  | .dateTime => orInvalid "invalid_datetime" (dateTimeOut? v)
  | .boolean => orInvalid "invalid_boolean" (v.toBoolean?.map .bool)
  | .integer => orInvalid "invalid_integer" (v.toInteger?.map .ofInt)
  | .sqlBoolean _ => orInvalid "invalid_boolean" (sqlBooleanOut? v)

/-- Converts a value for storing. -/
def adaptIn (a : Adapter) (v : Json) : Except AdaptError Json :=
  if v.isNull then .ok v else convertIn v a

/-- Converts a stored value. -/
def adaptOut (a : Adapter) (v : Json) : Except AdaptError Json :=
  if v.isNull then .ok v else convertOut v a

end Adapter

/-! ## The registry -/

/-- The adapters that a kind of database has. -/
structure Registry where
  dbms : Dbms
  deriving DecidableEq, Repr

namespace Registry

/-- The adapters with names of their own. -/
def adapters (r : Registry) : List Adapter :=
  [.year, .dateTime, .boolean, .integer, .sqlBoolean r.dbms]

/-- The adapter of a tag, if there is one. -/
def find? (tag : Text) (r : Registry) : Option Adapter := r.adapters.find? (·.usage == tag)

/-- The adapter of a tag; a tag that is not known leaves values as they are. -/
def resolve (tag : Text) (r : Registry) : Adapter := (r.find? tag).getD .passthrough

/-- The adapter of a family of formats for a usage. -/
def resolveFor (family usage : Text) (r : Registry) : Adapter :=
  r.resolve (family ++ '/' :: usage)

end Registry

end HttpExchange
