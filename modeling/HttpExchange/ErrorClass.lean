import HttpExchange.Numeral.Integer

/-!
# Error classes

The classes into which failures fall, each with a name, a number and the status
code of the response that reports it.
-/

namespace HttpExchange

/-- A class of failures. -/
inductive ErrorClass where
  | unknown | missingParam | invalidParam | sql | unknownObject | notAllowed | lockedObject
  | conflictObject | invalidUser | unknownService | invalidConfig
  deriving DecidableEq, Repr

namespace ErrorClass

/-- All classes. -/
def all : List ErrorClass :=
  [.unknown, .missingParam, .invalidParam, .sql, .unknownObject, .notAllowed, .lockedObject,
    .conflictObject, .invalidUser, .unknownService, .invalidConfig]

/-- The number of a class. -/
def code : ErrorClass → Int
  | .unknown => -1
  | .missingParam => -2
  | .invalidParam => -4
  | .sql => -8
  | .unknownObject => -16
  | .notAllowed => -32
  | .lockedObject => -64
  | .conflictObject => -128
  | .invalidUser => -256
  | .unknownService => -512
  | .invalidConfig => -1024

/-- The name of a class. -/
def name : ErrorClass → Text
  | .unknown => "UNKNOWN_ERROR"
  | .missingParam => "MISSING_PARAM"
  | .invalidParam => "INVALID_PARAM"
  | .sql => "SQL_ERROR"
  | .unknownObject => "UNKNOWN_OBJECT"
  | .notAllowed => "NOT_ALLOWED"
  | .lockedObject => "LOCKED_OBJECT"
  | .conflictObject => "CONFLICT_OBJECT"
  | .invalidUser => "INVALID_USER"
  | .unknownService => "UNKNOWN_SERVICE"
  | .invalidConfig => "INVALID_CONFIG"

/-- The status code of a response that reports a failure of a class. -/
def statusCode : ErrorClass → UInt16
  | .missingParam | .invalidParam => 400
  | .unknownObject => 404
  | .notAllowed => 403
  | .conflictObject => 409
  | _ => 500

/-- A class with its number. -/
def text (c : ErrorClass) : Text := c.name ++ " (".toList ++ Numeral.ofInt c.code ++ [')']

end ErrorClass

end HttpExchange
