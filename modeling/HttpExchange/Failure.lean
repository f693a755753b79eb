import HttpExchange.Adapter.Basic
import HttpExchange.Store.Basic

/-!
# Failures

What can go wrong while a request is served, and how it is reported: with a
class, a status code, and a value that goes into the body of the response.
-/

namespace HttpExchange

/-- A failure. -/
inductive Failure where
  | missingParam (name : Text)
  | invalidParam (code : Text)
  | unknownObject (name : Text)
  | conflict (code : Text)
  | notAllowed (code : Text)
  /-- Failures of single fields. -/
  | fieldErrors (errorClass : ErrorClass) (errors : Members)
  | storage (e : StoreError)
  /-- The response could not be written. -/
  | io (text : Text)
  deriving DecidableEq

namespace Failure

/-- The failure of one field. -/
def ofField (field : Text) (e : AdaptError) : Failure :=
  .fieldErrors e.errorClass [(field, e.message)]

/-- The class of a failure. -/
def errorClass : Failure → ErrorClass
  | .missingParam _ => .missingParam
  | .invalidParam _ => .invalidParam
  | .unknownObject _ => .unknownObject
  | .conflict _ => .conflictObject
  | .notAllowed _ => .notAllowed
  | .fieldErrors c _ => c
  | .storage e => e.errorClass
  | .io _ => .unknown

/-- The status code of the response that reports a failure. -/
def statusCode (e : Failure) : UInt16 := e.errorClass.statusCode

/-- What is wrong, in words. -/
def message : Failure → Text
  | .missingParam t => "missing parameter: ".toList ++ t
  | .invalidParam t => "invalid parameter: ".toList ++ t
  | .unknownObject t => "unknown object: ".toList ++ t
  | .conflict t => "conflict: ".toList ++ t
  | .notAllowed t => "not allowed: ".toList ++ t
  | .fieldErrors c errors =>
    "field errors (".toList ++ c.name ++ "): ".toList ++ (Json.obj errors).write
  | .storage e => e.message
  | .io t => "I/O error: ".toList ++ t

/-- What is reported of a failure. -/
def payload : Failure → Json
  | .missingParam t | .invalidParam t | .unknownObject t | .conflict t | .notAllowed t | .io t =>
    .str t
  | .fieldErrors _ errors => .obj errors
  | .storage e => e.payload

/-- The body of the response that reports a failure. -/
def body (e : Failure) : Json := .obj [("errors", .obj [(e.errorClass.name, e.payload)])]

end Failure

end HttpExchange
