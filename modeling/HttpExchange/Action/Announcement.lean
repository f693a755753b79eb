import HttpExchange.Failure
import HttpExchange.Json.Reader
import HttpExchange.Message.Basic

/-!
# Parameters of actions

An action announces the parameters it takes. They are looked up in the body of a
request and brought into the kind that is announced; a parameter that is absent
has its default, unless it is required.

## Main definitions

- `ParamSpec.extract`: one parameter of a message.
- `announce`: all parameters of a message.
- `identifiers`: the numbers of objects that a value denotes.
-/

namespace HttpExchange

/-- A kind of parameters. -/
inductive ParamKind where
  | string | integer | boolean | array
  deriving DecidableEq, Repr

/-- A parameter that an action takes. -/
structure ParamSpec where
  name : Text
  kind : ParamKind
  required : Bool
  default : Json
  deriving DecidableEq

namespace ParamSpec

/-- A parameter that has to be there. -/
def needed (name : Text) (kind : ParamKind) : ParamSpec := ⟨name, kind, true, .null⟩

/-- A parameter that may be absent. -/
def optional (name : Text) (kind : ParamKind) (default : Json) : ParamSpec :=
  ⟨name, kind, false, default⟩

end ParamSpec

/-- A value as a string. -/
def Json.toStringParam? : Json → Option Json
  | .str t => some (.str t)
  | .num numeral => some (.str numeral)
  | .bool b => some (.str (if b then ['1'] else []))
  | _ => none

/-- A text as an array: what it says when it is JSON of a collection, else its parts between
commas. -/
def arrayOfText (t : Text) : Json :=
  let t := Text.trim t
  let parts := (Text.splitOn ',' t).map fun part => Json.str (Text.trim part)
  if t.isEmpty then .arr []
  else match Json.read? t with
    | some v => if v.isCollection then v else .arr parts
    | none => .arr parts

/-- A value as an array. -/
def Json.toArrayParam? : Json → Option Json
  | .str t => some (arrayOfText t)
  | .null => none
  | .num numeral => some (.arr [.num numeral])
  | .bool b => some (.arr [.bool b])
  | v => some v

/-- A value as one of a kind. -/
def ParamKind.coerce? (kind : ParamKind) (v : Json) : Option Json :=
  match kind with
  | .string => v.toStringParam?
  | .integer => v.toInteger?.map .ofInt
  | .boolean => v.toBoolean?.map .bool
  | .array => v.toArrayParam?

/-- The value of a parameter. -/
def ParamSpec.extract (p : ParamSpec) (m : Message) : Except Failure Json :=
  match m.param? p.name with
  | some v =>
    match p.kind.coerce? v with
    | some v => .ok v
    | none => .error (.invalidParam p.name)
  | none => if p.required then .error (.missingParam p.name) else .ok p.default

/-- The values of all parameters of an action. The first one that fails decides. -/
def announce (params : List ParamSpec) (m : Message) : Except Failure Members :=
  (params.mapM fun (p : ParamSpec) => (p.extract m).map fun v => (p.name, v)).map Assoc.ofList

/-- The values among which the numbers of objects are looked for. -/
def Json.toItems : Json → List Json
  | .arr items => items
  | .obj members => Assoc.values members
  | .null => []
  | v => [v]

/-- The number of an object that a value denotes. -/
def identifier (name : Text) (v : Json) : Except Failure Nat :=
  match v.toInteger? with
  | some n => if 0 < n then .ok n.toNat else .error (.invalidParam name)
  | none => .error (.invalidParam name)

/-- The numbers of objects that a value denotes. -/
def identifiers (name : Text) (v : Json) : Except Failure (List Nat) :=
  v.toItems.mapM (identifier name)

/-- The value of a parameter that has been extracted. -/
def paramOf (name : Text) (params : Members) : Json := (Assoc.get? name params).getD .null

end HttpExchange
