import HttpExchange.Action.Announcement
import HttpExchange.Action.Context
import HttpExchange.Store.Interface

/-!
# The update action

Writes fields to objects. A client that knows when it last saw an object sends
that stamp along, and is refused when the object has changed since. A change
that makes a draft of a single object that is none goes to a new object, so that
the live one stays as it is.

## Main definitions

- `UpdateParams.ofMessage`: the parameters of a request.
- `Update.apply`: the writes and their result.
- `Update.run`: the action, which answers with the result.
-/

namespace HttpExchange

/-- The parameters of an update. -/
structure UpdateParams where
  entity : Text
  id : Int
  ids : List Nat
  fields : Members
  force : Bool
  lang : Text
  deriving DecidableEq

namespace Update

/-- The name of the action. -/
def name : Text := "model_update"

/-- The parameters that the action announces. -/
def params (defaultLang : Text) : List ParamSpec := [
  .needed "entity" .string, .optional "id" .integer (.ofNat 0), .optional "ids" .array (.arr []),
  .optional "fields" .array (.arr []), .optional "force" .boolean (.bool false),
  .optional "lang" .string (.str defaultLang)]

/-- The fields that a value names: the members of an object, or items by their index. -/
def fieldsOf : Json → Members
  | .obj m => m
  | .arr items => Assoc.ofList (Json.indexed items)
  | _ => []

end Update

/-- The parameters of a request. -/
def UpdateParams.ofMessage (defaultLang : Text) (m : Message) : Except Failure UpdateParams := do
  let params ← announce (Update.params defaultLang) m
  let ids ← identifiers "ids" (paramOf "ids" params)
  pure {
    entity := (paramOf "entity" params).asText?.getD []
    id := (paramOf "id" params).asInt64?.getD 0
    ids
    fields := Update.fieldsOf (paramOf "fields" params)
    force := (paramOf "force" params).asBool?.getD false
    lang := (paramOf "lang" params).asText?.getD defaultLang }

namespace Update

/-! ## Fields -/

/-- Whether the values of a field are texts. -/
def isTextual (f : FieldDescriptor) : Bool := f.resultType = "string" || f.resultType = "text"

/-- Whether a value reads as an empty text. -/
def isEmptyText : Json → Bool
  | .null | .bool false => true
  | .str t => t.isEmpty
  | _ => false

/-- Whether a field is left out: it has an empty value that its type cannot express. -/
def isSkipped (f : FieldDescriptor) (v : Json) : Bool :=
  isEmptyText v && !v.isNull && !isTextual f && f.resultType != "boolean".toList

/-- The value of a field as it is stored, unless the field is left out. -/
def adaptField (registry : Registry) (field : Text) (f : FieldDescriptor) (v : Json) :
    Except Failure (Option Json) :=
  if isSkipped f v then .ok none
  else if isEmptyText v && isTextual f then .ok (some .null)
  else match (registry.resolveFor "json" f.usageTag).adaptIn v with
    | .ok v => .ok (some v)
    | .error e => .error (.ofField field e)

/-- The values of the known fields as they are stored. -/
def adaptFields (registry : Registry) (schema : Schema) : Members → Except Failure Members
  | [] => .ok []
  | (field, v) :: rest =>
    match schema.field? field with
    | none => adaptFields registry schema rest
    | some f => do
      let v ← adaptField registry field f v
      let rest ← adaptFields registry schema rest
      pure (v.toList.map (field, ·) ++ rest)

/-- The usage of a field; that of an unknown one leaves values as they are. -/
def usageOf (schema : Schema) (field : Text) : Text :=
  ((schema.field? field).map (·.usageTag)).getD "default".toList

/-- A row as it is shown. -/
def adaptRow (registry : Registry) (schema : Schema) (row : Members) : Except Failure Json := do
  let row ← row.mapM fun (field, v) =>
    match (registry.resolveFor "json" (usageOf schema field)).adaptOut v with
    | .ok v => pure (field, v)
    | .error e => throw (.ofField field e)
  pure (.obj (Assoc.ofList row))

/-! ## Writes -/

variable {S : Type} [ObjectStore S]

/-- A computation on a store that may fail. What it has written before stays written. -/
abbrev Transaction (S α : Type) := ExceptT Failure (StateM S) α

/-- An operation of the store as a part of a computation. -/
def perform {α : Type} (op : S → Except StoreError α × S) : Transaction S α :=
  ExceptT.mk fun s =>
    match op s with
    | (.ok a, s) => (.ok a, s)
    | (.error e, s) => (.error (.storage e), s)

/-- A question to the store as a part of a computation. -/
def ask {α : Type} (question : S → Except StoreError α) : Transaction S α :=
  perform fun s => (question s, s)

/-- A result that may be a failure as a part of a computation. -/
def settle {α : Type} (r : Except Failure α) : Transaction S α := ExceptT.mk (pure r)

/-- The fields that are shown of an object that has been written. -/
def shownFields : List Text := ["id", "state", "name", "modified"]

/-- The value of a field of the first of some rows. -/
def liveValue (field : Text) (rows : List Members) : Json :=
  ((rows.head?.bind (Assoc.get? field))).getD .null

/-- The value that makes an object a draft. -/
def draft : Json := .str "draft"

/-- The objects that an update is about: those that are named, else the single one. -/
def targets (p : UpdateParams) : Except Failure (List Nat) :=
  if !p.ids.isEmpty then .ok p.ids
  else if 0 < p.id then .ok [p.id.toNat]
  else .error (.invalidParam "object_invalid_id")

/-- The objects to write to in place of `ids`. A single object that is to become a draft and is none
gives way to a new one. A single object that has changed since the client saw it is refused unless
the client insists. -/
def redirect (wall : Nat → Int) (p : UpdateParams) (fields : Members) (ids : List Nat) :
    Transaction S (List Nat) := do
  if ids.length != 1 then return ids
  if Store.isDraft (paramOf "state" fields) then
    let live ← ask (ObjectStore.read p.entity ids ["state"] p.lang)
    if Store.isDraft (liveValue "state" live) then return ids
    let fork ← perform (ObjectStore.create (wall 0) p.entity [("state", draft)] p.lang)
    perform (ObjectStore.update (wall 1) p.entity [fork] fields p.lang)
    return [fork]
  match Assoc.get? "modified" fields with
  | none => return ids
  | some submitted =>
    let live ← ask (ObjectStore.read p.entity ids ["modified"] p.lang)
    if !(liveValue "modified" live).equiv submitted && !p.force then
      throw (.conflict "concurrent_change")
    return ids

/-- Writes the fields and gives the objects as they are then. The wall clock says `wall i` at the
write number `i`. -/
def apply (wall : Nat → Int) (registry : Registry) (p : UpdateParams) :
    Transaction S (List Json) := do
  let ids ← settle (targets p)
  let some schema := ObjectStore.schema? p.entity (← get) | throw (.invalidParam "unknown_entity")
  let fields ← settle (adaptFields registry schema p.fields)
  if fields.isEmpty then return []
  let ids ← redirect wall p fields ids
  perform (ObjectStore.update (wall 2) p.entity ids fields p.lang)
  let rows ← ask (ObjectStore.read p.entity ids shownFields p.lang)
  settle (rows.mapM (adaptRow registry schema))

/-- How an update went, for counting. -/
def outcome : Except Failure (List Json) → Text
  | .ok _ => "ok"
  | .error (.conflict _) => "conflict"
  | .error _ => "error"

/-- The action: writes the fields and answers with the objects. -/
def run (wall : Nat → Int) (registry : Registry) (p : UpdateParams) (s : S) (c : Context) :
    Except Failure Unit × S × Context :=
  match (apply wall registry p).run.run s with
  | (.ok rows, s) =>
    let (r, c) := c.respond 200 (.arr rows)
    (r, s, c)
  | (.error e, s) => (.error e, s, c)

/-- What is counted when the action runs. -/
def counters (wall : Nat → Int) (registry : Registry) (p : UpdateParams) (s : S) :
    List Counter :=
  [.action name (outcome ((apply wall registry p).run.run s).1)]

end Update

end HttpExchange
