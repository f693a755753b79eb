import HttpExchange.ErrorClass
import HttpExchange.Json.Basic
import HttpExchange.Store.Schema

/-!
# Object stores

Objects of registered entities, kept under consecutive numbers. Every write
stamps the objects it touches with a clock that only goes forward, however the
wall clock behaves. Values of fields that depend on the language are kept apart
for each language but the default one.

## Main definitions

- `StoredObject.value`, `StoredObject.write`: the values of one object.
- `Store.read`: the values of some objects.
- `Store.create`, `Store.update`, `Store.cloneObjects`: the writes, each of which
  checks everything before it changes anything.
-/

namespace HttpExchange

/-! ## Objects -/

/-- The values of an object. -/
structure StoredObject where
  /-- The values in the default language, and of the fields without a language. -/
  values : Members
  /-- The values that were written in other languages. -/
  localized : Assoc Members
  deriving DecidableEq

namespace StoredObject

/-- The object without values. -/
def empty : StoredObject := ⟨[], []⟩

/-- The value of a field in a language: what was written in it, else the common value, else
null. -/
def value (field lang : Text) (o : StoredObject) : Json :=
  let localized := (Assoc.get? lang o.localized).bind (Assoc.get? field)
  (localized <|> Assoc.get? field o.values).getD .null

/-- Writes the common value of a field. -/
def writeCommon (field : Text) (v : Json) (o : StoredObject) : StoredObject :=
  { o with values := Assoc.set field v o.values }

/-- Writes the value of a field in a language. -/
def writeLocalized (field : Text) (v : Json) (lang : Text) (o : StoredObject) : StoredObject :=
  let known := (Assoc.get? lang o.localized).getD []
  { o with localized := Assoc.set lang (Assoc.set field v known) o.localized }

/-- Writes the value of a field. Only another language than the default one is kept apart. -/
def write (schema : Schema) (defaultLang lang field : Text) (v : Json) (o : StoredObject) :
    StoredObject :=
  if schema.isMultilang field && lang != defaultLang then o.writeLocalized field v lang
  else o.writeCommon field v

/-- Writes the values of some fields. -/
def writeAll (schema : Schema) (defaultLang lang : Text) (values : Members) (o : StoredObject) :
    StoredObject :=
  values.foldl (fun o (field, v) => o.write schema defaultLang lang field v) o

/-- Stamps a change. -/
def touch (now : Int) (o : StoredObject) : StoredObject := o.writeCommon "modified" (.ofInt now)

/-- Stamps a new object. -/
def born (now : Int) (o : StoredObject) : StoredObject :=
  (o.writeCommon "created" (.ofInt now)).touch now

end StoredObject

/-! ## Tables -/

/-- The objects of an entity by their numbers. -/
structure Table where
  schema : Schema
  nextId : Nat
  objects : List (Nat × StoredObject)
  deriving DecidableEq

namespace Table

/-- The table without objects. -/
def empty (schema : Schema) : Table := ⟨schema, 1, []⟩

/-- The object of a number. -/
def object? (id : Nat) (t : Table) : Option StoredObject := t.objects.lookup id

/-- Adds an object under the next number. -/
def add (o : StoredObject) (t : Table) : Table :=
  { t with nextId := t.nextId + 1, objects := t.objects ++ [(t.nextId, o)] }

/-- Changes the object of a number. -/
def modify (id : Nat) (f : StoredObject → StoredObject) (t : Table) : Table :=
  { t with objects := t.objects.map fun (i, o) => if i = id then (i, f o) else (i, o) }

end Table

/-! ## Failures -/

/-- Why a store refuses an operation. -/
inductive StoreError where
  | unknownEntity (entity : Text)
  | unknownObject (entity : Text) (id : Nat)
  /-- A value is refused, for a reason that a code names. -/
  | validation (field code : Text)
  deriving DecidableEq, Repr

namespace StoreError

/-- The class of a failure. -/
def errorClass : StoreError → ErrorClass
  | .unknownEntity _ | .unknownObject _ _ => .unknownObject
  | .validation _ _ => .invalidParam

/-- What is reported of a failure. -/
def payload : StoreError → Json
  | .unknownEntity entity => .str entity
  | .unknownObject _ id => .ofNat id
  | .validation field code => .obj [(field, .str code)]

/-- What is wrong, in words. -/
def message : StoreError → Text
  | .unknownEntity entity => "unknown entity ".toList ++ entity
  | .unknownObject entity id => "unknown object ".toList ++ entity ++ '#' :: Numeral.ofNat id
  | .validation field code => "field ".toList ++ field ++ " rejected: ".toList ++ code

end StoreError

/-! ## Stores -/

/-- The objects of all entities. -/
structure Store where
  defaultLang : Text
  tables : Assoc Table
  /-- The last stamp. -/
  clock : Int
  deriving DecidableEq

namespace Store

/-- The store without entities. -/
def empty (defaultLang : Text) : Store := ⟨defaultLang, [], 0⟩

/-- Registers an entity. One that is known already loses its objects. -/
def register (schema : Schema) (s : Store) : Store :=
  { s with tables := Assoc.set schema.name (.empty schema) s.tables }

/-- The table of an entity. -/
def table? (entity : Text) (s : Store) : Option Table := Assoc.get? entity s.tables

/-- The schema of an entity. -/
def schema? (entity : Text) (s : Store) : Option Schema := (s.table? entity).map (·.schema)

/-- The number of objects of an entity. -/
def size (entity : Text) (s : Store) : Nat := ((s.table? entity).map (·.objects.length)).getD 0

/-- Replaces the table of an entity. -/
def setTable (entity : Text) (t : Table) (s : Store) : Store :=
  { s with tables := Assoc.set entity t s.tables }

/-- Moves the clock forward: to the wall clock, or by one second when that is behind. -/
def tick (now : Int) (s : Store) : Store := { s with clock := max now (s.clock + 1) }

/-- The table of an entity, or the failure that there is none. -/
def tableOf (entity : Text) (s : Store) : Except StoreError Table :=
  match s.table? entity with
  | some t => .ok t
  | none => .error (.unknownEntity entity)

/-- The object of a number, or the failure that there is none. -/
def objectOf (entity : Text) (t : Table) (id : Nat) : Except StoreError StoredObject :=
  match t.object? id with
  | some o => .ok o
  | none => .error (.unknownObject entity id)

/-! ### Reading -/

/-- The values of some fields of an object. The number comes first, and fields that the entity does
not have are left out. -/
def row (schema : Schema) (fields : List Text) (lang : Text) (id : Nat) (o : StoredObject) :
    Members :=
  let fields := fields.filter fun f => f != "id".toList && schema.contains f
  Assoc.ofList (("id", .ofNat id) :: fields.map fun f => (f, o.value f lang))

/-- The values of some fields of some objects in a language. -/
def read (entity : Text) (ids : List Nat) (fields : List Text) (lang : Text) (s : Store) :
    Except StoreError (List Members) := do
  let t ← s.tableOf entity
  ids.mapM fun id => (objectOf entity t id).map (row t.schema fields lang id)

/-! ### Writing -/

/-- Whether a value counts as missing. -/
def isBlank : Json → Bool
  | .null => true
  | .str t => t.isEmpty
  | _ => false

/-- Whether a state is that of a draft. -/
def isDraft : Json → Bool
  | .str t => t == "draft".toList
  | _ => false

/-- The value that a field will have. -/
def resolved (values : Members) (lang : Text) (o : StoredObject) (field : Text) : Json :=
  (Assoc.get? field values).getD (o.value field lang)

/-- A required field that would have no value. Drafts may lack any. -/
def missing? (schema : Schema) (values : Members) (lang : Text) (o : StoredObject) :
    Option Text :=
  if isDraft (resolved values lang o "state") then none
  else (schema.fields.find? fun (name, f) =>
    f.required && isBlank (resolved values lang o name)).map Prod.fst

/-- Refuses values that would leave a required field without a value. -/
def checkMandatory (schema : Schema) (values : Members) (lang : Text) (o : StoredObject) :
    Except StoreError Unit :=
  match missing? schema values lang o with
  | some field => .error (.validation field "missing_mandatory")
  | none => .ok ()

/-- The values that can be written. -/
def writable (schema : Schema) (values : Members) : Members :=
  values.filter fun (name, _) => schema.isWritable name

/-- The values of a new object: without a state it is an instance. -/
def withState (values : Members) : Members :=
  if Assoc.contains "state" values then values else Assoc.set "state" (.str "instance") values

/-- A table with a new object, and its number. -/
def createIn (now : Int) (defaultLang lang : Text) (values : Members) (t : Table) :
    Except StoreError (Nat × Table) := do
  let values := withState (writable t.schema values)
  checkMandatory t.schema values lang .empty
  let o := (StoredObject.empty.born now).writeAll t.schema defaultLang lang values
  pure (t.nextId, t.add o)

/-- A table after writing values to some objects. -/
def updateIn (now : Int) (defaultLang entity lang : Text) (ids : List Nat) (values : Members)
    (t : Table) : Except StoreError Table := do
  let values := writable t.schema values
  for id in ids do
    let o ← objectOf entity t id
    checkMandatory t.schema values lang o
  let change (o : StoredObject) := (o.writeAll t.schema defaultLang lang values).touch now
  pure (ids.foldl (fun t id => t.modify id change) t)

/-- A table with copies of some objects, and their numbers. -/
def cloneIn (now : Int) (entity : Text) (ids : List Nat) (t : Table) :
    Except StoreError (List Nat × Table) := do
  let sources ← ids.mapM (objectOf entity t)
  pure (sources.foldl (fun (created, t) o => (created ++ [t.nextId], t.add (o.born now)))
    ([], t))

/-- Replaces the table of an entity by what `f` makes of it. The clock ticks even when that
fails. -/
def write {α : Type} (now : Int) (entity : Text) (f : Store → Table → Except StoreError (α × Table))
    (s : Store) : Except StoreError α × Store :=
  let s := s.tick now
  match (s.tableOf entity).bind (f s) with
  | .ok (a, t) => (.ok a, s.setTable entity t)
  | .error e => (.error e, s)

/-- Creates an object and gives its number. -/
def create (now : Int) (entity : Text) (values : Members) (lang : Text) (s : Store) :
    Except StoreError Nat × Store :=
  s.write now entity fun s t => createIn s.clock s.defaultLang lang values t

/-- Writes values to some objects. -/
def update (now : Int) (entity : Text) (ids : List Nat) (values : Members) (lang : Text)
    (s : Store) : Except StoreError Unit × Store :=
  s.write now entity fun s t =>
    (updateIn s.clock s.defaultLang entity lang ids values t).map fun t => ((), t)

/-- Copies some objects and gives the numbers of the copies. -/
def cloneObjects (now : Int) (entity : Text) (ids : List Nat) (s : Store) :
    Except StoreError (List Nat) × Store :=
  s.write now entity fun s t => cloneIn s.clock entity ids t

end Store

end HttpExchange
