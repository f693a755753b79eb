import HttpExchange.Adapter.Basic
import HttpExchange.Request
import HttpExchange.Toml.Reader

/-!
# Settings

What can be configured, with defaults for everything, and how it is read from a
TOML document. A document has a section for each group of settings. Unknown
names are ignored; a value of the wrong type is refused.

## Main definitions

- `Settings`: the settings.
- `Settings.ofToml?`: the settings that a document makes.
-/

namespace HttpExchange

/-- The form of log lines. -/
inductive LogFormat where
  | pretty | json
  deriving DecidableEq, Repr

/-- The name of a form of log lines. -/
def LogFormat.name : LogFormat → Text
  | .pretty => "pretty"
  | .json => "json"

/-- The settings of the object store. -/
structure StoreSettings where
  defaultLang : Text := "en"
  dbms : Dbms := .mysql
  deriving DecidableEq, Repr

/-- The settings of what can be observed of the program. -/
structure LogSettings where
  level : Text := "info"
  format : LogFormat := .pretty
  metricsEnabled : Bool := false
  deriving DecidableEq, Repr

/-- All settings. -/
structure Settings where
  http : HttpConfig := {}
  store : StoreSettings := {}
  log : LogSettings := {}
  deriving DecidableEq, Repr

namespace Settings

/-! ## Values -/

/-- A number that is not negative. -/
def natural? : Toml → Option Nat
  | .integer i => if 0 ≤ i then some i.toNat else none
  | _ => none

/-- A text. -/
def text? : Toml → Option Text
  | .string t => some t
  | _ => none

/-- A truth value. -/
def boolean? : Toml → Option Bool
  | .boolean b => some b
  | _ => none

/-- Whether a value has nothing inside. -/
def isVoid : Toml → Bool
  | .array [] | .table _ [] => true
  | _ => false

/-- The name of one of several choices: a text, or a table of one entry that has nothing
inside. -/
def choiceName? : Toml → Option Text
  | .string t => some t
  | .table _ [(name, v)] => if isVoid v then some name else none
  | _ => none

/-- One of several choices by its name. -/
def choice? {α : Type} (choices : List α) (name : α → Text) (v : Toml) : Option α :=
  (choiceName? v).bind fun t => choices.find? fun a => name a == t

/-! ## Sections -/

/-- The entries of a section. A section that is an array gives values to its names in order; one
that is a date has none. -/
def entries? (names : List String) : Toml → Option (Assoc Toml)
  | .table _ entries => some entries
  | .array items | .tables items => some ((names.map String.toList).zip items)
  | .dateTime => some []
  | _ => none

/-- The value of an entry, or the default when it is missing; `none` when it has the wrong type. -/
def setting? {α : Type} (entries : Assoc Toml) (name : String) (read? : Toml → Option α)
    (default : α) : Option α :=
  match Assoc.get? name.toList entries with
  | none => some default
  | some v => read? v

/-- The section about messages. -/
def http? (v : Toml) : Option HttpConfig := do
  let es ← entries? ["max_input_vars", "default_protocol", "default_scheme", "max_body_size"] v
  let default : HttpConfig := {}
  some ⟨← setting? es "max_input_vars" natural? default.maxInputVars,
    ← setting? es "default_protocol" text? default.defaultProtocol,
    ← setting? es "default_scheme" text? default.defaultScheme,
    ← setting? es "max_body_size" natural? default.maxBodySize⟩

/-- The section about the object store. -/
def store? (v : Toml) : Option StoreSettings := do
  let es ← entries? ["default_lang", "dbms"] v
  let default : StoreSettings := {}
  some ⟨← setting? es "default_lang" text? default.defaultLang,
    ← setting? es "dbms" (choice? [.mysql, .sqlite] Dbms.name) default.dbms⟩

/-- The section about what can be observed. -/
def log? (v : Toml) : Option LogSettings := do
  let es ← entries? ["log_level", "log_format", "metrics_enabled"] v
  let default : LogSettings := {}
  some ⟨← setting? es "log_level" text? default.level,
    ← setting? es "log_format" (choice? [.pretty, .json] LogFormat.name) default.format,
    ← setting? es "metrics_enabled" boolean? default.metricsEnabled⟩

/-- The settings of a document. -/
def ofToml? : Toml → Option Settings
  | .table _ es => do
    some ⟨← setting? es "http" http? {}, ← setting? es "orm" store? {},
      ← setting? es "observability" log? {}⟩
  | _ => none

end Settings

end HttpExchange
