import HttpExchange.Settings.Basic
import HttpExchange.Settings.LogFilter
import HttpExchange.Text.Quoted

/-!
# Validation of settings

Settings may be well-typed and still make no sense. All that is wrong is
reported, in the order of the settings.

## Main definitions

- `Settings.errors`: what is wrong with some settings.
- `Settings.read`: the settings of a text, if they can be used.
-/

namespace HttpExchange.Settings

/-- What is wrong with a setting. -/
structure Error where
  field : Text
  message : Text
  deriving DecidableEq, Repr

/-- An error in words. -/
def Error.text (e : Error) : Text := e.field ++ ": ".toList ++ e.message

/-- An error of a setting, unless it is all right. -/
def check (ok : Bool) (field : String) (message : Text) : List Error :=
  if ok then [] else [⟨field.toList, message⟩]

/-- Whether a text names a protocol. -/
def isProtocol (t : Text) : Bool := Text.startsWith (Text.upper t) "HTTP/"

/-- Whether a text names a scheme that messages can use. -/
def isScheme (t : Text) : Bool := t = "http" || t = "https"

/-- Whether a text names a language. -/
def isLanguage (t : Text) : Bool := !t.isEmpty && t.all fun c => c.isAlpha || c == '_' || c == '-'

/-- What is wrong with some settings. -/
def errors (s : Settings) : List Error :=
  check (s.http.maxInputVars != 0) "http.max_input_vars" "must be greater than 0" ++
  check (isProtocol s.http.defaultProtocol) "http.default_protocol"
    ("expected HTTP/<version>, got ".toList ++ Text.quoted s.http.defaultProtocol) ++
  check (isScheme s.http.defaultScheme) "http.default_scheme"
    ("expected http or https, got ".toList ++ Text.quoted s.http.defaultScheme) ++
  check (s.http.maxBodySize != 0) "http.max_body_size" "must be greater than 0" ++
  check (isLanguage s.store.defaultLang) "orm.default_lang"
    ("invalid language code ".toList ++ Text.quoted s.store.defaultLang) ++
  check (LogFilter.isValid s.log.level) "observability.log_level"
    ("invalid filter ".toList ++ Text.quoted s.log.level)

/-- Why a text makes no settings. -/
inductive Refusal where
  /-- It is no TOML, or a value in it has the wrong type. -/
  | malformed
  /-- The settings make no sense. -/
  | invalid (errors : List Error)
  deriving DecidableEq, Repr

/-- The errors of settings that make no sense, in words. -/
def Refusal.invalidMessage (errors : List Error) : Text :=
  "Validation failed: ".toList ++ Text.joinWith ", " (errors.map Error.text)

/-- The settings of a text. -/
def read (t : Text) : Except Refusal Settings :=
  match (Toml.read? t).bind ofToml? with
  | none => .error .malformed
  | some s => if s.errors.isEmpty then .ok s else .error (.invalid s.errors)

end HttpExchange.Settings
