import HttpExchange.Form.Nesting
import HttpExchange.Json.Writer
import HttpExchange.Xml.Record

/-!
# Bodies

The payload of a message: the text that was received, or the value that it was
found to denote. The media type says how a value is written as a text.

## Main definitions

- `Body`: raw text or a structured value.
- `Codec`: the ways a body can be read and written.
- `Body.encode`: the text of a body for a media type.
-/

namespace HttpExchange

/-- A payload. -/
inductive Body where
  | raw (t : Text)
  | structured (v : Json)
  deriving DecidableEq, Inhabited

namespace Body

/-- The body without a payload. -/
def empty : Body := .raw []

/-- A string is a payload that is still to be read; every other value is structured. -/
def ofJson : Json → Body
  | .str t => .raw t
  | v => .structured v

/-- The members of a body that is an object. -/
def asObject? : Body → Option Members
  | .structured (.obj m) => some m
  | _ => none

/-- Whether two bodies are equal when the order of members does not count. -/
def equiv : Body → Body → Bool
  | .raw a, .raw b => a == b
  | .structured a, .structured b => a.equiv b
  | _, _ => false

end Body

/-- The media type that stands for a family of types: types with the endings `+json` and `+xml` are
JSON and XML. -/
def normalizeContentType (contentType : Text) : Text :=
  let t := Text.lower (Text.trim contentType)
  if Text.endsWith t "+json" then "application/json"
  else if Text.endsWith t "+xml" then "application/xml"
  else t

/-- A way to read a body. -/
inductive Codec where
  | multipart | form | json | xml
  deriving DecidableEq, Repr

/-- How a normalised media type is read, unless it is kept as text. -/
def Codec.ofContentType? (contentType : Text) : Option Codec :=
  if contentType = "multipart/form-data" then some .multipart
  else if contentType = "application/x-www-form-urlencoded" then some .form
  else if contentType = "application/json" || contentType = "application/javascript" ||
    contentType = "text/javascript" then some .json
  else if contentType = "text/xml" || contentType = "application/xml" then some .xml
  else none

namespace Body

/-- A value as a form. -/
def encodeForm : Json → Text
  | .obj m => Form.render m
  | v => (Form.scalarText? v).getD []

/-- A value as XML, or as JSON when it is no element. -/
def encodeXml (v : Json) : Text := (Xml.write? v).getD v.write

/-- A value as JSON. Among the text types, a string is written without quotes. -/
def encodeJson (contentType : Text) : Json → Text
  | .str t => if Text.startsWith contentType "text/" then t else (Json.str t).write
  | v => v.write

/-- The text of a value for a normalised media type. -/
def encodeValue (contentType : Text) (v : Json) : Text :=
  match Codec.ofContentType? contentType with
  | some .multipart | some .form => encodeForm v
  | some .xml => encodeXml v
  | some .json | none => encodeJson contentType v

/-- The text of a body for a media type. -/
def encode (contentType : Option Text) : Body → Text
  | .raw t => t
  | .structured v => encodeValue ((contentType.map normalizeContentType).getD []) v

end Body

end HttpExchange
