import HttpExchange.Body.Basic
import HttpExchange.Headers.MediaType
import HttpExchange.Json.Number
import HttpExchange.Json.Reader
import HttpExchange.Metrics.Counter
import HttpExchange.Multipart

/-!
# Reading bodies

The media type of the headers says how a payload is to be read. Reading never
fails: a payload that does not follow its media type is kept as text.
-/

namespace HttpExchange

/-- A reader of bodies. -/
structure Decoder where
  /-- The number of fields of a form that count. -/
  maxInputVars : Nat := 1000
  deriving DecidableEq, Repr

namespace Decoder

/-- The value of a JSON text; null is none. Numbers that 64 bits cannot hold are strings. -/
def readJson? (raw : Text) : Option Json :=
  match Json.read? raw with
  | none | some .null => none
  | some v => some v.portable

/-- The value of a form. -/
def readForm (d : Decoder) (raw : Text) : Json := .obj (Form.parse d.maxInputVars raw)

/-- The value of multipart form data, whose names nest as those of a form do. -/
def readMultipart? (d : Decoder) (mediaType raw : Text) : Option Json :=
  (Multipart.boundary? mediaType).map fun boundary =>
    d.readForm (Form.writePairs (Multipart.fields boundary raw))

/-- The value of a payload. -/
def readAs? (d : Decoder) (codec : Codec) (mediaType raw : Text) : Option Json :=
  match codec with
  | .multipart => d.readMultipart? mediaType raw
  | .form => some (d.readForm raw)
  | .json => readJson? raw
  | .xml => Xml.read? raw

/-- The normalised media type of some headers, empty when there is none. -/
def contentTypeOf (hs : Headers) : Text := (hs.contentType?.map normalizeContentType).getD []

/-- The value of a payload, unless its media type says nothing about it or it does not follow its
media type. -/
def value? (d : Decoder) (raw : Text) (hs : Headers) : Option Json :=
  (Codec.ofContentType? (contentTypeOf hs)).bind fun codec =>
    d.readAs? codec ((hs.get? "Content-Type").getD []) raw

/-- Reads a payload. -/
def decode (d : Decoder) (raw : Text) (hs : Headers) : Body :=
  match d.value? raw hs with
  | some v => .structured v
  | none => .raw raw

/-- What is counted when a payload is read. -/
def counter (d : Decoder) (raw : Text) (hs : Headers) : Counter :=
  let contentType := contentTypeOf hs
  match Codec.ofContentType? contentType, d.value? raw hs with
  | none, _ => .bodyDecode contentType "raw"
  | some _, some _ => .bodyDecode contentType "structured"
  | some _, none => .bodyDecode contentType "fallback"

end Decoder

end HttpExchange
