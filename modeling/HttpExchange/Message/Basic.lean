import HttpExchange.Body.Decoder
import HttpExchange.Headers.Cookie
import HttpExchange.Method
import HttpExchange.Numeral.Shortest
import HttpExchange.Status
import HttpExchange.Uri

/-!
# Messages

What requests and responses have in common. A message keeps its `Host` field and
the authority of its URI in step, and it keeps the payload as it was received
beside the body that was read from it.

## Main definitions

- `Message`: the parts of a message.
- `Message.create`: a message with headers and a payload.
- `Message.setUri`, `Message.setHeaders`, `Message.setHeader`: the edits that
  keep `Host` and URI in step.
- `Message.extendBody`: adds parameters to a body.
-/

namespace HttpExchange

/-- A message. -/
structure Message where
  method : Method
  protocol : Text
  uri : Uri
  headers : Headers
  status : Option Text
  body : Body
  /-- The body as it was given. -/
  rawBody : Body
  decoder : Decoder
  deriving DecidableEq

/-- The protocol of a message that names none. -/
def defaultProtocol : Text := "HTTP/1.1"

/-! ## Merging of values -/

/-- Whether a value is an array or an object that is not empty. -/
def Json.isNonEmptyCollection : Json → Bool
  | .obj m => !m.isEmpty
  | .arr items => !items.isEmpty
  | _ => false

/-- The members of a value: those of an object, or the items of an array by their index. -/
def Json.toMembers : Json → Members
  | .obj m => m
  | .arr items => Json.indexed items
  | v => [("0", v)]

/-- Members in one sequence: a name that reads as an index becomes the next index, and every other
name takes its last value at its first place. -/
def Json.renumber (entries : Members) : Members :=
  (entries.foldl (fun (m, next) (k, v) =>
    if (Numeral.readNat64? k).isSome then (Assoc.set (Numeral.ofNat next) v m, next + 1)
    else (Assoc.set k v m, next)) (([], 0) : Members × Nat)).1

/-- Two collections as one. -/
def Json.merge : Json → Json → Json
  | .arr a, .arr b => .arr (a ++ b)
  | a, b => .obj (Json.renumber (a.toMembers ++ b.toMembers))

namespace Message

/-! ## Method, protocol, status -/

/-- Changes the method; an unknown one is ignored. -/
def setMethod (t : Text) (m : Message) : Message :=
  { m with method := (Method.read? t).getD m.method }

/-- Changes the protocol. -/
def setProtocol (t : Text) (m : Message) : Message := { m with protocol := Text.trim t }

/-- What the protocol says its version is. -/
def version (m : Message) : Numeral.Literal :=
  let written := (Text.splitFirst '/' m.protocol).bind fun (_, v) =>
    Numeral.Literal.read? (Text.trim v)
  written.getD (.finite ⟨false, 0, 0⟩)

/-- Changes the status to that of a code. -/
def setStatusCode (code : UInt16) (m : Message) : Message :=
  { m with status := some (Status.line code) }

/-- Changes the status: a code alone is written out, anything else is kept as it is. -/
def setStatus (t : Text) (m : Message) : Message :=
  let t := Text.trim t
  match Numeral.readUInt16? t with
  | some code => m.setStatusCode code
  | none => { m with status := some t }

/-- Removes the status. -/
def clearStatus (m : Message) : Message := { m with status := none }

/-- The code of the status, zero when there is none. -/
def statusCode (m : Message) : UInt16 := (m.status.map Status.leadingCode).getD 0

/-! ## Body -/

/-- Stores a payload and reads it as the headers say. -/
def setBody (b : Body) (m : Message) : Message :=
  let body := match b with
    | .raw t => m.decoder.decode t m.headers
    | .structured v => .structured v
  { m with body, rawBody := b }

/-- Stores a payload as it is. -/
def setBodyRaw (b : Body) (m : Message) : Message := { m with body := b, rawBody := b }

/-- A collection of parameters added to a body: it is merged into a collection that is not empty
and takes the place of everything else. -/
def extendWith (v : Json) : Body → Body
  | .structured b => .structured (if b.isNonEmptyCollection then b.merge v else v)
  | .raw _ => .structured v

/-- A text added to a body: it is one more item of a collection, and it continues a text. -/
def extendText (t : Text) : Body → Body
  | .structured b =>
    if b.isCollection then .structured (b.merge (.arr [.str t]))
    else .raw ((Form.scalarText? b).getD [] ++ t)
  | .raw s => .raw (s ++ t)

/-- Adds parameters to the body. -/
def extendBody (b : Body) (m : Message) : Message :=
  let body := match b with
    | .raw t => extendText t m.body
    | .structured v =>
      if v.isCollection then extendWith v m.body
      else extendText ((Form.scalarText? v).getD []) m.body
  { m with body }

/-- The value of a parameter; null is none. -/
def param? (name : Text) (m : Message) : Option Json :=
  (m.body.asObject?.bind (Assoc.get? name)).filter (!·.isNull)

/-- The values of some parameters; one that is missing is null. -/
def params (names : List Text) (m : Message) : Members :=
  Assoc.ofList (names.map fun name => (name, (m.param? name).getD .null))

/-- Changes the members of the body; a body that is no object gives way to an empty one. -/
def updateParams (f : Members → Members) (m : Message) : Message :=
  { m with body := .structured (.obj (f (m.body.asObject?.getD []))) }

/-- Gives a parameter a value. -/
def setParam (name : Text) (v : Json) (m : Message) : Message :=
  m.updateParams (Assoc.set name v)

/-- Gives some parameters values. -/
def setParams (values : Members) (m : Message) : Message :=
  m.updateParams (Assoc.setAll · values)

/-- Removes a parameter. -/
def dropParam (name : Text) (m : Message) : Message :=
  match m.body.asObject? with
  | some members => { m with body := .structured (.obj (Assoc.erase name members)) }
  | none => m

/-- Removes some parameters. -/
def dropParams (names : List Text) (m : Message) : Message :=
  names.foldl (fun m name => m.dropParam name) m

/-! ## URI and headers -/

/-- Takes the authority of the URI from the `Host` field, if there is one. -/
def adoptHost (m : Message) : Message :=
  match m.headers.get? "Host" with
  | some host => { m with uri := m.uri.setAuthority host }
  | none => m

/-- Makes the `Host` field and the authority of the URI agree: the URI decides when it has an
authority. -/
def syncHost (m : Message) : Message :=
  match m.uri.authority? with
  | some authority => { m with headers := m.headers.set "Host" authority }
  | none => m.adoptHost

/-- Adds the parameters of a query to the body. -/
def mergeQuery (query : Text) (m : Message) : Message :=
  m.extendBody (.structured (.obj (Form.parse m.decoder.maxInputVars query)))

/-- Changes the URI. The parameters of its query are added to the body. -/
def setUri (t : Text) (m : Message) : Message :=
  let m := { m with uri := Uri.parse t }.syncHost
  match m.uri.query with
  | some query => m.mergeQuery query
  | none => m

/-- Changes all header fields. -/
def setHeaders (hs : Headers) (m : Message) : Message := { m with headers := hs }.adoptHost

/-- Gives a header field a value. -/
def setHeader (name value : Text) (m : Message) : Message :=
  let m := { m with headers := m.headers.set name value }
  if Text.eqIgnoreCase (Text.trim name) "host" then { m with uri := m.uri.setAuthority value }
  else m

/-- Adds a cookie. -/
def setCookie (name value : Text) (params : CookieParams) (m : Message) : Message :=
  { m with headers := m.headers.setCookie name value params }

/-- Changes the character set. -/
def setCharset (t : Text) (m : Message) : Message := { m with headers := m.headers.setCharset t }

/-- Changes the media type. -/
def setContentType (t : Text) (m : Message) : Message :=
  { m with headers := m.headers.setContentType t }

/-- Whether a script of a page sent the message. -/
def isScripted (m : Message) : Bool :=
  m.headers.get? "X-Requested-With" == some "XMLHttpRequest".toList

/-! ## Whole messages -/

/-- A message with nothing in it. -/
def blank (d : Decoder) : Message :=
  ⟨.get, defaultProtocol, .empty, [], none, .empty, .empty, d⟩

/-- A message with headers and a payload. -/
def create (hs : Headers) (b : Body) (d : Decoder) : Message :=
  ((((blank d).setHeaders hs).setBody b).setProtocol defaultProtocol).setUri []

/-- The payload as it goes over the wire. -/
def payload (m : Message) : Text := m.body.encode m.headers.contentType?

/-- A header field as it is written. -/
def writeField (field : Text × Text) : Text := field.1 ++ ": ".toList ++ field.2 ++ ['\r', '\n']

/-- The header fields that are written: the length is that of the payload, and it is written only
when there is one. -/
def writtenFields (m : Message) : List (Text × Text) :=
  let kept := m.headers.pairs.filter fun (name, _) => !Text.eqIgnoreCase name "content-length"
  let length : Text × Text := ("Content-Length", Numeral.ofNat (Text.utf8Size m.payload))
  kept ++ if m.payload.isEmpty then [] else [length]

/-- The message as it goes over the wire, after its first line. -/
def render (headline : Text) (m : Message) : Text :=
  headline ++ ['\r', '\n'] ++ m.writtenFields.flatMap writeField ++ ['\r', '\n'] ++ m.payload

end Message

end HttpExchange
