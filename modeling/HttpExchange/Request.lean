import HttpExchange.Message.Edit

/-!
# Requests

A request is a message whose first line names a method, a target and a protocol.
It is read off the wire as a header block and a payload, which a blank line
separates.

## Main definitions

- `Request.splitHead`: the header block and the payload.
- `Request.create`: a request from a first line, headers and a payload.
- `Request.read`: a request as it comes over the wire.
- `Request.wire`: a request as it goes over the wire.
-/

namespace HttpExchange

/-- What is fixed for all messages of a service. -/
structure HttpConfig where
  maxInputVars : Nat := 1000
  defaultProtocol : Text := HttpExchange.defaultProtocol
  defaultScheme : Text := "http"
  maxBodySize : Nat := 2097152
  deriving DecidableEq, Repr

/-- The reader of bodies that a configuration asks for. -/
def HttpConfig.decoder (config : HttpConfig) : Decoder := ⟨config.maxInputVars⟩

namespace Request

/-- Why a text is no request. -/
inductive Error where
  /-- There is nothing but blanks. -/
  | empty
  /-- A line of the header block is no field. -/
  | malformedHeader (line : Text)
  /-- The payload is longer than allowed. -/
  | bodyTooLarge (size limit : Nat)
  deriving DecidableEq, Repr

/-- What is wrong, in words. -/
def Error.message : Error → Text
  | .empty => "empty request"
  | .malformedHeader line => "malformed header line: ".toList ++ line
  | .bodyTooLarge size limit =>
    "body of ".toList ++ Numeral.ofNat size ++ " bytes exceeds limit of ".toList ++
      Numeral.ofNat limit ++ " bytes".toList

/-! ## The first line -/

/-- Applies a target that is a path. It is resolved against the `Host` field; without one, only its
query counts. -/
def applyPath (scheme target : Text) (m : Message) : Message :=
  match m.headers.get? "Host" with
  | some host => m.setUri (scheme ++ "://".toList ++ host ++ target)
  | none =>
    match Text.splitFirst '?' target with
    | some (_, query) => m.mergeQuery (query.takeWhile (· != '#'))
    | none => m

/-- Applies a target: a URI or a path. Any other is ignored. -/
def applyTarget (scheme target : Text) (m : Message) : Message :=
  if Text.hasPhrase target "://" then m.setUri target
  else if Text.startsWith target "/" then applyPath scheme target m
  else m

/-- Applies what follows the method. -/
def applyRest (scheme : Text) (rest : List Text) (m : Message) : Message :=
  match rest with
  | [] => m
  | [target] => applyTarget scheme target m
  | target :: protocol :: _ => applyTarget scheme target (m.setProtocol protocol)

/-- Applies the first line. A first word that is no method is the target. -/
def applyHeadline (headline scheme : Text) (m : Message) : Message :=
  match Text.words headline with
  | [] => m
  | first :: rest =>
    match Method.read? first with
    | some method => applyRest scheme rest { m with method }
    | none => applyRest scheme (first :: rest) m

/-- A request from a first line, headers and a payload. -/
def create (headline : Text) (hs : Headers) (b : Body) (config : HttpConfig) : Message :=
  applyHeadline headline config.defaultScheme
    ((Message.create hs b config.decoder).setProtocol config.defaultProtocol)

/-! ## Reading -/

/-- The text up to the first blank line, and the text after it. A blank line follows a line break
of its own kind. -/
def splitHead : Text → Text × Text
  | [] => ([], [])
  | '\r' :: '\n' :: '\r' :: '\n' :: rest => ([], rest)
  | '\n' :: '\n' :: rest => ([], rest)
  | c :: rest => let (head, body) := splitHead rest; (c :: head, body)

/-- A line without the line break that ends it. -/
def dropLineBreak (line : Text) : Text :=
  match line.reverse with
  | '\n' :: '\r' :: rest => rest.reverse
  | '\n' :: rest => rest.reverse
  | _ => line

/-- A header field of a line. -/
def readField (line : Text) : Except Error (Text × Text) :=
  match Text.splitFirst ':' line with
  | some (name, value) =>
    if (Text.trim name).isEmpty then .error (.malformedHeader line)
    else .ok (Text.trim name, Text.trim value)
  | none => .error (.malformedHeader line)

/-- The header fields of some lines. Empty lines do not count. -/
def readFields (lines : List Text) : Except Error Headers :=
  let lines := lines.map (Text.dropEndWhile (· == '\r'))
  (lines.filter (!·.isEmpty)).foldlM (fun hs line => do
    let (name, value) ← readField line
    pure (hs.append name value)) []

/-- The payload up to the length that the headers announce, when that is shorter and ends between
two characters. -/
def cutBody (hs : Headers) (body : Text) : Text :=
  match (hs.get? "Content-Length").bind fun v => Numeral.readNat64? (Text.trim v) with
  | some length =>
    if length < Text.utf8Size body then (Text.takeBytes? length body).getD body else body
  | none => body

/-- The parts of a request. -/
structure Parts where
  headline : Text
  headers : Headers
  body : Text
  deriving DecidableEq, Repr

/-- Takes a request apart. -/
def readParts (maxBodySize : Nat) (t : Text) : Except Error Parts := do
  let t := t.dropWhile fun c => c == '\r' || c == '\n'
  if (Text.trim t).isEmpty then throw .empty
  let (head, body) := splitHead t
  let lines := (Text.lines head).map dropLineBreak
  let hs ← readFields lines.tail
  let body := cutBody hs body
  let size := Text.utf8Size body
  if maxBodySize < size then throw (.bodyTooLarge size maxBodySize)
  pure ⟨Text.trim (lines.headD []), hs, body⟩

/-- What is counted when a request is made of its parts. -/
def counters (parts : Parts) (config : HttpConfig) : List Counter :=
  Message.createCounters parts.headers (.raw parts.body) config.decoder

/-- Reads a request. -/
def read (t : Text) (config : HttpConfig) : Except Error Message := do
  let parts ← readParts config.maxBodySize t
  pure (create parts.headline parts.headers (.raw parts.body) config)

/-! ## Writing -/

/-- What the first line names as target: the path and the query. -/
def target (m : Message) : Text := m.uri.path.getD ['/'] ++ Uri.around "?" m.uri.query []

/-- The first line. -/
def headline (m : Message) : Text :=
  m.method.name ++ ' ' :: target m ++ ' ' :: m.protocol

/-- A request as it goes over the wire. -/
def wire (m : Message) : Text := m.render (headline m)

end Request

end HttpExchange
