import HttpExchange.Message.Basic

/-!
# Edits of a message

The changes that a message can undergo, as data: a history of a message is a
list of edits, and what holds after every history is proved by going through
the edits.
-/

namespace HttpExchange

/-- A change of a message. -/
inductive Edit where
  | method (name : Text)
  | protocol (t : Text)
  | status (t : Text)
  | statusCode (code : UInt16)
  | clearStatus
  | uri (t : Text)
  | headers (hs : Headers)
  | header (name value : Text)
  | cookie (name value : Text) (attributes : CookieParams)
  | charset (t : Text)
  | contentType (t : Text)
  | body (b : Body)
  | bodyRaw (b : Body)
  | extendBody (b : Body)
  | param (name : Text) (v : Json)
  | params (values : Members)
  | dropParam (name : Text)
  | dropParams (names : List Text)
  deriving DecidableEq

namespace Edit

/-- Makes a change. -/
def apply (m : Message) : Edit → Message
  | .method t => m.setMethod t
  | .protocol t => m.setProtocol t
  | .status t => m.setStatus t
  | .statusCode code => m.setStatusCode code
  | .clearStatus => m.clearStatus
  | .uri t => m.setUri t
  | .headers hs => m.setHeaders hs
  | .header name value => m.setHeader name value
  | .cookie name value attributes => m.setCookie name value attributes
  | .charset t => m.setCharset t
  | .contentType t => m.setContentType t
  | .body b => m.setBody b
  | .bodyRaw b => m.setBodyRaw b
  | .extendBody b => m.extendBody b
  | .param name v => m.setParam name v
  | .params values => m.setParams values
  | .dropParam name => m.dropParam name
  | .dropParams names => m.dropParams names

/-- Makes some changes one after the other. -/
def applyAll (m : Message) (edits : List Edit) : Message := edits.foldl apply m

/-- What is counted when a change is made: a payload that is read. -/
def counters (m : Message) : Edit → List Counter
  | .body (.raw t) => [m.decoder.counter t m.headers]
  | _ => []

end Edit

/-- What is counted when a message is created: its payload, if it is one to be read. -/
def Message.createCounters (hs : Headers) (b : Body) (d : Decoder) : List Counter :=
  Edit.counters ((Message.blank d).setHeaders hs) (.body b)

end HttpExchange
