import HttpExchange.Request

/-!
# Responses

A response is a message whose first line names a protocol and a status. A
response without a status goes out as a success.
-/

namespace HttpExchange.Response

/-- Whether a text begins as a protocol does. -/
def namesProtocol (t : Text) : Bool := Text.startsWith (Text.upper t) "HTTP/"

/-- Applies the first line: a protocol and a status, or one of them alone. -/
def applyHeadline (headline : Text) (m : Message) : Message :=
  let headline := Text.trim headline
  let whole (m : Message) :=
    if namesProtocol headline then m.setProtocol headline
    else if headline.isEmpty then m
    else m.setStatus headline
  match Text.splitFirst ' ' headline with
  | some (protocol, status) =>
    if namesProtocol protocol then (m.setProtocol protocol).setStatus status else whole m
  | none => whole m

/-- A response from a first line, headers and a payload. -/
def create (headline : Text) (hs : Headers) (b : Body) (config : HttpConfig) : Message :=
  applyHeadline headline
    ((Message.create hs b config.decoder).setProtocol config.defaultProtocol)

/-- The first line. -/
def statusLine (m : Message) : Text := m.protocol ++ ' ' :: m.status.getD "200 OK".toList

/-- A response as it goes over the wire. -/
def wire (m : Message) : Text := m.render (statusLine m)

end HttpExchange.Response
