import HttpExchange.Failure
import HttpExchange.Response

/-!
# Contexts

A context holds the response to one request and sends it into a sink. The sink
may refuse to take text, or to hand on what it took.
-/

namespace HttpExchange

/-- Where responses go. -/
structure Sink where
  /-- Why the sink takes no text, if it does not. -/
  writeFault : Option Text := none
  /-- Why the sink does not hand on what it took, if it does not. -/
  flushFault : Option Text := none
  /-- What the sink took. -/
  written : Text := []
  deriving DecidableEq, Repr

/-- A sink after writing to it, or the failure with the sink it leaves. -/
def Sink.write (t : Text) (k : Sink) : Except Failure Unit × Sink :=
  match k.writeFault with
  | some fault => (.error (.io fault), k)
  | none =>
    let k := { k with written := k.written ++ t }
    match k.flushFault with
    | some fault => (.error (.io fault), k)
    | none => (.ok (), k)

/-- What all responses of an action say. -/
structure ResponseSpec where
  contentType : Text := "application/json"
  charset : Text := "UTF-8"
  acceptOrigin : Text := "*"
  deriving DecidableEq, Repr

/-- The response to a request and where it goes. -/
structure Context where
  response : Message
  sink : Sink
  sent : Bool
  deriving DecidableEq

namespace Context

/-- A context with the response that an action starts from. -/
def create (requestId : Text) (spec : ResponseSpec) (config : HttpConfig) (sink : Sink) :
    Context :=
  let response := Response.create [] [] .empty config
  let response := (response.setContentType spec.contentType).setCharset spec.charset
  let response := response.setHeader "Access-Control-Allow-Origin" spec.acceptOrigin
  ⟨response.setHeader "X-Request-Id" requestId, sink, false⟩

/-- What is counted when a context is created. -/
def createCounters (config : HttpConfig) : List Counter :=
  Message.createCounters [] .empty config.decoder

/-- Changes the response. -/
def edit (e : Edit) (c : Context) : Context := { c with response := e.apply c.response }

/-- Sends the response. -/
def send (c : Context) : Except Failure Unit × Context :=
  match c.sink.write (Response.wire c.response) with
  | (.ok (), sink) => (.ok (), { c with sink, sent := true })
  | (.error e, sink) => (.error e, { c with sink })

/-- The edits of the response that make it answer with a status and a value. -/
def answerEdits (code : UInt16) (v : Json) : List Edit :=
  [.statusCode code, .body (Body.ofJson v)]

/-- Answers with a status and a value. -/
def respond (code : UInt16) (v : Json) (c : Context) : Except Failure Unit × Context :=
  ((answerEdits code v).foldl (fun c e => c.edit e) c).send

/-- Answers with a failure. -/
def sendFailure (e : Failure) (c : Context) : Except Failure Unit × Context :=
  c.respond e.statusCode e.body

/-- What is counted when a value is the answer. -/
def respondCounters (v : Json) (c : Context) : List Counter :=
  Edit.counters c.response (.body (Body.ofJson v))

end Context

end HttpExchange
