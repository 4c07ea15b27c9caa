import TokenGate.Http.Message
import TokenGate.Json.Printer

/-! # What surrounds every request

Handlers answer requests or panic. Around them, a panic becomes a response without its text, a
response to a reading of the head alone loses its body, and the request's id, or one generated for
it, is written on the response. `serve` does all of it at once, `Handler.layered` layer by layer. -/

namespace TokenGate.Http

/-- The payload of a panic: a text, or something else. -/
inductive Panic where
  | text (detail : String)
  | other
  deriving DecidableEq, Repr

/-- What a request is answered with, and the subject that was recorded for it. -/
structure Reply where
  response : Response
  endUser : Option String := none
  deriving DecidableEq, Repr

abbrev Handler := Request → Except Panic Reply

namespace Handler

/-- The methods of a handler that only reads. -/
def readMethods : String := "GET,HEAD"

/-- Requests by other methods are told which methods there are. -/
def withAllow (h : Handler) : Handler := fun r =>
  if r.isRead then h r
  else (h r).map fun reply =>
    { reply with response := reply.response.withHeader "allow" (Text.encodeUtf8 readMethods) }

/-- Requests by other methods are refused. -/
def readOnly (h : Handler) : Handler := fun r =>
  if r.isRead then h r else .ok { response := { status := 405 } }

/-- Handlers by path; other paths are not found. -/
def ofRoutes (routes : List (String × Handler)) : Handler := fun r =>
  match routes.find? fun route => route.1 == r.path with
  | some (_, h) => h r
  | none => .ok { response := { status := 404 } }

end Handler

def panicResponse : Response :=
  .ofJsonText 500 (Json.record [("error", .text "internal_server_error")]).write

/-- A panic becomes a response. -/
def catchPanic : Except Panic Reply → Reply
  | .ok reply => reply
  | .error _ => { response := panicResponse }

def requestIdHeader : String := "x-request-id"

/-- The id of a request: its own, or else a generated one. -/
def requestId (generated : FieldValue) (r : Request) : FieldValue :=
  (r.header? requestIdHeader).getD generated

/-- A request for the head alone gets no body. -/
def withoutBodyForHead (r : Request) (response : Response) : Response :=
  if r.method == "HEAD" then { response with body := "" } else response

/-- A request answered, whatever its handler does. -/
def serve (generated : FieldValue) (h : Handler) (r : Request) : Reply :=
  let reply := catchPanic (h r)
  { reply with
    response := withoutBodyForHead r
      (reply.response.withHeader requestIdHeader (requestId generated r)) }

/-! ## The layers one by one -/

/-- The request as it is passed on: with its own id, or else a generated one. -/
def Request.identified (generated : FieldValue) (r : Request) : Request :=
  match r.header? requestIdHeader with
  | some _ => r
  | none => { r with headers := r.headers ++ [(requestIdHeader, generated)] }

namespace Handler

/-- Requests are passed on with an id. -/
def withId (generated : FieldValue) (h : Handler) : Handler := fun r => h (r.identified generated)

/-- The id of a request that has one is written on the response. -/
def echoId (h : Handler) : Handler := fun r =>
  match r.header? requestIdHeader with
  | some id => (h r).map fun reply =>
      { reply with response := reply.response.withHeader requestIdHeader id }
  | none => h r

/-- Panics become responses. -/
def recover (h : Handler) : Handler := fun r => .ok (catchPanic (h r))

/-- Requests for the head alone get no body. -/
def headless (h : Handler) : Handler := fun r =>
  (h r).map fun reply => { reply with response := withoutBodyForHead r reply.response }

/-- Handlers and the layers around them: requests get an id first, panics are caught last, and the
id is written in between. The span that is opened behind the first layer passes requests and
responses on as they are. What is left of a body is decided outside all layers. -/
def layered (generated : FieldValue) (h : Handler) : Handler :=
  (h.recover.echoId.withId generated).headless

end Handler

end TokenGate.Http
