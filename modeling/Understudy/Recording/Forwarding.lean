import Understudy.Http.Location
import Understudy.Http.Token
import Understudy.Recording.Settings
import Understudy.Request
import Understudy.Response

/-!
# Forwarding

The request that is sent on for an unmatched one, and the response captured from its answer.
Sending it is the part of a client and of the network behind it: the client may refuse an address,
and it gives the answer to an outgoing request or says why there is none.
-/

namespace Understudy

/-- A request as it is handed to the client. -/
structure OutgoingRequest where
  method : String
  /-- The address as it was put together. -/
  target : String
  fields : List (String × String)
  /-- The octets of the body, if there is one. -/
  body : Option ByteArray

/-- An answer as it arrives. -/
structure RemoteAnswer where
  status : Nat
  fields : List (String × ByteArray)
  body : ByteArray

/-- Why an outgoing request has no answer, the outermost cause first. -/
inductive TransportFailure where
  | notSent (causes : List String)
  | notRead (causes : List String)

/-- A client that sends requests, and the network behind it. -/
structure Remote where
  /-- Why the client cannot use an address, if that is so. -/
  refusal? : String → Option String
  /-- The answer to a request, or why there is none. -/
  answer : OutgoingRequest → Except TransportFailure RemoteAnswer

/-- Why a request was not forwarded. -/
inductive ForwardError where
  | urlMissing
  | invalidMethod (method : String)
  | notSent (target : String) (causes : List String)
  | notRead (target : String) (causes : List String)

/-- What went wrong, the outermost cause first. -/
def ForwardError.causes : ForwardError → List String
  | .urlMissing => ["Proxy URL is not configured"]
  | .invalidMethod method => ["Invalid HTTP method '" ++ method ++ "'", "invalid HTTP method"]
  | .notSent target causes => ("Failed to send proxy request to " ++ target) :: causes
  | .notRead target causes => ("Failed to read response body from " ++ target) :: causes

/-- The outermost cause. -/
def ForwardError.summary (error : ForwardError) : String :=
  error.causes.headD ""

/-- All causes in one line. -/
def ForwardError.chain (error : ForwardError) : String :=
  ": ".intercalate error.causes

/-- The address for a request: base, path and query, and then the replacement rule. -/
def targetUrl (base : String) (settings : RecordingSettings) (request : Request) : String :=
  let trimmed := String.ofList (Text.dropWhileEnd (· == '/') base.toList)
  let query :=
    match request.rawQuery with
    | some query => "?" ++ query
    | none => ""
  let url := trimmed ++ request.path ++ query
  match settings.urlReplacement with
  | some rule => rule.apply url
  | none => url

/-- Whether a header belongs to one connection or is worked out anew. -/
def isSkippedHeader (name : String) : Bool :=
  ["host", "content-length", "connection", "transfer-encoding"].contains name

/-- The fields to send on, in the order of their names. -/
def forwardedFields (request : Request) : List (String × String) :=
  (request.headers.entries.filter fun entry => !isSkippedHeader entry.1).flatMap fun entry =>
    entry.2.map fun value => (entry.1, value)

/-- Why a field cannot be sent. -/
def fieldProblem? (field : String × String) : Option String :=
  if !Http.isToken field.1 then some "invalid HTTP header name"
  else if !Http.isFieldValue field.2 then some "failed to parse header value"
  else none

/-- The failure of a request that cannot even be put together. -/
def builderFailure (target cause : String) : ForwardError :=
  .notSent target ["builder error", cause]

/-- The outgoing request for a request, for a client that refuses some addresses. -/
def outgoingRequest (refusal? : String → Option String) (settings : RecordingSettings)
    (request : Request) : Except ForwardError OutgoingRequest :=
  match settings.url with
  | none => .error .urlMissing
  | some base =>
      let target := targetUrl base settings request
      let fields := forwardedFields request
      if !Http.isToken request.method then .error (.invalidMethod request.method)
      else
        -- the client keeps the first problem, and it reads the address first
        match refusal? target <|> fields.findSome? fieldProblem? with
        | some problem => .error (builderFailure target problem)
        | none =>
            .ok
              { method := request.method
                target := target
                fields := fields
                body := if request.body.isEmpty then none else some request.body.octets }

/-- The content type of an answer, if it is plain text. -/
def RemoteAnswer.contentType? (answer : RemoteAnswer) : Option String :=
  match answer.fields.find? fun field => Http.sameName field.1 "content-type" with
  | some (_, value) =>
      if value.data.toList.all Http.isVisibleOctet then Text.decode? value else none
  | none => none

/-- The response that an answer becomes. -/
def capture (answer : RemoteAnswer) : Response :=
  let headed := answer.fields.foldl
    (fun response field =>
      response.withHeader (Text.asciiLower field.1) (Text.decodeLossy field.2))
    (Response.new answer.status)
  headed.withBody (Body.detect answer.body answer.contentType?)

/-- What an exchange with an address comes to. -/
def captureFrom (target : String) :
    Except TransportFailure RemoteAnswer → Except ForwardError Response
  | .ok answer => .ok (capture answer)
  | .error (.notSent causes) => .error (.notSent target causes)
  | .error (.notRead causes) => .error (.notRead target causes)

/-- Sends a request on by whatever `send` does, and captures the answer.  Nothing is sent where no
request can be put together. -/
def forwardVia {m : Type → Type} [Monad m] (refusal? : String → Option String)
    (send : OutgoingRequest → m (Except TransportFailure RemoteAnswer))
    (settings : RecordingSettings) (request : Request) : m (Except ForwardError Response) :=
  match outgoingRequest refusal? settings request with
  | .error error => pure (.error error)
  | .ok outgoing => do
      let arrived ← send outgoing
      return captureFrom outgoing.target arrived

/-- Sends a request on by a client whose answers are known, and captures the answer. -/
def forward (remote : Remote) (settings : RecordingSettings) (request : Request) :
    Except ForwardError Response :=
  Id.run <| forwardVia remote.refusal? (fun outgoing => pure (remote.answer outgoing)) settings
    request

/-- What is forwarded is what the answer to the outgoing request comes to, if there is one. -/
theorem forward_eq (remote : Remote) (settings : RecordingSettings) (request : Request) :
    forward remote settings request =
      match outgoingRequest remote.refusal? settings request with
      | .ok outgoing => captureFrom outgoing.target (remote.answer outgoing)
      | .error error => .error error := by
  rw [forward, forwardVia]
  cases outgoingRequest remote.refusal? settings request with
  | ok outgoing => rfl
  | error error => rfl

/-- A client with no network: it refuses what is no location, and reaches no host. -/
def unreachable : Remote where
  refusal? target :=
    match Http.Location.parse target with
    | .error problem => some problem.message
    | .ok _ => none
  answer outgoing :=
    let location := (Http.Location.parse outgoing.target).toOption
    .error <| .notSent
      ["error sending request for url (" ++ location.elim outgoing.target Http.Location.text ++ ")",
        "client error (Connect)", "tcp connect error", "Network is unreachable (os error 101)"]

end Understudy
