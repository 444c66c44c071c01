import Understudy.Engine
import Understudy.Http.Address
import Understudy.Recording.Forwarding
import Understudy.Recording.Synthesis

/-!
# The server

How a request is answered.  The winner of the resolution answers and its scenario counts the
win.  Without a winner the request is forwarded, if that is enabled, and the exchange may become
a recording; otherwise the answer says that nothing matched and names the closest mapping.
-/

namespace Understudy

/-- An engine and its recording settings. -/
structure Server where
  engine : Engine
  recording : RecordingSettings

/-- What the surroundings contribute to one answer. -/
structure Occasion where
  /-- When the request is resolved. -/
  now : Instant
  /-- How long the resolution takes. -/
  microseconds : Float
  /-- The identifier of a recording. -/
  recordingId : Identifier
  /-- When a recording is made. -/
  recordedAt : Instant
  remote : Remote

/-- A response, the server behind it, and the reports. -/
structure Answer where
  response : Response
  server : Server
  events : List Event

/-- The entry of the closest mapping in an answer that nothing matched. -/
def closestEntry (candidate : Candidate) : Json :=
  Json.ofMembers
    [("id", .text candidate.mapping.id.text),
      ("title",
        match candidate.mapping.title with
        | some title => .text title
        | none => .null),
      ("averageScore", .decimal candidate.result.average)]

/-- The answer when nothing matched. -/
def notFound (closest : Option Candidate) : Response :=
  (Response.new 404).withJson <| Json.ofMembers
    [("status", .text "No matching mapping found"),
      ("closestMapping",
        match closest with
        | some candidate => closestEntry candidate
        | none => .null)]

/-- The answer when a request could not be forwarded. -/
def proxyFailure (error : ForwardError) : Response :=
  (Response.new 502).withJson <| Json.ofMembers
    [("status", .text "Proxy request failed"), ("error", .text error.chain)]

namespace Server

/-- Registers the recording of an exchange, or reports why it is refused. -/
def record (server : Server) (occasion : Occasion) (request : Request)
    (closest : Option Candidate) (response : Response) : Server × List Event :=
  let recording := synthesize occasion.recordingId occasion.recordedAt
    (closest.map Candidate.mapping) server.recording request response
  match server.engine.register recording with
  | .ok (engine, events) => ({ server with engine := engine }, events ++ [.recorded])
  | .error problem => (server, [.log (.recordingRejected problem)])

/-- Forwards a request and records the exchange if that is asked for. -/
def proxy (server : Server) (occasion : Occasion) (request : Request)
    (closest : Option Candidate) : Answer :=
  match forward occasion.remote server.recording request with
  | .error error =>
      { response := proxyFailure error
        server := server
        events :=
          [.log (.proxyFailed error.causes), .request request.method Outcome.proxyError.label] }
  | .ok response =>
      let (recorded, events) :=
        if server.recording.save then server.record occasion request closest response
        else (server, [])
      { response := response
        server := recorded
        events := .request request.method Outcome.proxied.label :: events }

/-- Answers a request. -/
def respond (server : Server) (occasion : Occasion) (request : Request) : Answer :=
  let (resolution, engine, events) := server.engine.resolve request occasion.now
  let resolved : Server := { server with engine := engine }
  match resolution.matched with
  | some winner =>
      let (_, won) := engine.recordWin winner.mapping
      { response := winner.mapping.respond request
        server := { resolved with engine := won }
        events := events ++
          [.resolution "matched" occasion.microseconds,
            .request request.method Outcome.matched.label] }
  | none =>
      let before := events ++ [.resolution "unmatched" occasion.microseconds]
      if server.recording.isEnabled then
        let answer := resolved.proxy occasion request resolution.closest
        { answer with events := before ++ answer.events }
      else
        { response := notFound resolution.closest
          server := resolved
          events := before ++ [.request request.method Outcome.unmatched.label] }

end Server

/-- A request as it arrives on a connection. -/
structure IncomingMessage where
  method : String
  path : String
  query : String
  fields : List (String × ByteArray)
  body : ByteArray
  client : Http.Address

/-- The decoded request of a message. -/
def IncomingMessage.decode (message : IncomingMessage) : Request :=
  let bare := ((Request.new message.method message.path).withQuery message.query).withClientIp
    message.client.text
  let headed := bare.withHeaders <|
    message.fields.map fun field => (field.1, Text.decodeLossy field.2)
  headed.withBody (Body.detect message.body (headed.firstHeader? "content-type"))

/-- Whether an answer to the method with the status carries a body. -/
def carriesBody (method : String) (status : Nat) : Bool :=
  !(method == "HEAD" || status == 204 || status == 304 || status < 200 ||
    (method == "CONNECT" && status < 300))

/-- Whether a status announces another answer, which never follows. -/
def isInterim (status : Nat) : Bool :=
  100 ≤ status && status < 200 && status != 101

/-- The message as an answer to the method: without a body that it cannot carry, and an empty one
with status 500 in place of an interim answer. -/
def Response.Message.answering (message : Response.Message) (method : String) :
    Response.Message :=
  if isInterim message.status then
    { status := 500, fields := [], body := ByteArray.empty }
  else if carriesBody method message.status then message
  else { message with body := ByteArray.empty }

/-- Answers a message: the response as it is sent, and what `respond` leaves. -/
def Server.handle (server : Server) (occasion : Occasion) (message : IncomingMessage) :
    Response.Message × Answer :=
  let answer := server.respond occasion message.decode
  (answer.response.toMessage.answering message.method, answer)

end Understudy
