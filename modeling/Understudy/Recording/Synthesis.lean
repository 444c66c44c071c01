import Understudy.Mapping
import Understudy.Recording.Settings

/-!
# Recordings

The mapping that replays a response for requests like the one that brought it.  A captured
request gives exact conditions on each of its parts; a template lends its own conditions and the
request fills its empty slots.  Excluded headers and cookies are left out either way.
-/

namespace Understudy

open Matching

/-- The label of a recording whose template has none. -/
def recordingLabel (request : Request) : String :=
  "Proxy Mapping for " ++ request.method ++ " " ++ request.path

/-- Exact conditions on every part of a request that is not excluded. -/
def capturedMatcher (settings : RecordingSettings) (request : Request) : RequestMatcher where
  clientIp := none
  path := some (ValueMatcher.exact request.path)
  method := some (MethodMatcher.of [request.method])
  parameters := request.query.entries.map fun entry => FieldMatcher.exact entry.1 entry.2
  cookies :=
    (request.cookies.entries.filter fun entry => !settings.excludesCookie entry.1).map
      fun entry => CookieMatcher.exact entry.1 entry.2
  headers :=
    (request.headers.entries.filter fun entry => !settings.excludesHeader entry.1).map
      fun entry => FieldMatcher.exact entry.1 entry.2
  body := BodyMatcher.captured? request.body
  custom := []

/-- The conditions of a template without what is excluded; the path, the method and the body come
from the request where the template has none. -/
def definedMatcher (settings : RecordingSettings) (defined : RequestMatcher)
    (request : Request) : RequestMatcher where
  clientIp := defined.clientIp
  path := some (defined.path.getD (ValueMatcher.exact request.path))
  method := some (defined.method.getD (MethodMatcher.of [request.method]))
  parameters := defined.parameters
  cookies := defined.cookies.filter fun cookie => !settings.excludesCookie cookie.name
  headers := defined.headers.filter fun header => !settings.excludesHeader header.name
  body := defined.body.orElse fun _ => BodyMatcher.captured? request.body
  custom := []

/-- The conditions of a recording. -/
def recordedMatcher (template : Option Mapping) (settings : RecordingSettings)
    (request : Request) : RequestMatcher :=
  match template.filter fun _ => settings.useDefined with
  | some mapping => definedMatcher settings mapping.matcher request
  | none => capturedMatcher settings request

/-- A text of the template, if recordings take it over and it is not empty. -/
def recordedText (settings : RecordingSettings) (request : Request) (text : Option String) :
    String :=
  (text.filter fun text => settings.useDefined && !text.isEmpty).getD (recordingLabel request)

/-- The mapping that replays `response` for requests like `request`. -/
def synthesize (id : Identifier) (recordedAt : Instant) (template : Option Mapping)
    (settings : RecordingSettings) (request : Request) (response : Response) : Mapping :=
  { Mapping.new id (recordedMatcher template settings request) with
    title := some (recordedText settings request (template.bind Mapping.title))
    description := some (recordedText settings request (template.bind Mapping.description))
    priority := Mapping.recordingPriority
    respond := fun _ => response
    updatedAt := recordedAt }

end Understudy
