import Understudy.Json.Reader
import Understudy.Text.Blank
import Understudy.Text.Case
import Understudy.Text.Search
import Understudy.Text.Utf8

/-!
# Message bodies

The body of a request or response after its kind has been detected.  Octets that are no text
stay octets; a text is read as JSON when the content type asks for it or when it starts like an
array or object.  The kind loses nothing: `octets` gives the raw body back.
-/

namespace Understudy

/-- A body by kind; a JSON body keeps the text that it was read from. -/
inductive Body where
  | empty
  | json (value : Json) (source : String)
  | text (content : String)
  | binary (content : ByteArray)
  deriving Inhabited

namespace Body

/-- Whether a content type speaks of JSON. -/
def declaresJson (contentType : Option String) : Bool :=
  match contentType with
  | some declared => Text.contains "json".toList (Text.asciiLower declared).toList
  | none => false

/-- Whether a text starts like an array or object. -/
def looksLikeJson (content : String) : Bool :=
  match Text.firstVisible? content with
  | some c => c == '{' || c == '['
  | none => false

/-- The kind of a text that is not empty. -/
def ofText (content : String) (contentType : Option String) : Body :=
  if declaresJson contentType || looksLikeJson content then
    match Json.parse content with
    | .ok value => .json value content
    | .error _ => .text content
  else .text content

/-- The body of raw octets under an optional content type. -/
def detect (raw : ByteArray) (contentType : Option String) : Body :=
  if raw.isEmpty then .empty
  else
    match Text.decode? raw with
    | some content => ofText content contentType
    | none => .binary raw

/-- The body as text, where it is one. -/
def text? : Body → Option String
  | .empty => none
  | .json _ source => some source
  | .text content => some content
  | .binary content => Text.decode? content

/-- The raw octets. -/
def octets : Body → ByteArray
  | .empty => ByteArray.empty
  | .json _ source => Text.encode source
  | .text content => Text.encode content
  | .binary content => content

/-- Whether there is no body. -/
def isEmpty : Body → Bool
  | .empty => true
  | _ => false

end Body

end Understudy
