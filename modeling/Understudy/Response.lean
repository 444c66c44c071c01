import Understudy.Body
import Understudy.Http.Token
import Understudy.Json.Printer
import Understudy.NameMap

/-!
# Responses

A response as a mapping describes it, and the message that leaves the server.  The message has a
status between 100 and 999, and its fields have legal names in lower case and legal values.  The
length of the body is never taken from the headers.
-/

namespace Understudy

/-- A response; header names are kept as they were given. -/
structure Response where
  status : Nat
  headers : NameMap (List String)
  body : Body

namespace Response

/-- A response with a status alone. -/
def new (status : Nat) : Response where
  status := status
  headers := NameMap.empty
  body := .empty

instance : Inhabited Response := ⟨new 200⟩

/-- The response with one more header value. -/
def withHeader (response : Response) (name value : String) : Response :=
  { response with headers := response.headers.append name value }

/-- The response with a body. -/
def withBody (response : Response) (body : Body) : Response :=
  { response with body := body }

/-- The response with a JSON body and the content type of one. -/
def withJson (response : Response) (value : Json) : Response :=
  (response.withHeader "Content-Type" "application/json").withBody (.json value value.compact)

/-- The response with a text body. -/
def withText (response : Response) (content : String) : Response :=
  response.withBody (.text content)

/-- A response as it is sent. -/
structure Message where
  status : Nat
  fields : List (String × String)
  body : ByteArray

/-- The status that is sent: 500 in place of one that no message can carry. -/
def sentStatus (status : Nat) : Nat :=
  if 100 ≤ status ∧ status ≤ 999 then status else 500

/-- A header that is worked out anew for every message. -/
def isRecomputed (name : String) : Bool :=
  Http.sameName name "content-length" || Http.sameName name "transfer-encoding"

/-- The fields to send, in the order of the header names and each in the order of its values. -/
def fields (response : Response) : List (String × String) :=
  (response.headers.entries.filter fun entry => !isRecomputed entry.1).flatMap fun entry =>
    entry.2.map fun value => (entry.1, value)

/-- Whether a field can be sent. -/
def isSendable (field : String × String) : Bool :=
  Http.isToken field.1 && Http.isFieldValue field.2

/-- The message for a response.  One field that cannot be sent leaves the message without any
fields. -/
def toMessage (response : Response) : Message where
  status := sentStatus response.status
  fields :=
    if response.fields.all isSendable then
      response.fields.map fun field => (Text.asciiLower field.1, field.2)
    else []
  body := response.body.octets

end Response

end Understudy
