import Understudy.Proofs.Body
import Understudy.Proofs.Response.Sending
import Understudy.Recording.Forwarding
import Understudy.Recording.Synthesis

/-!
# Captured responses

What becomes of an answer that was captured.  Its lines are regrouped under their names in lower
case, its values are decoded and its body is sorted by kind, but none of this loses anything: the
message for the captured response has the status of the answer, its octets and, under every name
that is not worked out anew, its values in their order.  A recording gives this response to every
request.
-/

namespace Understudy

open Http (isToken decodedFields valuesOf)

namespace RemoteAnswer

/-- The answer has a status of three digits, and its lines have names and values that a message can
hold; all values are UTF-8. -/
structure IsLegal (answer : RemoteAnswer) : Prop where
  status : 100 ≤ answer.status ∧ answer.status ≤ 999
  names : ∀ field ∈ answer.fields, isToken field.1 = true
  octets : ∀ field ∈ answer.fields, field.2.data.toList.all Http.isValueOctet = true
  texts : ∀ field ∈ answer.fields, ∃ text, Text.decode? field.2 = some text

end RemoteAnswer

/-- The message has the status and the octets of the answer and its values under every name, those
aside that are worked out anew. -/
structure Response.Message.Carries (message : Response.Message) (answer : RemoteAnswer) : Prop where
  status : message.status = answer.status
  body : message.body = answer.body
  values : ∀ name, Response.isRecomputed name = false →
    (valuesOf message.fields name).map Text.encode = valuesOf answer.fields name

namespace Response

theorem foldl_withHeader (lines : List (String × String)) (response : Response) :
    lines.foldl (fun response line => response.withHeader line.1 line.2) response =
      { response with
        headers := lines.foldl (fun map line => map.append line.1 line.2) response.headers } := by
  induction lines generalizing response with
  | nil => rfl
  | cons line rest inductionHypothesis => exact inductionHypothesis _

end Response

theorem capture_eq (answer : RemoteAnswer) :
    capture answer =
      { status := answer.status
        headers := (decodedFields answer.fields).foldl
          (fun map line => map.append line.1 line.2) NameMap.empty
        body := Body.detect answer.body answer.contentType? } := by
  have headed :=
    Response.foldl_withHeader (decodedFields answer.fields) (Response.new answer.status)
  rw [decodedFields, List.foldl_map] at headed
  rw [capture, headed]
  rfl

variable {answer : RemoteAnswer}

/-- The captured lines of a legal answer can be sent again. -/
theorem isSendable_of_mem_pairs_capture (legal : answer.IsLegal) {pair : String × String}
    (member : pair ∈ (capture answer).headers.pairs) : Response.isSendable pair = true := by
  rw [capture_eq] at member
  exact Response.isSendable_of_mem_decodedFields legal.names legal.octets legal.texts
    (NameMap.mem_of_mem_pairs_foldl_append member)

/-- The captured response has under every name the lines of the answer. -/
theorem valuesOf_pairs_capture (answer : RemoteAnswer) (name : String) :
    valuesOf (capture answer).headers.pairs name = valuesOf (decodedFields answer.fields) name := by
  rw [capture_eq]
  exact Http.valuesOf_pairs_foldl_append (fun _ => Http.asciiLower_of_mem_decodedFields) name

/-- The message for a captured response carries the answer. -/
theorem carries_capture (legal : answer.IsLegal) : (capture answer).toMessage.Carries answer := by
  have sendable : ∀ pair ∈ (capture answer).headers.pairs, Response.isSendable pair = true :=
    fun _ => isSendable_of_mem_pairs_capture legal
  refine { status := ?status, body := ?body, values := ?values }
  case status =>
    rw [capture_eq]
    exact if_pos legal.status
  case body =>
    rw [capture_eq]
    exact Body.octets_detect answer.body answer.contentType?
  case values =>
    intro name kept
    rw [Response.valuesOf_toMessage sendable kept, valuesOf_pairs_capture,
      Http.map_encode_valuesOf_decodedFields legal.texts]

/-- If a request is sent on and a legal answer arrives, the response that is captured is sent with
the status of the answer, its octets, whatever its content type, and, for every name that is not
worked out anew, its values in their order.  The same holds of the response that the recording of
the exchange gives to any request later. -/
theorem captured_response_is_sent_as_it_arrived {remote : Remote} {settings : RecordingSettings}
    {request : Request} {outgoing : OutgoingRequest}
    (sent : outgoingRequest remote.refusal? settings request = .ok outgoing)
    (answered : remote.answer outgoing = .ok answer) (legal : answer.IsLegal) :
    ∃ response, forward remote settings request = .ok response ∧
      response.toMessage.Carries answer ∧
      ∀ (id : Identifier) (recordedAt : Instant) (template : Option Mapping)
        (recording : RecordingSettings) (recorded later : Request),
        ((synthesize id recordedAt template recording recorded response).respond
          later).toMessage.Carries answer := by
  have carries := carries_capture legal
  refine ⟨capture answer, ?_, carries, fun _ _ _ _ _ _ => carries⟩
  rw [forward_eq, sent]
  simp only [answered, captureFrom]

/-- Two lines of one name, in either case and with a value beyond ASCII, are sent in their order. -/
theorem repeated_line_is_sent_in_order :
    let answer : RemoteAnswer :=
      { status := 203
        fields :=
          [("Set-Cookie", Text.encode "a=1"), ("Content-Length", Text.encode "2"),
            ("set-cookie", Text.encode "b=é")]
        body := Text.encode "[]" }
    let remote : Remote := { unreachable with answer := fun _ => .ok answer }
    ∃ response,
      forward remote { RecordingSettings.off with url := some "http://upstream" }
        (Request.new "GET" "/a") = .ok response ∧
      response.toMessage.status = 203 ∧ response.toMessage.body = Text.encode "[]" ∧
      (valuesOf response.toMessage.fields "Set-Cookie").map Text.encode =
        [Text.encode "a=1", Text.encode "b=é"] := by
  intro answer remote
  obtain ⟨outgoing, sent⟩ : ∃ outgoing,
      outgoingRequest remote.refusal? { RecordingSettings.off with url := some "http://upstream" }
        (Request.new "GET" "/a") = .ok outgoing := ⟨_, rfl⟩
  have legal : answer.IsLegal :=
    { status := by decide
      names := by decide
      octets := by decide
      texts := by simp [answer, Text.decode?_encode] }
  obtain ⟨response, captured, carries, -⟩ :=
    captured_response_is_sent_as_it_arrived sent rfl legal
  exact ⟨response, captured, carries.status, carries.body, carries.values "Set-Cookie" (by decide)⟩

end Understudy
