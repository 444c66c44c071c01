import Understudy.Proofs.Body
import Understudy.Proofs.Request.Construction
import Understudy.Proofs.Response.Sending

/-!
# Forwarded requests

What is sent on for a message.  The message is decoded to a request, whose header lines are
regrouped under their names and whose body is sorted by kind, and the outgoing request is put
together from that.  Nothing is lost on the way: the method, the path, the raw query and the octets
of the body arrive as they came in, and so do the values of every header that may be sent on, in
their order.
-/

namespace Understudy

open Http (valuesOf)

/-- The name of a header that is never sent on, in whatever case it is written. -/
def isWithheld (name : String) : Bool :=
  ["host", "content-length", "connection", "transfer-encoding"].any (Http.sameName name)

/-- The outgoing request passes the message on: the method in upper case, the path and the query
behind the base without its final slashes, with the replacement rule applied, the values of every
header in their order, those aside that are withheld, and the octets of the body, if there are
any. -/
structure OutgoingRequest.PassesOn (outgoing : OutgoingRequest) (settings : RecordingSettings)
    (message : IncomingMessage) : Prop where
  method : outgoing.method = Text.toUpper message.method
  target : ∃ base trimmed slashes, settings.url = some base ∧
    base = trimmed ++ String.ofList (List.replicate slashes '/') ∧
    trimmed.toList.getLast? ≠ some '/' ∧
    outgoing.target = settings.urlReplacement.elim id UrlReplacement.apply
      (trimmed ++ message.path ++ if message.query = "" then "" else "?" ++ message.query)
  values : ∀ name, (valuesOf outgoing.fields name).map Text.encode =
    if isWithheld name then [] else valuesOf message.fields name
  body : outgoing.body = if message.body.isEmpty then none else some message.body

/-! ## Addresses -/

namespace Text

/-- A text is what is left of it without its final slashes, and those slashes. -/
theorem exists_eq_dropWhileEnd_append (text : String) :
    ∃ slashes, text = String.ofList (dropWhileEnd (· == '/') text.toList) ++
      String.ofList (List.replicate slashes '/') := by
  have onlySlashes : ∀ c ∈ text.toList.rtakeWhile (· == '/'), c = '/' := by
    intro c member
    have passes := List.mem_rtakeWhile_imp member
    exact beq_iff_eq.mp passes
  refine ⟨(text.toList.rtakeWhile (· == '/')).length, ?_⟩
  rw [← List.eq_replicate_of_mem onlySlashes, ← String.ofList_append]
  change text = String.ofList (text.toList.rdropWhile (· == '/') ++ _)
  rw [List.rdropWhile_append_rtakeWhile, String.ofList_toList]

/-- What is left without the final slashes does not end with one. -/
theorem getLast?_dropWhileEnd_ne (characters : List Char) (c : Char) :
    (dropWhileEnd (· == c) characters).getLast? ≠ some c := by
  intro last
  obtain ⟨nonempty, lastEq⟩ := List.mem_getLast?_eq_getLast last
  have fails := List.rdropWhile_last_not (· == c) characters nonempty
  exact fails (beq_iff_eq.mpr lastEq.symm)

end Text

theorem targetUrl_eq (base : String) (settings : RecordingSettings) (request : Request) :
    targetUrl base settings request =
      settings.urlReplacement.elim id UrlReplacement.apply
        (String.ofList (Text.dropWhileEnd (· == '/') base.toList) ++ request.path ++
          request.rawQuery.elim "" ("?" ++ ·)) := by
  unfold targetUrl
  cases settings.urlReplacement with
  | none => cases request.rawQuery <;> rfl
  | some rule => cases request.rawQuery <;> rfl

/-- The address for a message holds its path and its query as they were received. -/
theorem targetUrl_decode (base : String) (settings : RecordingSettings)
    (message : IncomingMessage) :
    targetUrl base settings message.decode =
      settings.urlReplacement.elim id UrlReplacement.apply
        (String.ofList (Text.dropWhileEnd (· == '/') base.toList) ++ message.path ++
          if message.query = "" then "" else "?" ++ message.query) := by
  obtain ⟨query, cookies, contentType, decoded⟩ := message.exists_decode_eq
  rw [targetUrl_eq, decoded]
  by_cases empty : message.query = ""
  · simp [empty]
  · simp [empty]

/-! ## Header fields -/

theorem isSkippedHeader_asciiLower (name : String) :
    isSkippedHeader (Text.asciiLower name) = isWithheld name :=
  rfl

theorem forwardedFields_eq_filter_pairs (request : Request) :
    forwardedFields request = request.headers.pairs.filter fun pair => !isSkippedHeader pair.1 :=
  (request.headers.filter_pairs fun name => !isSkippedHeader name).symm

/-- Fields regrouped under their names are sent on with their values, unless they are withheld. -/
theorem valuesOf_forwardedFields {request : Request} {fields : List (String × String)}
    (lower : ∀ field ∈ fields, Text.asciiLower field.1 = field.1)
    (grouped : request.headers =
      fields.foldl (fun map field => map.append field.1 field.2) NameMap.empty) (name : String) :
    valuesOf (forwardedFields request) name =
      if isWithheld name then [] else valuesOf fields name := by
  have alike : ∀ pair ∈ request.headers.pairs, Http.sameName pair.1 name = true →
      (!isSkippedHeader pair.1) = !isWithheld name := by
    intro pair member same
    rw [grouped] at member
    have lowerPair := lower pair (NameMap.mem_of_mem_pairs_foldl_append member)
    have sameLower : Text.asciiLower pair.1 = Text.asciiLower name := beq_iff_eq.mp same
    rw [← lowerPair, sameLower, isSkippedHeader_asciiLower]
  rw [forwardedFields_eq_filter_pairs, Http.valuesOf_filter _ alike, grouped,
    Http.valuesOf_pairs_foldl_append lower]
  cases isWithheld name with
  | true => rfl
  | false => rfl

/-! ## Outgoing requests -/

theorem findSome?_fieldProblem?_eq_none_iff (fields : List (String × String)) :
    fields.findSome? fieldProblem? = none ↔ ∀ field ∈ fields, Response.isSendable field = true := by
  rw [List.findSome?_eq_none_iff]
  refine forall₂_congr fun field _ => ?_
  unfold fieldProblem? Response.isSendable
  cases Http.isToken field.1 with
  | false => simp
  | true => cases Http.isFieldValue field.2 <;> simp

variable {refusal? : String → Option String} {settings : RecordingSettings}

/-- A request is sent on exactly if its method is a token, there is an address that the client does
not refuse and all fields can be sent, and then with exactly these parts. -/
theorem outgoingRequest_eq_ok_iff {request : Request} {outgoing : OutgoingRequest} :
    outgoingRequest refusal? settings request = .ok outgoing ↔
      ∃ base, settings.url = some base ∧ Http.isToken request.method = true ∧
        refusal? (targetUrl base settings request) = none ∧
        (∀ field ∈ forwardedFields request, Response.isSendable field = true) ∧
        outgoing =
          { method := request.method
            target := targetUrl base settings request
            fields := forwardedFields request
            body := if request.body.isEmpty then none else some request.body.octets } := by
  rw [← findSome?_fieldProblem?_eq_none_iff, outgoingRequest]
  cases settings.url with
  | none => simp
  | some base =>
      cases token : Http.isToken request.method with
      | false => simp
      | true =>
          cases refused : refusal? (targetUrl base settings request) with
          | some problem => simp [refused]
          | none =>
              cases fields : (forwardedFields request).findSome? fieldProblem? with
              | some problem => simp [refused, fields]
              | none =>
                  simp only [refused, fields, Option.orElse_eq_orElse, Bool.not_true,
                    Bool.false_eq_true, if_false]
                  simpa [refused] using eq_comm

/-- What is sent on for a message with values that are UTF-8 passes it on. -/
theorem passesOn_of_sent {message : IncomingMessage}
    (texts : ∀ field ∈ message.fields, ∃ text, Text.decode? field.2 = some text)
    {outgoing : OutgoingRequest}
    (sent : outgoingRequest refusal? settings message.decode = .ok outgoing) :
    outgoing.PassesOn settings message := by
  obtain ⟨base, url, -, -, -, rfl⟩ := outgoingRequest_eq_ok_iff.mp sent
  obtain ⟨query, cookies, contentType, decoded⟩ := message.exists_decode_eq
  refine { method := ?method, target := ?target, values := ?values, body := ?body }
  case method => exact congrArg Request.method decoded
  case target =>
    obtain ⟨slashes, baseEq⟩ := Text.exists_eq_dropWhileEnd_append base
    refine ⟨base, _, slashes, url, baseEq, ?_, ?_⟩
    · rw [String.toList_ofList]
      exact Text.getLast?_dropWhileEnd_ne base.toList '/'
    · exact targetUrl_decode base settings message
  case values =>
    intro name
    rw [decoded, valuesOf_forwardedFields (fun _ => Http.asciiLower_of_mem_decodedFields) rfl]
    cases isWithheld name with
    | true => rfl
    | false => exact Http.map_encode_valuesOf_decodedFields texts name
  case body =>
    rw [decoded, Body.isEmpty_detect, Body.octets_detect]

/-- A message with legal fields is sent on if its method is legal and the client does not refuse the
address. -/
theorem exists_outgoingRequest_eq_ok {message : IncomingMessage} {base : String}
    (url : settings.url = some base)
    (method : Http.isToken (Text.toUpper message.method) = true)
    (names : ∀ field ∈ message.fields, Http.isToken field.1 = true)
    (octets : ∀ field ∈ message.fields, field.2.data.toList.all Http.isValueOctet = true)
    (texts : ∀ field ∈ message.fields, ∃ text, Text.decode? field.2 = some text)
    (usable : refusal? (targetUrl base settings message.decode) = none) :
    ∃ outgoing, outgoingRequest refusal? settings message.decode = .ok outgoing := by
  obtain ⟨query, cookies, contentType, decoded⟩ := message.exists_decode_eq
  have token : Http.isToken message.decode.method = true := by
    rw [decoded]
    exact method
  have sendable : ∀ field ∈ forwardedFields message.decode, Response.isSendable field = true := by
    intro field member
    rw [forwardedFields_eq_filter_pairs, decoded] at member
    exact Response.isSendable_of_mem_decodedFields names octets texts
      (NameMap.mem_of_mem_pairs_foldl_append (List.mem_filter.mp member).1)
  exact ⟨_, outgoingRequest_eq_ok_iff.mpr ⟨base, url, token, usable, sendable, rfl⟩⟩

/-- A message whose header values are UTF-8 is passed on if anything is sent for it: the method in
upper case, the path and the raw query behind the base without its final slashes, with the
replacement rule applied, the values of every header in their order, those aside that belong to one
connection or are worked out anew, and the octets of the body, if there are any.  This one request
is sent, by whatever means, and its answer captured.  It is sent exactly if there is a base, the
method is a token, the client does not refuse the address and the fields to send are legal; otherwise
nothing is sent. -/
theorem forwarded_message_is_passed_on {message : IncomingMessage}
    (texts : ∀ field ∈ message.fields, ∃ text, Text.decode? field.2 = some text) :
    (∀ outgoing, outgoingRequest refusal? settings message.decode = .ok outgoing →
      outgoing.PassesOn settings message ∧
      (∀ (m : Type → Type) [Monad m]
        (send : OutgoingRequest → m (Except TransportFailure RemoteAnswer)),
        forwardVia refusal? send settings message.decode =
          send outgoing >>= fun arrived => pure (captureFrom outgoing.target arrived)) ∧
      ∀ answer, forward ⟨refusal?, answer⟩ settings message.decode =
        match answer outgoing with
        | .ok arrived => .ok (capture arrived)
        | .error (.notSent causes) => .error (.notSent outgoing.target causes)
        | .error (.notRead causes) => .error (.notRead outgoing.target causes)) ∧
    (∀ error, outgoingRequest refusal? settings message.decode = .error error →
      (∀ (m : Type → Type) [Monad m]
        (send : OutgoingRequest → m (Except TransportFailure RemoteAnswer)),
        forwardVia refusal? send settings message.decode = pure (.error error)) ∧
      ∀ answer, forward ⟨refusal?, answer⟩ settings message.decode = .error error) ∧
    ((∃ outgoing, outgoingRequest refusal? settings message.decode = .ok outgoing) ↔
      ∃ base, settings.url = some base ∧ Http.isToken (Text.toUpper message.method) = true ∧
        refusal? (targetUrl base settings message.decode) = none ∧
        ∀ field ∈ forwardedFields message.decode, Response.isSendable field = true) := by
  refine ⟨fun outgoing sent => ⟨passesOn_of_sent texts sent, fun m _ send => ?exchanged,
      fun answer => ?answered⟩,
    fun error refused => ⟨fun m _ send => ?unsent, fun answer => ?failed⟩, ?exactly⟩
  case exchanged => rw [forwardVia, sent]
  case answered =>
    rw [forward_eq, sent]
    rfl
  case unsent => rw [forwardVia, refused]
  case failed => rw [forward_eq, refused]
  case exactly =>
    obtain ⟨query, cookies, contentType, decoded⟩ := message.exists_decode_eq
    have method : message.decode.method = Text.toUpper message.method :=
      congrArg Request.method decoded
    simp only [outgoingRequest_eq_ok_iff, method]
    constructor
    · rintro ⟨_, base, url, token, usable, sendable, -⟩
      exact ⟨base, url, token, usable, sendable⟩
    · rintro ⟨base, url, token, usable, sendable⟩
      exact ⟨_, base, url, token, usable, sendable, rfl⟩

/-- Two lines of one name, in either case and with a value beyond ASCII, are sent on in their order,
and the host of the message is not.  Nothing else is sent. -/
theorem repeated_line_is_sent_on_in_order :
    let message : IncomingMessage :=
      { method := "post"
        path := "/v1/a"
        query := "x=%31&y"
        fields :=
          [("Accept", Text.encode "a"), ("Host", Text.encode "here"), ("accept", Text.encode "é")]
        body := Text.encode "text"
        client := .v4 127 0 0 1 }
    let settings : RecordingSettings :=
      { RecordingSettings.off with
        url := some "http://upstream//"
        urlReplacement := some ⟨"/V1/", "/v2/", true⟩ }
    let send : OutgoingRequest →
        StateM (List OutgoingRequest) (Except TransportFailure RemoteAnswer) :=
      fun outgoing sent => (.error (.notSent ["no host"]), sent ++ [outgoing])
    ∃ outgoing, outgoingRequest unreachable.refusal? settings message.decode = .ok outgoing ∧
      outgoing.method = "POST" ∧ outgoing.target = "http://upstream/v2/a?x=%31&y" ∧
      (valuesOf outgoing.fields "ACCEPT").map Text.encode =
        [Text.encode "a", Text.encode "é"] ∧
      valuesOf outgoing.fields "host" = [] ∧ outgoing.body = some (Text.encode "text") ∧
      (forwardVia unreachable.refusal? send settings message.decode).run [] =
        (.error (.notSent outgoing.target ["no host"]), [outgoing]) := by
  intro message settings send
  have texts : ∀ field ∈ message.fields, ∃ text, Text.decode? field.2 = some text := by
    simp [message, Text.decode?_encode]
  have target : targetUrl "http://upstream//" settings message.decode =
      "http://upstream/v2/a?x=%31&y" := by
    rw [targetUrl_decode]
    cbv
  have usable : unreachable.refusal? (targetUrl "http://upstream//" settings message.decode) =
      none := by
    rw [target]
    cbv
  obtain ⟨outgoing, sent⟩ :=
    exists_outgoingRequest_eq_ok rfl (by decide) (by decide) (by decide) texts usable
  obtain ⟨passesOn, exchanged, -⟩ :=
    (forwarded_message_is_passed_on texts).1 outgoing sent
  refine ⟨outgoing, sent, ?method, ?target, ?repeated, ?host, ?body, ?exchange⟩
  case method => exact passesOn.method.trans (by decide)
  case target =>
    obtain ⟨base, url, -, -, -, built⟩ := outgoingRequest_eq_ok_iff.mp sent
    obtain rfl := Option.some.inj url
    rw [built]
    exact target
  case repeated => exact (passesOn.values "ACCEPT").trans (by decide)
  case host => exact List.map_eq_nil_iff.mp ((passesOn.values "host").trans (by decide))
  case body => exact passesOn.body.trans (by decide)
  case exchange =>
    rw [exchanged]
    rfl

end Understudy
