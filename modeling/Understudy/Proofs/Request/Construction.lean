import Understudy.Proofs.Http.Fields
import Understudy.Proofs.Http.Query
import Understudy.Proofs.Json.Reader
import Understudy.Server

/-!
# Constructed requests

The requests that can be built from a method and a path by adding a query, headers, a body and a
client address.  In each of them every query parameter and every header has a value, the names of
the headers are in lower case, and a JSON body holds a value that a document can hold.  Every
message that arrives is decoded to such a request.
-/

namespace Understudy

/-- A body whose JSON value, if it has one, is one that a document can hold. -/
def Body.WellFormed : Body → Prop
  | .json value _ => value.WellFormed
  | _ => True

/-- A body whose kind was detected is well formed. -/
theorem Body.wellFormed_detect (raw : ByteArray) (contentType : Option String) :
    (detect raw contentType).WellFormed := by
  unfold detect
  split
  · trivial
  · split
    · unfold ofText
      split
      · split
        · next value parsed => exact Json.wellFormed_of_parse_eq_ok parsed
        · trivial
      · trivial
    · trivial

namespace Request

/-- How requests are built. -/
inductive Constructed : Request → Prop where
  | new (method path : String) : Constructed (Request.new method path)
  | withQuery {request : Request} (query : String) :
      Constructed request → Constructed (request.withQuery query)
  | withHeader {request : Request} (name value : String) :
      Constructed request → Constructed (request.withHeader name value)
  | withBody {request : Request} {body : Body} (wellFormed : body.WellFormed) :
      Constructed request → Constructed (request.withBody body)
  | withClientIp {request : Request} (address : String) :
      Constructed request → Constructed (request.withClientIp address)

/-- What every constructed request satisfies. -/
structure WellFormed (request : Request) : Prop where
  queryValues : ∀ entry ∈ request.query.entries, entry.2 ≠ []
  headerValues : ∀ entry ∈ request.headers.entries, entry.2 ≠ []
  headerNames : ∀ entry ∈ request.headers.entries, Text.asciiLower entry.1 = entry.1
  body : request.body.WellFormed

theorem wellFormed_new (method path : String) : (Request.new method path).WellFormed where
  queryValues := nofun
  headerValues := nofun
  headerNames := nofun
  body := trivial

namespace WellFormed

variable {request : Request}

theorem withQuery (wellFormed : request.WellFormed) (query : String) :
    (request.withQuery query).WellFormed := by
  unfold Request.withQuery
  split
  · exact wellFormed
  · exact { wellFormed with queryValues := Http.Query.parse_values_ne_nil query }

theorem withHeader (wellFormed : request.WellFormed) (name value : String) :
    (request.withHeader name value).WellFormed where
  queryValues := wellFormed.queryValues
  headerValues := NameMap.append_values_ne_nil wellFormed.headerValues
  headerNames := NameMap.forall_mem_insert (Text.asciiLower_asciiLower name) wellFormed.headerNames
  body := wellFormed.body

theorem withBody (wellFormed : request.WellFormed) {body : Body}
    (bodyWellFormed : body.WellFormed) : (request.withBody body).WellFormed :=
  { wellFormed with body := bodyWellFormed }

theorem withClientIp (wellFormed : request.WellFormed) (address : String) :
    (request.withClientIp address).WellFormed :=
  { wellFormed with }

end WellFormed

theorem Constructed.wellFormed {request : Request} (constructed : request.Constructed) :
    request.WellFormed := by
  induction constructed with
  | new method path => exact wellFormed_new method path
  | withQuery query _ inductionHypothesis => exact inductionHypothesis.withQuery query
  | withHeader name value _ inductionHypothesis => exact inductionHypothesis.withHeader name value
  | withBody bodyWellFormed _ inductionHypothesis =>
      exact inductionHypothesis.withBody bodyWellFormed
  | withClientIp address _ inductionHypothesis => exact inductionHypothesis.withClientIp address

theorem Constructed.withHeaders {request : Request} (constructed : request.Constructed)
    (fields : List (String × String)) : (request.withHeaders fields).Constructed := by
  unfold Request.withHeaders
  induction fields generalizing request with
  | nil => exact constructed
  | cons field rest inductionHypothesis =>
      exact inductionHypothesis (constructed.withHeader field.1 field.2)

end Request

/-- Every message is decoded to a constructed request. -/
theorem IncomingMessage.constructed_decode (message : IncomingMessage) :
    message.decode.Constructed := by
  unfold decode
  exact .withBody (Body.wellFormed_detect _ _)
    (((Request.Constructed.new _ _).withQuery _).withClientIp _ |>.withHeaders _)

/-! ## Decoded messages -/

/-- A query that is not empty is kept as it is written, and beside it only its pairs change. -/
theorem Request.exists_withQuery_eq (request : Request) (query : String) :
    ∃ pairs, request.withQuery query =
      { request with
        rawQuery := if query.isEmpty then request.rawQuery else some query
        query := pairs } := by
  unfold withQuery
  split
  · exact ⟨request.query, rfl⟩
  · exact ⟨_, rfl⟩

/-- Header values go under their names in lower case, the cookies of the cookie headers among them are
collected, and nothing else changes. -/
theorem Request.withHeaders_eq (request : Request) (fields : List (String × String)) :
    request.withHeaders fields =
      { request with
        headers := (fields.map fun field => (Text.asciiLower field.1, field.2)).foldl
          (fun map field => map.append field.1 field.2) request.headers
        cookies := ((Http.valuesOf fields cookieHeader).flatMap Http.Cookie.parse).foldl
          (fun cookies pair => cookies.insert pair.1 pair.2) request.cookies } := by
  unfold withHeaders
  induction fields generalizing request with
  | nil => rfl
  | cons field rest inductionHypothesis =>
      rw [List.foldl_cons, inductionHypothesis, Http.valuesOf_cons, withHeader]
      by_cases carriesCookies : Text.asciiLower field.1 = cookieHeader
      · have named : Http.sameName field.1 cookieHeader = true := beq_iff_eq.mpr carriesCookies
        rw [if_pos carriesCookies, if_pos named, List.flatMap_cons, List.foldl_append]
        rfl
      · have unnamed : ¬Http.sameName field.1 cookieHeader = true := mt beq_iff_eq.mp carriesCookies
        rw [if_neg carriesCookies, if_neg unnamed]
        rfl

/-- A message is decoded to its method in upper case, its path, its query if it has one, its header
lines under their names in lower case, and its body by kind. -/
theorem IncomingMessage.exists_decode_eq (message : IncomingMessage) :
    ∃ query cookies contentType, message.decode =
      { method := Text.toUpper message.method
        path := message.path
        rawQuery := if message.query.isEmpty then none else some message.query
        query := query
        headers := (Http.decodedFields message.fields).foldl
          (fun map field => map.append field.1 field.2) NameMap.empty
        cookies := cookies
        body := Body.detect message.body contentType
        clientIp := some message.client.text } := by
  obtain ⟨query, queried⟩ :=
    (Request.new message.method message.path).exists_withQuery_eq message.query
  have headed := Request.withHeaders_eq
    (((Request.new message.method message.path).withQuery message.query).withClientIp
      message.client.text)
    (message.fields.map fun field => (field.1, Text.decodeLossy field.2))
  rw [List.map_map, queried] at headed
  simp only [decode, queried, headed]
  exact ⟨query, _, _, rfl⟩

/-! ## Size -/

namespace NameMap

/-- The names of the map and all values under them. -/
def textCount (map : NameMap (List String)) : Nat :=
  (map.entries.map fun entry => 1 + entry.2.length).sum

theorem length_values_le_textCount {map : NameMap (List String)} {entry : String × List String}
    (member : entry ∈ map.entries) : entry.2.length ≤ map.textCount := by
  rw [textCount]
  generalize map.entries = entries at member
  induction entries with
  | nil => cases member
  | cons head rest inductionHypothesis =>
      rw [List.map_cons, List.sum_cons]
      rcases List.mem_cons.mp member with rfl | inRest
      · omega
      · have := inductionHypothesis inRest
        omega

theorem length_entries_le_textCount (map : NameMap (List String)) :
    map.entries.length ≤ map.textCount := by
  rw [textCount]
  induction map.entries with
  | nil => exact Nat.le_refl 0
  | cons head rest inductionHypothesis =>
      rw [List.map_cons, List.sum_cons, List.length_cons]
      omega

end NameMap

namespace Request

/-- The texts that the request holds: the method, the path, the body, the names and values of the
cookies, and all names and values of the query and the headers. -/
def textCount (request : Request) : Nat :=
  3 + 2 * request.cookies.entries.length + request.query.textCount + request.headers.textCount

/-- What every request in a memory satisfies: its texts, each held as three words of eight octets,
fit into the largest address space of a 64-bit machine, whose addresses have 57 bits. -/
def FitsMemory (request : Request) : Prop :=
  24 * request.textCount ≤ 2 ^ 57

instance (request : Request) : Decidable request.FitsMemory :=
  inferInstanceAs (Decidable (_ ≤ _))

/-- A request that fits into memory has fewer texts than a double can count. -/
theorem FitsMemory.textCount_lt {request : Request} (fits : request.FitsMemory) :
    request.textCount < 2 ^ 53 := by
  unfold FitsMemory at fits
  omega

end Request

end Understudy
