import Understudy.Proofs.Request.Construction

/-!
# Headers and cookies of requests

A request that is given header lines keeps them without loss: under each name, in whatever case it
is written, it has the values of the lines with this name in their order.  Its cookies are those of
its cookie headers, and of several cookies with one name the last one counts.  This holds of every
request that is built from such lines, and so of every message that arrives.
-/

namespace Understudy

open Http (sameName valuesOf)

namespace Request

/-- The pairs of all cookie headers in their order. -/
def cookiePairs (request : Request) : List (String × String) :=
  ((request.header? cookieHeader).getD []).flatMap Http.Cookie.parse

/-- The request has the headers of the lines and the cookies of its headers. -/
structure Keeps (request : Request) (fields : List (String × String)) : Prop where
  absent : ∀ name, request.header? name = none ↔ ∀ field ∈ fields, sameName field.1 name = false
  present : ∀ name values, request.header? name = some values → values = valuesOf fields name
  names : ∀ entry ∈ request.headers.entries, ∀ c ∈ entry.1.toList, c.isUpper = false
  cookies : ∀ cookie, cookie ∈ request.cookies.entries ↔
    (request.cookiePairs.filter fun pair => pair.1 == cookie.1).getLast? = some cookie

variable {request : Request}

/-- Under a name stand the values of the lines with this name, if there are any. -/
theorem header?_withHeaders (noHeaders : request.headers = NameMap.empty)
    (fields : List (String × String)) (name : String) :
    (request.withHeaders fields).header? name =
      if valuesOf fields name = [] then none else some (valuesOf fields name) := by
  have lower : ∀ field ∈ fields.map fun field => (Text.asciiLower field.1, field.2),
      Text.asciiLower field.1 = field.1 :=
    List.forall_mem_map.mpr fun field _ => Text.asciiLower_asciiLower field.1
  have given : valuesOf (fields.map fun field => (Text.asciiLower field.1, field.2)) name =
      valuesOf fields name :=
    (Http.valuesOf_map_asciiLower fields id name).trans (List.map_id _)
  ext values
  rw [header?, withHeaders_eq, noHeaders, NameMap.find?_foldl_append_eq_some_iff,
    ← Http.valuesOf_of_lower lower name, given]
  split
  next none => simp [none]
  next some => simpa [eq_comm] using fun valuesEq => valuesEq ▸ some

theorem getD_header?_withHeaders (noHeaders : request.headers = NameMap.empty)
    (fields : List (String × String)) (name : String) :
    ((request.withHeaders fields).header? name).getD [] = valuesOf fields name := by
  rw [header?_withHeaders noHeaders]
  split
  next none => exact none.symm
  next => rfl

theorem cookies_withHeaders (noHeaders : request.headers = NameMap.empty)
    (noCookies : request.cookies = NameMap.empty) (fields : List (String × String)) :
    (request.withHeaders fields).cookies =
      NameMap.ofList (request.withHeaders fields).cookiePairs := by
  rw [cookiePairs, getD_header?_withHeaders noHeaders, withHeaders_eq, noCookies]
  rfl

/-- A request without headers and cookies keeps the lines that it is given. -/
theorem Constructed.keeps_withHeaders (constructed : request.Constructed)
    (noHeaders : request.headers = NameMap.empty) (noCookies : request.cookies = NameMap.empty)
    (fields : List (String × String)) : (request.withHeaders fields).Keeps fields where
  absent := by
    intro name
    rw [header?_withHeaders noHeaders, ite_eq_left_iff, valuesOf, List.map_eq_nil_iff,
      List.filter_eq_nil_iff]
    simp
  present := by
    intro name values found
    rw [← getD_header?_withHeaders noHeaders, found, Option.getD_some]
  names := by
    intro entry member
    exact Text.asciiLower_eq_self_iff.mp
      ((constructed.withHeaders fields).wellFormed.headerNames entry member)
  cookies := by
    intro cookie
    rw [cookies_withHeaders noHeaders noCookies, NameMap.mem_ofList_iff]

end Request

/-- A request that is built from header lines, and a request that is decoded from a message, has the
values of its lines under their names in any case, and of its cookies the last ones. -/
theorem built_request_keeps_given_lines :
    (∀ (method path : String) (fields : List (String × String)),
      ((Request.new method path).withHeaders fields).Keeps fields) ∧
    ∀ message : IncomingMessage, message.decode.Keeps
      (message.fields.map fun field => (field.1, Text.decodeLossy field.2)) := by
  constructor
  · intro method path fields
    exact (Request.Constructed.new method path).keeps_withHeaders rfl rfl fields
  · intro message
    have constructed : (((Request.new message.method message.path).withQuery
        message.query).withClientIp message.client.text).Constructed :=
      .withClientIp _ (.withQuery _ (.new _ _))
    obtain ⟨query, queried⟩ :=
      (Request.new message.method message.path).exists_withQuery_eq message.query
    have kept := constructed.keeps_withHeaders (by rw [queried]; rfl) (by rw [queried]; rfl)
      (message.fields.map fun field => (field.1, Text.decodeLossy field.2))
    exact { kept with }

end Understudy
