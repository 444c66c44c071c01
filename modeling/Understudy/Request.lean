import Understudy.Body
import Understudy.Http.Cookie
import Understudy.Http.Query
import Understudy.NameMap
import Understudy.Text.Case

/-!
# Requests

A decoded request.  Header names are kept in lower case, keys and values of the query are
decoded, and the cookies of every cookie header are collected.
-/

namespace Understudy

/-- A decoded request. -/
structure Request where
  method : String
  path : String
  rawQuery : Option String
  query : NameMap (List String)
  headers : NameMap (List String)
  cookies : NameMap String
  body : Body
  clientIp : Option String

namespace Request

/-- The name of the header that carries cookies. -/
def cookieHeader : String := "cookie"

/-- A request with nothing but a method, made upper case, and a path. -/
def new (method path : String) : Request where
  method := Text.toUpper method
  path := path
  rawQuery := none
  query := NameMap.empty
  headers := NameMap.empty
  cookies := NameMap.empty
  body := .empty
  clientIp := none

/-- The request with a query, given without its question mark; an empty one is none. -/
def withQuery (request : Request) (query : String) : Request :=
  if query.isEmpty then request
  else { request with rawQuery := some query, query := Http.Query.parse query }

/-- The request with one more header value; a cookie header adds its cookies. -/
def withHeader (request : Request) (name value : String) : Request :=
  let key := Text.asciiLower name
  let cookies :=
    if key = cookieHeader then
      (Http.Cookie.parse value).foldl (fun cookies pair => cookies.insert pair.1 pair.2)
        request.cookies
    else request.cookies
  { request with headers := request.headers.append key value, cookies := cookies }

/-- The request with several header values in order. -/
def withHeaders (request : Request) (fields : List (String × String)) : Request :=
  fields.foldl (fun request field => request.withHeader field.1 field.2) request

/-- The request with a body. -/
def withBody (request : Request) (body : Body) : Request :=
  { request with body := body }

/-- The request with the address of its client. -/
def withClientIp (request : Request) (address : String) : Request :=
  { request with clientIp := some address }

/-- All values of a header, its name in any case. -/
def header? (request : Request) (name : String) : Option (List String) :=
  request.headers.find? (Text.asciiLower name)

/-- The first value of a header. -/
def firstHeader? (request : Request) (name : String) : Option String :=
  (request.header? name).bind List.head?

/-- Whether the path starts with the given text, up to the case of ASCII letters. -/
def pathStartsWith (request : Request) (start : String) : Bool :=
  Text.startsWithBy Text.sameLetter start.toList request.path.toList

end Request

end Understudy
