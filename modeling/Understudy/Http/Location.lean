import Understudy.Text.Blank
import Understudy.Text.Case
import Understudy.Text.Hexadecimal
import Understudy.Text.Utf8

/-!
# Locations

Absolute URLs as a simple client reads them.  An empty path becomes a slash, a default port is
dropped, the host is in lower case, and octets that a path or query cannot hold are escaped.  This
is less than the whole standard of URLs: segments of dots stay where they are, ports and hosts are
not checked, names beyond ASCII are not encoded, and user information is kept.
-/

namespace Understudy.Http

/-- An absolute URL with a host. -/
structure Location where
  scheme : String
  authority : String
  path : String
  query : Option String
  fragment : Option String
  deriving DecidableEq, Repr

/-- Why a text is no location that a client can use. -/
inductive LocationError where
  | relative
  | noHost
  | schemeNotAllowed
  deriving DecidableEq, Repr

/-- The wording of a location error. -/
def LocationError.message : LocationError → String
  | .relative => "relative URL without a base"
  | .noHost => "empty host"
  | .schemeNotAllowed => "URL scheme is not allowed"

namespace Location

/-- The escape of an octet. -/
def escapeOctet (octet : UInt8) : List Char :=
  '%' :: Text.hexPair Text.hexCapital octet

/-- The characters with controls, what lies beyond ASCII and the given characters escaped. -/
def escapeWith (reserved : List Char) (characters : List Char) : List Char :=
  characters.flatMap fun c =>
    if c.toNat ≤ 0x1F || 0x7E < c.toNat || reserved.contains c then
      (Text.encode (String.ofList [c])).data.toList.flatMap escapeOctet
    else [c]

/-- The characters that a path escapes. -/
def pathReserved : List Char := " \"<>`\x7b\x7d".toList

/-- The characters that a query escapes. -/
def queryReserved : List Char := " \"<>'".toList

/-- The characters that a fragment escapes. -/
def fragmentReserved : List Char := " \"<>`".toList

/-- Whether a character may stand in a scheme behind its first letter. -/
def isSchemeChar (c : Char) : Bool :=
  c.isAlphanum || c = '+' || c = '-' || c = '.'

/-- The scheme in lower case and the characters behind its colon. -/
def splitScheme? (characters : List Char) : Option (String × List Char) :=
  let scheme := characters.takeWhile isSchemeChar
  match scheme, characters.dropWhile isSchemeChar with
  | first :: _, ':' :: rest =>
      if first.isAlpha then some (String.ofList (scheme.map Char.toLower), rest) else none
  | _, _ => none

/-- A character that ends the host. -/
def endsAuthority (c : Char) : Bool :=
  c = '/' || c = '\\' || c = '?' || c = '#'

/-- The authority without the port that the scheme implies. -/
def withoutDefaultPort (scheme : String) (authority : List Char) : List Char :=
  let port := (if scheme = "http" then ":80" else ":443").toList
  if port.isSuffixOf authority then authority.take (authority.length - port.length)
  else authority

/-- The location behind a scheme that has hosts. -/
def readHosted (scheme : String) (rest : List Char) : Except LocationError Location :=
  let behind := rest.dropWhile fun c => c = '/' || c = '\\'
  let authority := behind.takeWhile fun c => !endsAuthority c
  let tail := behind.dropWhile fun c => !endsAuthority c
  if authority.isEmpty then .error .noHost
  else
    let path := tail.takeWhile fun c => !(c = '?' || c = '#')
    let afterPath := tail.dropWhile fun c => !(c = '?' || c = '#')
    let fragmentPart := afterPath.dropWhile (· != '#')
    let slashes := path.map fun c => if c = '\\' then '/' else c
    .ok
      { scheme := scheme
        authority :=
          String.ofList (withoutDefaultPort scheme (authority.map Char.toLower))
        path :=
          if slashes.isEmpty then "/" else String.ofList (escapeWith pathReserved slashes)
        query :=
          match afterPath with
          | '?' :: query =>
              some (String.ofList (escapeWith queryReserved (query.takeWhile (· != '#'))))
          | _ => none
        fragment :=
          match fragmentPart with
          | _ :: fragment => some (String.ofList (escapeWith fragmentReserved fragment))
          | [] => none }

/-- The location that a text denotes. -/
def parse (text : String) : Except LocationError Location :=
  let visible := fun c : Char => 0x20 < c.toNat
  let trimmed := Text.dropWhileEnd (fun c => !visible c) (text.toList.dropWhile (!visible ·))
  let characters := trimmed.filter fun c => !(c = '\t' || c = '\n' || c = '\r')
  match splitScheme? characters with
  | none => .error .relative
  | some (scheme, rest) =>
      if scheme = "http" ∨ scheme = "https" then readHosted scheme rest
      else .error .schemeNotAllowed

/-- The text of a location. -/
def text (location : Location) : String :=
  location.scheme ++ "://" ++ location.authority ++ location.path ++
    (match location.query with
      | some query => "?" ++ query
      | none => "") ++
    (match location.fragment with
      | some fragment => "#" ++ fragment
      | none => "")

end Location

end Understudy.Http
