import Understudy.Text.Blank
import Understudy.Text.Search

/-!
# Cookies

A cookie header holds `name=value` parts between semicolons.  `parse` drops parts without an
equals sign or without a name and trims both sides; `render` writes pairs in the usual form.
-/

namespace Understudy.Http.Cookie

/-- The pair of one part, if it has a name. -/
def readPair? (part : List Char) : Option (String × String) :=
  match Text.splitAtFirst '=' (Text.trimChars part) with
  | none => none
  | some (name, value) =>
      let trimmed := Text.trimChars name
      if trimmed.isEmpty then none
      else some (String.ofList trimmed, String.ofList (Text.trimChars value))

/-- The pairs of a cookie header in order. -/
def parse (header : String) : List (String × String) :=
  (Text.splitAtEach ';' header.toList).filterMap readPair?

/-- One pair as a header writes it. -/
def renderPair (pair : String × String) : String :=
  pair.1 ++ "=" ++ pair.2

/-- The header that carries the given pairs. -/
def render (pairs : List (String × String)) : String :=
  "; ".intercalate (pairs.map renderPair)

end Understudy.Http.Cookie
