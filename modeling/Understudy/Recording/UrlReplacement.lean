import Understudy.Text.Case
import Understudy.Text.Search

/-!
# Replacement in URLs

A rule that replaces every occurrence of one text in a URL by another, the leftmost occurrence
first.  The comparison can ignore the case of ASCII letters.
-/

namespace Understudy

/-- A replacement rule. -/
structure UrlReplacement where
  old : String
  new : String
  ignoreCase : Bool
  deriving DecidableEq, Repr

/-- The comparison of characters that the rule goes by. -/
def UrlReplacement.same (rule : UrlReplacement) (first second : Char) : Bool :=
  if rule.ignoreCase then Text.sameLetter first second else first == second

/-- The URL with the rule applied. -/
def UrlReplacement.apply (rule : UrlReplacement) (url : String) : String :=
  String.ofList (Text.replaceAll rule.same rule.old.toList rule.new.toList url.toList)

end Understudy
