import Understudy.Json.Equality
import Understudy.Matching.Verdict
import Understudy.Pattern

/-!
# Matchers of bodies

Conditions on the body: equality of JSON values, of texts or of octets, or a pattern on the
text.  A strict JSON matcher fails on a body that it cannot read; a lenient one does not match.
-/

namespace Understudy.Matching

/-- A condition on the body. -/
inductive BodyMatcher where
  | json (expected : Json) (ignoreCase strict : Bool)
  | exactText (content : String)
  | exactOctets (content : ByteArray)
  | textual (pattern : Pattern)
  deriving Inhabited

namespace BodyMatcher

/-- The JSON value of a body, or the reason why it has none; an empty body has neither. -/
def jsonOf (body : Body) : Except String (Option Json) :=
  match body with
  | .empty => .ok none
  | .json value _ => .ok (some value)
  | other =>
      match other.text? with
      | none => .error "body is not UTF-8"
      | some content =>
          match Json.parse content with
          | .ok value => .ok (some value)
          | .error reason => .error reason

/-- The verdict of a JSON matcher. -/
def judgeJson (expected : Json) (ignoreCase strict : Bool) (body : Body) : Verdict :=
  match jsonOf body with
  | .ok (some actual) => .scored (Score.ofBool (Json.agrees ignoreCase expected actual))
  | .ok none => .scored Score.mismatch
  | .error reason =>
      if strict then .failed (.malformedBody "JSON" reason) else .scored Score.mismatch

/-- The verdict on a body. -/
def judge (matcher : BodyMatcher) (body : Body) : Verdict :=
  match matcher with
  | .json expected ignoreCase strict => judgeJson expected ignoreCase strict body
  | .exactText content => .scored (Score.ofBool (body.text? == some content))
  | .exactOctets content => .scored (Score.ofBool (!body.isEmpty && body.octets == content))
  | .textual pattern => .scored (pattern.score body.text?)

/-- The matcher that a captured body meets; recorded JSON ignores the case of texts. -/
def captured? : Body → Option BodyMatcher
  | .empty => none
  | .json value _ => some (.json value true false)
  | .text content => some (.exactText content)
  | .binary content => some (.exactOctets content)

end BodyMatcher

end Understudy.Matching
