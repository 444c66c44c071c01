import Understudy.Matching.BodyMatcher
import Understudy.Matching.Field

/-!
# Matchers of requests

All conditions of one mapping on a request.  The known parts have slots of their own, so that a
recording can take them over; anything else is a check.  `checks` lists the conditions in the
order in which they are evaluated.
-/

namespace Understudy

open Matching

/-- The conditions of a mapping. -/
structure RequestMatcher where
  clientIp : Option ValueMatcher
  path : Option ValueMatcher
  method : Option MethodMatcher
  parameters : List FieldMatcher
  cookies : List CookieMatcher
  headers : List FieldMatcher
  body : Option BodyMatcher
  custom : List Check

namespace RequestMatcher

/-- The matcher without conditions. -/
def empty : RequestMatcher where
  clientIp := none
  path := none
  method := none
  parameters := []
  cookies := []
  headers := []
  body := none
  custom := []

instance : Inhabited RequestMatcher := ⟨empty⟩

/-- A check that always gives a score. -/
def scoring (name : String) (score : Request → Score) : Check :=
  ⟨name, fun request _ => .scored (score request)⟩

/-- The conditions in the order of evaluation. -/
def checks (matcher : RequestMatcher) : List Check :=
  (matcher.clientIp.toList.map fun value =>
      scoring "client_ip" fun request => value.score request.clientIp) ++
    (matcher.path.toList.map fun value =>
      scoring "path" fun request => value.score (some request.path)) ++
    (matcher.method.toList.map fun method => scoring "method" method.score) ++
    (matcher.parameters.map fun field => scoring "param" field.scoreParameter) ++
    (matcher.cookies.map fun cookie => scoring "cookie" cookie.score) ++
    (matcher.headers.map fun field => scoring "header" field.scoreHeader) ++
    (matcher.body.toList.map fun body => ⟨"body", fun request _ => body.judge request.body⟩) ++
    matcher.custom

/-- The number of conditions. -/
def size (matcher : RequestMatcher) : Nat :=
  matcher.checks.length

/-- The check that the gating state is the required one. -/
def stateCheck (required : Option String) : Check :=
  ⟨"scenario_state", fun _ gating => .scored (Score.ofBool (stateSatisfied required gating))⟩

end RequestMatcher

end Understudy
