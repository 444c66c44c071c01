import Understudy.Matching.BodyMatcher
import Understudy.Proofs.Body

/-!
# Verdicts on raw octets

The content type decides of which kind a body is, and with it whether a JSON value is stored or read
when it is asked for.  The value, the reason why there is none, the text and the octets are the same
in either case, so the verdict on a body is one on the octets that it was detected from.
-/

namespace Understudy

namespace Matching.BodyMatcher

/-- A text that is stored as JSON has the value that would be read from it. -/
theorem jsonOf_ofText (content : String) (contentType : Option String) :
    jsonOf (Body.ofText content contentType) = (Json.parse content).map some := by
  unfold Body.ofText
  cases parsed : Json.parse content with
  | ok value =>
      split
      · rfl
      · simp only [jsonOf, Body.text?, parsed, Except.map]
  | error reason =>
      split <;> simp only [jsonOf, Body.text?, parsed, Except.map]

/-- No content type changes the JSON value or the reason why there is none. -/
theorem jsonOf_detect (raw : ByteArray) (contentType : Option String) :
    jsonOf (Body.detect raw contentType) =
      if raw.isEmpty then .ok none
      else
        match Text.decode? raw with
        | some content => (Json.parse content).map some
        | none => .error "body is not UTF-8" := by
  unfold Body.detect
  split
  · rfl
  · cases decoded : Text.decode? raw with
    | some content => exact jsonOf_ofText content contentType
    | none => simp only [jsonOf, Body.text?, decoded]

/-- The verdict depends on four things that a body is asked for. -/
theorem judge_congr {first second : Body} (jsonEq : jsonOf first = jsonOf second)
    (textEq : first.text? = second.text?) (octetsEq : first.octets = second.octets)
    (isEmptyEq : first.isEmpty = second.isEmpty) (matcher : BodyMatcher) :
    matcher.judge first = matcher.judge second := by
  cases matcher with
  | json expected ignoreCase strict => rw [judge, judge, judgeJson, judgeJson, jsonEq]
  | exactText content => rw [judge, judge, textEq]
  | exactOctets content => rw [judge, judge, isEmptyEq, octetsEq]
  | textual pattern => rw [judge, judge, textEq]

/-- A text is asked for as the octets of it. -/
theorem judge_exactText (content : String) (body : Body) :
    (exactText content).judge body = (exactOctets (Text.encode content)).judge body := by
  have same : (body.text? == some content) =
      (!body.isEmpty && body.octets == Text.encode content) := by
    rw [Bool.eq_iff_iff, beq_iff_eq, Body.text?_eq_some_iff, Bool.and_eq_true, Bool.not_eq_true',
      Body.octets_beq_iff]
  rw [judge, judge, same]

end Matching.BodyMatcher

open Matching

/-- The content type of a body never changes the verdict on its octets, neither the score nor the
error; and exact texts and exact octets are one condition on every body. -/
theorem content_type_changes_no_verdict :
    (∀ (matcher : BodyMatcher) (raw : ByteArray) (first second : Option String),
      matcher.judge (Body.detect raw first) = matcher.judge (Body.detect raw second)) ∧
    ∀ (content : String) (body : Body),
      (BodyMatcher.exactText content).judge body =
        (BodyMatcher.exactOctets (Text.encode content)).judge body := by
  refine ⟨fun matcher raw first second => ?_, BodyMatcher.judge_exactText⟩
  refine BodyMatcher.judge_congr ?_ ?_ ?_ ?_ matcher
  · rw [BodyMatcher.jsonOf_detect, BodyMatcher.jsonOf_detect]
  · rw [Body.text?_detect, Body.text?_detect]
  · rw [Body.octets_detect, Body.octets_detect]
  · rw [Body.isEmpty_detect, Body.isEmpty_detect]

end Understudy
