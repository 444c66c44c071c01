import Understudy.Json.Value
import Understudy.Text.Case

/-!
# Equality of JSON values

`equal` is equality of values: integers and doubles differ, and the two zeros of doubles agree.
`agrees` looks the expected members up in the actual object and can ignore the case of texts;
`foldCase` is the normal form that it compares.
-/

namespace Understudy.Json

mutual

/-- Equality of values, members of objects compared in order. -/
def equal : Json → Json → Bool
  | .null, .null => true
  | .boolean first, .boolean second => first == second
  | .integer first, .integer second => first == second
  | .decimal first, .decimal second => first == second
  | .text first, .text second => first == second
  | .array first, .array second => equalItems first second
  | .object first, .object second => equalMembers first second
  | _, _ => false

/-- Equality of items in order. -/
def equalItems : List Json → List Json → Bool
  | [], [] => true
  | first :: firstRest, second :: secondRest =>
      equal first second && equalItems firstRest secondRest
  | _, _ => false

/-- Equality of keys and member values in order. -/
def equalMembers : List (String × Json) → List (String × Json) → Bool
  | [], [] => true
  | (firstKey, first) :: firstRest, (secondKey, second) :: secondRest =>
      firstKey == secondKey && equal first second && equalMembers firstRest secondRest
  | _, _ => false

end

mutual

/-- Whether the actual value has what the expected one asks for, texts compared in lower case
when `ignoreCase` is set; the first value is the expected one. -/
def agrees (ignoreCase : Bool) : Json → Json → Bool
  | .null, .null => true
  | .boolean expected, .boolean actual => expected == actual
  | .integer expected, .integer actual => expected == actual
  | .decimal expected, .decimal actual => expected == actual
  | .text expected, .text actual =>
      if ignoreCase then Text.toLower expected == Text.toLower actual else expected == actual
  | .array expected, .array actual =>
      expected.length == actual.length && agreesItems ignoreCase expected actual
  | .object expected, .object actual =>
      expected.length == actual.length && agreesMembers ignoreCase expected actual
  | _, _ => false

/-- Whether the items agree one by one, as far as both lists reach. -/
def agreesItems (ignoreCase : Bool) : List Json → List Json → Bool
  | expected :: expectedRest, actual :: actualRest =>
      agrees ignoreCase expected actual && agreesItems ignoreCase expectedRest actualRest
  | _, _ => true

/-- Whether every expected member is there and agrees. -/
def agreesMembers (ignoreCase : Bool) :
    List (String × Json) → List (String × Json) → Bool
  | [], _ => true
  | (key, expected) :: expectedRest, actual =>
      (match actual.lookup key with
        | some value => agrees ignoreCase expected value
        | none => false) &&
      agreesMembers ignoreCase expectedRest actual

end

mutual

/-- The value with every text in lower case; keys stay as they are. -/
def foldCase : Json → Json
  | .text value => .text (Text.toLower value)
  | .array items => .array (foldCaseItems items)
  | .object members => .object (foldCaseMembers members)
  | other => other

/-- The items with every text in lower case. -/
def foldCaseItems : List Json → List Json
  | [] => []
  | item :: items => foldCase item :: foldCaseItems items

/-- The members with every text in lower case, keys kept. -/
def foldCaseMembers : List (String × Json) → List (String × Json)
  | [] => []
  | (key, value) :: members => (key, foldCase value) :: foldCaseMembers members

end

/-- The normal form that comparison up to case goes by. -/
def norm (ignoreCase : Bool) (value : Json) : Json :=
  if ignoreCase then foldCase value else value

end Understudy.Json
