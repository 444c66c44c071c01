import Understudy.Regex.Parser
import Understudy.Score
import Understudy.Text.Case
import Understudy.Text.Search

/-!
# Text patterns

Conditions on a text that may be absent.  A presence condition looks at nothing but presence,
and every other condition fails on an absent text.  Ignoring case compares lower-case forms and
leaves regular expressions as they are.
-/

namespace Understudy

/-- What a pattern asks of a text. -/
inductive Condition where
  | exact (value : String)
  | contains (value : String)
  | startsWith (value : String)
  | endsWith (value : String)
  | regex (expression : Regex.Expression)
  | present (wanted : Bool)
  deriving Inhabited

/-- A condition and whether it ignores case. -/
structure Pattern where
  condition : Condition
  ignoreCase : Bool
  deriving Inhabited

namespace Pattern

/-- The pattern that only one text meets. -/
def exact (value : String) : Pattern := ⟨.exact value, false⟩

/-- The text of an exact pattern. -/
def exactValue? (pattern : Pattern) : Option String :=
  match pattern.condition with
  | .exact value => some value
  | _ => none

/-- The form in which a text is compared. -/
def fold (pattern : Pattern) (text : String) : List Char :=
  (if pattern.ignoreCase then Text.toLower text else text).toList

/-- Whether a text that is there meets the pattern. -/
def acceptsText (pattern : Pattern) (text : String) : Bool :=
  match pattern.condition with
  | .exact value => pattern.fold text == pattern.fold value
  | .contains value => Text.contains (pattern.fold value) (pattern.fold text)
  | .startsWith value => Text.startsWith (pattern.fold value) (pattern.fold text)
  | .endsWith value => Text.endsWith (pattern.fold value) (pattern.fold text)
  | .regex expression => expression.matchesIn text
  | .present wanted => wanted

/-- Whether a text, or its absence, meets the pattern. -/
def accepts (pattern : Pattern) : Option String → Bool
  | some text => pattern.acceptsText text
  | none =>
      match pattern.condition with
      | .present wanted => !wanted
      | _ => false

/-- The score of a text or its absence. -/
def score (pattern : Pattern) (text : Option String) : Score :=
  Score.ofBool (pattern.accepts text)

/-- The score of a field with several values: each pattern takes its best value, and the
operator joins the patterns.  A field without values is absent. -/
def scoreValues (operator : Operator) (patterns : List Pattern) (values : List String) : Score :=
  if values.isEmpty then operator.aggregate (patterns.map fun pattern => pattern.score none)
  else
    operator.aggregate <| patterns.map fun pattern =>
      (values.map fun value => pattern.score (some value)).foldl Score.max Score.mismatch

end Pattern

end Understudy
