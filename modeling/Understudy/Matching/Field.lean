import Understudy.Matching.Verdict
import Understudy.Pattern

/-!
# Matchers of single parts

The matchers of the method, the path, one query parameter, one header, one cookie, the client's
address and the state of the scenario.  Each is a value with a score for a request.
-/

namespace Understudy.Matching

/-- Matches any of some methods. -/
structure MethodMatcher where
  methods : List String

/-- The matcher of the given methods, made upper case. -/
def MethodMatcher.of (methods : List String) : MethodMatcher :=
  ⟨methods.map Text.toUpper⟩

/-- The score of a method, compared up to the case of ASCII letters. -/
def MethodMatcher.score (matcher : MethodMatcher) (request : Request) : Score :=
  Score.ofBool <| matcher.methods.any fun method =>
    Text.sameIgnoringAsciiCase method request.method

/-- Matches a part that has one value: the path or the client's address. -/
structure ValueMatcher where
  operator : Operator
  patterns : List Pattern

/-- The matcher of one exact value. -/
def ValueMatcher.exact (value : String) : ValueMatcher :=
  ⟨.or, [Pattern.exact value]⟩

/-- The score of a value or of its absence. -/
def ValueMatcher.score (matcher : ValueMatcher) (value : Option String) : Score :=
  matcher.operator.aggregate (matcher.patterns.map fun pattern => pattern.score value)

/-- The values of the exact patterns. -/
def ValueMatcher.literals (matcher : ValueMatcher) : List String :=
  matcher.patterns.filterMap Pattern.exactValue?

/-- Matches a named part with any number of values: a query parameter or a header. -/
structure FieldMatcher where
  name : String
  operator : Operator
  patterns : List Pattern

/-- The matcher that wants each of the given values. -/
def FieldMatcher.exact (name : String) (values : List String) : FieldMatcher :=
  ⟨name, .average, values.map Pattern.exact⟩

/-- The score of a query parameter; without patterns it only has to be there. -/
def FieldMatcher.scoreParameter (matcher : FieldMatcher) (request : Request) : Score :=
  let values := (request.query.find? matcher.name).getD []
  if matcher.patterns.isEmpty then Score.ofBool !values.isEmpty
  else Pattern.scoreValues matcher.operator matcher.patterns values

/-- The score of a header, its name in any case. -/
def FieldMatcher.scoreHeader (matcher : FieldMatcher) (request : Request) : Score :=
  Pattern.scoreValues matcher.operator matcher.patterns
    ((request.header? matcher.name).getD [])

/-- Matches a cookie: the best of its patterns counts. -/
structure CookieMatcher where
  name : String
  patterns : List Pattern

/-- The matcher of one exact cookie. -/
def CookieMatcher.exact (name value : String) : CookieMatcher :=
  ⟨name, [Pattern.exact value]⟩

/-- The score of a cookie. -/
def CookieMatcher.score (matcher : CookieMatcher) (request : Request) : Score :=
  Operator.or.aggregate <| matcher.patterns.map fun pattern =>
    pattern.score (request.cookies.find? matcher.name)

/-- Whether the gating state is the required one; a scenario without a gating state admits only
mappings that require none. -/
def stateSatisfied (required gating : Option String) : Bool :=
  match gating with
  | none => required.isNone
  | some current => required == some current

end Understudy.Matching
