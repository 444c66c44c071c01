import Understudy.Decimal.Notation
import Understudy.Identifier
import Understudy.Instant
import Understudy.Matching.RequestMatcher
import Understudy.Matching.Result
import Understudy.Response

/-!
# Mappings

A mapping joins conditions on a request with the response to give, and says when and how often
it takes part.  `validate` states what a mapping must satisfy to be registered, and `evaluate`
sorts the outcome of its conditions: a panic comes before failures, and failures before a
result.
-/

namespace Understudy

/-- A mapping. -/
structure Mapping where
  id : Identifier
  title : Option String
  description : Option String
  matcher : RequestMatcher
  respond : Request → Response
  /-- Among perfect matches the lower value wins. -/
  priority : Int
  /-- The share of requests in which the mapping takes part; always when absent. -/
  probability : Option Float
  scenario : Option String
  /-- The state of the scenario in which the mapping matches. -/
  requiredState : Option String
  /-- The state to which a win moves the scenario. -/
  nextState : Option String
  /-- The wins that the move takes. -/
  winsInState : Option UInt32
  isAdmin : Bool
  updatedAt : Instant
  window : Option ValidityWindow

/-- Why a mapping is not registered. -/
inductive MappingError where
  | probabilityOutside (id : Identifier) (probability : Float)
  | pathWithoutSlash (id : Identifier) (path : String)
  | noWins (id : Identifier)

/-- The wording of a mapping error. -/
def MappingError.message : MappingError → String
  | .probabilityOutside id probability =>
      "mapping " ++ id.text ++ ": probability " ++ Decimal.text Decimal.plain probability ++
        " is outside [0, 1]"
  | .pathWithoutSlash id path =>
      "mapping " ++ id.text ++ ": path '" ++ path ++ "' must start with '/'"
  | .noWins id => "mapping " ++ id.text ++ ": times in same state must be at least 1"

/-- Why a mapping takes no part in a resolution. -/
inductive EvaluationFailure where
  | matcher (errors : List MatcherError)
  | panicked (text : String)
  deriving DecidableEq, Repr

/-- The wording of an evaluation failure. -/
def EvaluationFailure.message : EvaluationFailure → String
  | .matcher errors =>
      toString errors.length ++ " matcher error(s): " ++
        "; ".intercalate (errors.map MatcherError.message)
  | .panicked text => "matcher panicked: " ++ text

namespace Mapping

/-- The priority of a mapping that sets none. -/
def defaultPriority : Int := 0

/-- The priority of recordings, behind every other. -/
def recordingPriority : Int := 2147483647

/-- A mapping with an identifier and conditions, and all else at its default. -/
def new (id : Identifier) (matcher : RequestMatcher) : Mapping where
  id := id
  title := none
  description := none
  matcher := matcher
  respond := fun _ => Response.new 200
  priority := defaultPriority
  probability := none
  scenario := none
  requiredState := none
  nextState := none
  winsInState := none
  isAdmin := false
  updatedAt := Instant.epoch
  window := none

instance : Inhabited Mapping := ⟨new default default⟩

/-- Whether the mapping takes part at an instant. -/
def isTimeValid (mapping : Mapping) (now : Instant) : Bool :=
  mapping.window.all fun window => window.isValidAt now mapping.updatedAt

/-- A probability between zero and one; a NaN is none. -/
def isProbability (probability : Float) : Bool :=
  0 ≤ probability && probability ≤ 1

/-- A literal path that a request can have. -/
def isPath (path : String) : Bool :=
  !Text.isBlankText path && path.toList.head? == some '/'

/-- The literal paths of the conditions. -/
def literalPaths (mapping : Mapping) : List String :=
  mapping.matcher.path.toList.flatMap Matching.ValueMatcher.literals

/-- What keeps the mapping from being registered, if anything: its probability, then its paths,
then its count of wins. -/
def problem? (mapping : Mapping) : Option MappingError :=
  match mapping.probability.filter fun probability => !isProbability probability with
  | some probability => some (.probabilityOutside mapping.id probability)
  | none =>
      match mapping.literalPaths.find? fun path => !isPath path with
      | some path => some (.pathWithoutSlash mapping.id path)
      | none => if mapping.winsInState = some 0 then some (.noWins mapping.id) else none

/-- The mapping itself, if it can be registered. -/
def validate (mapping : Mapping) : Except MappingError Unit :=
  match mapping.problem? with
  | some problem => .error problem
  | none => .ok ()

/-- What a log calls the mapping: its title, or else its identifier. -/
def label (mapping : Mapping) : String :=
  mapping.title.getD mapping.id.text

/-- The conditions in the order of evaluation; a mapping of a scenario checks its state last. -/
def checks (mapping : Mapping) : List Check :=
  mapping.matcher.checks ++
    mapping.scenario.toList.map fun _ => RequestMatcher.stateCheck mapping.requiredState

/-- The verdicts of all conditions, with the names of the matchers. -/
def verdicts (mapping : Mapping) (request : Request) (gating : Option String) :
    List (String × Verdict) :=
  mapping.checks.map fun check => (check.name, check.judge request gating)

/-- The result of the verdicts, recorded one after another up to a panic, which leaves none. -/
def collect (verdicts : List (String × Verdict)) : Except (Option String) MatchResult :=
  verdicts.foldlM MatchResult.record ⟨[]⟩

/-- How well a request meets the conditions, under the gating state of the scenario. -/
def matchRequest (mapping : Mapping) (request : Request) (gating : Option String) :
    Except (Option String) MatchResult :=
  collect (mapping.verdicts request gating)

/-- The text that stands for a panic without one. -/
def unknownPanic : String := "unknown panic"

/-- The result for a request, or why the mapping takes no part. -/
def evaluate (mapping : Mapping) (request : Request) (gating : Option String) :
    Except EvaluationFailure MatchResult :=
  match mapping.matchRequest request gating with
  | .error text => .error (.panicked (text.getD unknownPanic))
  | .ok result => if result.hasErrors then .error (.matcher result.errors) else .ok result

end Mapping

end Understudy
