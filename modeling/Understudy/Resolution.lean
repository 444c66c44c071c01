import Understudy.Draws
import Understudy.Event
import Understudy.Ranking
import Understudy.Registry
import Understudy.Scenario

/-!
# Resolution

Which mapping answers a request.  Mappings outside their window are left out, and so are those
that sampling leaves out: one draw is made for each mapping in its window with a positive
probability.  The others are evaluated under the current state of their scenario; failures are
reported and take no further part.  The strict mode answers with the best perfect match, the
permissive mode with the closest match.

An evaluation contains the panics of its conditions.  What a panic leaves has to be thrown away,
though, and where that panics in turn, the second panic comes through the evaluation and ends at the
mapping.
-/

namespace Understudy

/-- How requests are resolved. -/
structure MatchingSettings where
  /-- Whether the closest match answers where no match is perfect. -/
  allowPartial : Bool
  /-- Requests below this path report no matcher failures to the log. -/
  adminPathPrefix : String
  deriving DecidableEq, Repr

instance : Inhabited MatchingSettings := ⟨⟨false, "/__admin"⟩⟩

/-- The answer to a request. -/
structure Resolution where
  /-- The candidate that answers. -/
  matched : Option Candidate
  /-- The closest candidate, whether or not one answers. -/
  closest : Option Candidate

/-- Whether a mapping takes part, and the source behind the draw that this may take. -/
def sampleOne (now : Instant) (mapping : Mapping) (draws : Draws) : Bool × Draws :=
  if !mapping.isTimeValid now then (false, draws)
  else
    match mapping.probability with
    | none => (true, draws)
    | some probability =>
        if probability ≤ 0 then (false, draws)
        else
          let (value, behind) := draws.next
          (value ≤ probability, behind)

/-- The mappings that take part, in order, and the source behind all draws. -/
def sample (now : Instant) : List Mapping → Draws → List Mapping × Draws
  | [], draws => ([], draws)
  | mapping :: rest, draws =>
      let (takesPart, behind) := sampleOne now mapping draws
      let (others, last) := sample now rest behind
      (if takesPart then mapping :: others else others, last)

/-- The state that gates a mapping. -/
def gatingState (store : ScenarioStore) (mapping : Mapping) : Option String :=
  mapping.scenario.bind store.currentState

/-- The outcome of one mapping for a request. -/
def evaluateIn (store : ScenarioStore) (request : Request) (mapping : Mapping) :
    Except EvaluationFailure MatchResult :=
  mapping.evaluate request (gatingState store mapping)

/-- The candidate that a mapping becomes, if its evaluation succeeds. -/
def candidate? (store : ScenarioStore) (request : Request) (mapping : Mapping) :
    Option Candidate :=
  match evaluateIn store request mapping with
  | .ok result => some ⟨mapping, result⟩
  | .error _ => none

/-- What becomes of the remains of a panic, by the mapping that panicked: they are thrown away, or
that panics in turn, which leaves a text or something else that is thrown away. -/
abbrev Disposal := Mapping → Option (Option String)

/-- Why a mapping that takes part does not become a candidate. -/
inductive FailureCause where
  /-- Its evaluation says why. -/
  | evaluation (failure : EvaluationFailure)
  /-- A panic with some text came through its evaluation. -/
  | unwinding (text : String)

/-- A mapping that takes part and does not become a candidate. -/
structure Failure where
  mapping : Mapping
  cause : FailureCause

/-- The failure of a mapping, if it does not become a candidate. -/
def failure? (disposal : Disposal) (store : ScenarioStore) (request : Request)
    (mapping : Mapping) : Option Failure :=
  match evaluateIn store request mapping with
  | .ok _ => none
  | .error (.matcher errors) => some ⟨mapping, .evaluation (.matcher errors)⟩
  | .error (.panicked text) =>
      match disposal mapping with
      | none => some ⟨mapping, .evaluation (.panicked text)⟩
      | some again => some ⟨mapping, .unwinding (again.getD Mapping.unknownPanic)⟩

/-- The answer among the candidates. -/
def resolveAmong (settings : MatchingSettings) (candidates : List Candidate) : Resolution :=
  let closest := (rankClosest candidates).head?
  { closest := closest
    matched := if settings.allowPartial then closest else (rankPerfect candidates).head? }

namespace Failure

/-- The label of a failure. -/
def kind (failure : Failure) : String :=
  match failure.cause with
  | .evaluation outcome => outcome.kind
  | .unwinding _ => "panic"

/-- The lines of the log for a failure.  `quiet` holds back what an evaluation reports, and nothing
else. -/
def lines (quiet : Bool) (failure : Failure) : List LogLine :=
  match failure.cause with
  | .evaluation outcome => if quiet then [] else outcome.lines failure.mapping
  | .unwinding text => [.resolutionFailed failure.mapping.id text]

/-- The reports of a failure. -/
def events (quiet : Bool) (failure : Failure) : List Event :=
  .matcherError failure.kind :: (failure.lines quiet).map .log

end Failure

/-- A resolution, the source behind its draws, and its reports. -/
structure Resolving where
  resolution : Resolution
  draws : Draws
  events : List Event

/-- Resolves a request at an instant, with what becomes of the remains of panics. -/
def resolveUnder (disposal : Disposal) (settings : MatchingSettings) (registry : Registry)
    (store : ScenarioStore) (draws : Draws) (request : Request) (now : Instant) : Resolving :=
  let (eligible, behind) := sample now registry.mappings draws
  let quiet := request.pathStartsWith settings.adminPathPrefix
  { resolution := resolveAmong settings (eligible.filterMap (candidate? store request))
    draws := behind
    events := (eligible.filterMap (failure? disposal store request)).flatMap (Failure.events quiet) }

/-- Resolves a request at an instant, where the remains of panics do no harm. -/
def resolveAt (settings : MatchingSettings) (registry : Registry) (store : ScenarioStore)
    (draws : Draws) (request : Request) (now : Instant) : Resolving :=
  resolveUnder (fun _ => none) settings registry store draws request now

end Understudy
