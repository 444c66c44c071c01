import Understudy.Mapping

/-!
# Events

What an operation reports beside its result: changes of the metrics, and lines for the log.
-/

namespace Understudy

/-- How a request was answered. -/
inductive Outcome where
  | matched
  | unmatched
  | proxied
  | proxyError
  deriving DecidableEq, Repr

/-- The label of an outcome. -/
def Outcome.label : Outcome → String
  | .matched => "matched"
  | .unmatched => "unmatched"
  | .proxied => "proxied"
  | .proxyError => "proxy_error"

/-- The label of an evaluation failure. -/
def EvaluationFailure.kind : EvaluationFailure → String
  | .matcher _ => "matcher_error"
  | .panicked _ => "panic"

/-- A line of the log that is worth attention.  Lines about a mapping carry its identifier, and those
of its evaluation also its title. -/
inductive LogLine where
  | matcherFailed (mapping : Identifier) (title : Option String) (error : MatcherError)
  | matcherPanicked (mapping : Identifier) (title : Option String) (text : String)
  | resolutionFailed (mapping : Identifier) (text : String)
  | proxyFailed (causes : List String)
  | recordingRejected (error : MappingError)
  | proxyUrlMissing

/-- The level of a line. -/
def LogLine.level : LogLine → String
  | .matcherFailed _ _ _ => "ERROR"
  | .matcherPanicked _ _ _ => "ERROR"
  | .resolutionFailed _ _ => "ERROR"
  | .proxyFailed _ => "WARN"
  | .recordingRejected _ => "WARN"
  | .proxyUrlMissing => "WARN"

/-- The text of a line. -/
def LogLine.text : LogLine → String
  | .matcherFailed _ _ error => "Matcher failed: " ++ error.message
  | .matcherPanicked _ _ text => "Matcher panicked: " ++ text
  | .resolutionFailed _ text => "Resolution failed for mapping: " ++ text
  | .proxyFailed causes => "Proxy request failed: " ++ ": ".intercalate causes
  | .recordingRejected error => "Failed to save proxy mapping: " ++ error.message
  | .proxyUrlMissing =>
      "Record mode settings are set but proxy.url is missing; proxying stays off"

/-- Something to report. -/
inductive Event where
  /-- A request was answered. -/
  | request (method outcome : String)
  /-- A mapping was left out of a resolution. -/
  | matcherError (kind : String)
  /-- A recording was registered. -/
  | recorded
  /-- The number of registered mappings changed. -/
  | registered (difference : Int)
  /-- A resolution took some microseconds. -/
  | resolution (outcome : String) (microseconds : Float)
  | log (line : LogLine)

/-- The line of the log that an event is, if it is one. -/
def Event.line? : Event → Option LogLine
  | .log line => some line
  | _ => none

/-- The lines that report the evaluation failure of a mapping: one for each error, or one for the
panic. -/
def EvaluationFailure.lines (failure : EvaluationFailure) (mapping : Mapping) : List LogLine :=
  match failure with
  | .matcher errors => errors.map (.matcherFailed mapping.id mapping.title)
  | .panicked text => [.matcherPanicked mapping.id mapping.title text]

end Understudy
