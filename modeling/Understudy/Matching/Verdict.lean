import Understudy.Request
import Understudy.Score

/-!
# Verdicts

What one matcher says of a request: a score, a failure, or a panic with what it left behind.  A
`Check` is a named matcher, a function of the request and of the state that gates the mapping.
-/

namespace Understudy

/-- Why a matcher could not give a score. -/
inductive MatcherError where
  | malformedBody (expected reason : String)
  | failed (matcher message : String)
  deriving DecidableEq, Repr

/-- The wording of a matcher error. -/
def MatcherError.message : MatcherError → String
  | .malformedBody expected reason => "request body is not valid " ++ expected ++ ": " ++ reason
  | .failed matcher message => matcher ++ " failed: " ++ message

/-- The outcome of one matcher; the text of a panic is there only if the panic left one. -/
inductive Verdict where
  | scored (score : Score)
  | failed (error : MatcherError)
  | panicked (text : Option String)

/-- A named matcher. -/
structure Check where
  name : String
  judge : Request → Option String → Verdict

instance : Inhabited Check := ⟨⟨"", fun _ _ => .scored 0⟩⟩

end Understudy
