import Understudy.Matching.Verdict

/-!
# Match results

The outcome of every condition of a mapping, in order.  A failed condition counts as no match
and keeps its error.  Results are ranked by their average score, the higher first, and then by
the number of conditions, the fewer first.
-/

namespace Understudy

/-- The outcome of one condition. -/
structure Detail where
  matcher : String
  score : Score
  error : Option MatcherError

/-- The outcomes of all conditions. -/
structure MatchResult where
  details : List Detail

namespace MatchResult

instance : Inhabited MatchResult := ⟨⟨[]⟩⟩

/-- The result with the outcome of one more condition; a panic leaves none. -/
def record (result : MatchResult) : String × Verdict → Except (Option String) MatchResult
  | (name, .scored score) => .ok ⟨result.details ++ [⟨name, score.clamp, none⟩]⟩
  | (name, .failed error) => .ok ⟨result.details ++ [⟨name, Score.mismatch, some error⟩]⟩
  | (_, .panicked text) => .error text

/-- The result of a list of scores from one matcher. -/
def ofScores (matcher : String) (scores : List Score) : MatchResult :=
  ⟨scores.map fun score => ⟨matcher, score.clamp, none⟩⟩

/-- The scores in order. -/
def scores (result : MatchResult) : List Score :=
  result.details.map Detail.score

/-- The errors in order. -/
def errors (result : MatchResult) : List MatcherError :=
  result.details.filterMap Detail.error

/-- Whether some condition failed. -/
def hasErrors (result : MatchResult) : Bool :=
  !result.errors.isEmpty

/-- The number of conditions. -/
def count (result : MatchResult) : Nat :=
  result.details.length

/-- The sum of the scores. -/
def total (result : MatchResult) : Score :=
  Score.total result.scores

/-- The mean score, and no match where there is no condition. -/
def average (result : MatchResult) : Score :=
  Score.average result.scores

/-- Whether every condition matched in full. -/
def isPerfect (result : MatchResult) : Bool :=
  result.details.all fun detail => detail.score == Score.perfect

/-- The better result comes first: higher average, then fewer conditions. -/
def rank : MatchResult → MatchResult → Ordering :=
  compareLex (compareOn fun result => -(Score.place result.average))
    (compareOn fun result => result.count)

end MatchResult

end Understudy
