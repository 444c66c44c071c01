import Understudy.Mapping

/-!
# Ranking of candidates

The two orders among the mappings that were evaluated for a request.  The closest match goes by
the quality of the match first, the best perfect match by priority first; both end with the
probability, the higher first and an absent one last, and the latest update.  Sorting is stable,
so the order of registration decides the rest.
-/

namespace Understudy

/-- A mapping and how well it matched. -/
structure Candidate where
  mapping : Mapping
  result : MatchResult

namespace Candidate

/-- The place of a probability, descending, with an absent one behind all others. -/
def probabilityPlace (candidate : Candidate) : Int :=
  match candidate.mapping.probability with
  | some probability => -(Score.place probability)
  | none => 0x10000000000000000

/-- The order of what decides last: the probability, then the last update, from late to early. -/
def tailOrder : Candidate → Candidate → Ordering :=
  compareLex (compareOn probabilityPlace)
    (compareOn fun candidate => -candidate.mapping.updatedAt.place)

/-- The order in which the closest match comes first.  The number of conditions is compared once
more behind the quality, which ends with it. -/
def closestOrder : Candidate → Candidate → Ordering :=
  compareLex (fun first second => MatchResult.rank first.result second.result) <|
    compareLex (compareOn fun candidate => candidate.result.count) <|
      compareLex (compareOn fun candidate => candidate.mapping.priority) tailOrder

/-- The order in which the best perfect match comes first. -/
def perfectOrder : Candidate → Candidate → Ordering :=
  compareLex (compareOn fun candidate => candidate.mapping.priority) <|
    compareLex (fun first second => MatchResult.rank first.result second.result) <|
      compareLex (compareOn fun candidate => candidate.result.count) tailOrder

/-- A candidate that can be the closest match: it scores, and it is perfect if its mapping
belongs to the administration. -/
def canBeClosest (candidate : Candidate) : Bool :=
  (!candidate.mapping.isAdmin || candidate.result.isPerfect) && 0 < candidate.result.average

end Candidate

/-- The candidates sorted, equal ones in their given order. -/
def sortCandidates (order : Candidate → Candidate → Ordering) (candidates : List Candidate) :
    List Candidate :=
  candidates.mergeSort fun first second => (order first second).isLE

/-- The candidates that can be the closest match, the closest first. -/
def rankClosest (candidates : List Candidate) : List Candidate :=
  sortCandidates Candidate.closestOrder (candidates.filter Candidate.canBeClosest)

/-- The perfect candidates, the best first. -/
def rankPerfect (candidates : List Candidate) : List Candidate :=
  sortCandidates Candidate.perfectOrder
    (candidates.filter fun candidate => candidate.result.isPerfect)

end Understudy
