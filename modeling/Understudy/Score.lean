/-!
# Scores

How well a request meets a condition, as a double between zero and one.  `Score.place` numbers
all doubles along one line: negative before positive, every NaN with a clear sign bit behind
infinity, and the negative zero before the positive one.  Orders of scores are orders of places.
-/

namespace Understudy

/-- How well something matched. -/
abbrev Score := Float

namespace Score

/-- The score of a full match. -/
def perfect : Score := 1

/-- The score of no match at all. -/
def mismatch : Score := 0

/-- The score of a condition that holds or does not. -/
def ofBool (matched : Bool) : Score :=
  if matched then perfect else mismatch

/-- The greater of two scores; a NaN gives way to a number. -/
def max (first second : Score) : Score :=
  if first < second then second else if first.isNaN then second else first

/-- The lesser of two scores; a NaN gives way to a number. -/
def min (first second : Score) : Score :=
  if second < first then second else if first.isNaN then second else first

/-- The score moved to the nearest end of the range from zero to one if it lies outside; a NaN
stays. -/
def clamp (score : Score) : Score :=
  if score < mismatch then mismatch else if perfect < score then perfect else score

/-- The sum from left to right; the sum of nothing is the negative zero. -/
def total (scores : List Score) : Score :=
  scores.foldl (fun sum score => sum + score) (-0.0)

/-- The sum divided by the number of scores, and no match where there is none. -/
def average (scores : List Score) : Score :=
  if scores.isEmpty then mismatch else total scores / Float.ofNat scores.length

/-- The place of a double in the order of all doubles. -/
def place (value : Float) : Int :=
  let bits := value.toBits.toNat
  if bits < 0x8000000000000000 then bits else 0x7FFFFFFFFFFFFFFF - bits

end Score

/-- How the scores of several conditions become one. -/
inductive Operator where
  /-- The best score. -/
  | or
  /-- The worst score. -/
  | and
  /-- The mean of all scores. -/
  | average
  deriving DecidableEq, Repr, Inhabited

/-- One score for several; no scores are no match. -/
def Operator.aggregate (operator : Operator) (scores : List Score) : Score :=
  if scores.isEmpty then Score.mismatch
  else
    match operator with
    | .or => scores.foldl Score.max Score.mismatch
    | .and => scores.foldl Score.min Score.perfect
    | .average => Score.average scores

end Understudy
