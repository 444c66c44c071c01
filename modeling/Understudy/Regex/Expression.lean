import Understudy.Regex.CharSet

/-!
# Regular expressions

Expressions over characters, and whether one matches somewhere in a subject.  A set of places
in the subject is a number: bit `i` stands for the place before character `i`.  An expression is
first laid over the subject, which finds the places of every class and anchor once; `reach` then
takes the places where a match may start to the places where it may end, one expression at a
time, so a match costs no backtracking.
-/

namespace Understudy.Regex

/-- A condition on a place that reads no character. -/
inductive Anchor where
  | startText
  | endText
  | startLine
  | endLine
  | startAnyLine
  | endAnyLine
  | wordBoundary (ascii : Bool)
  | noWordBoundary (ascii : Bool)
  | wordStart (ascii : Bool)
  | wordEnd (ascii : Bool)
  | wordStartHalf (ascii : Bool)
  | wordEndHalf (ascii : Bool)
  deriving DecidableEq, Repr

/-- A regular expression. -/
inductive Expression where
  | empty
  | oneOf (set : CharSet)
  | anchor (anchor : Anchor)
  | sequence (first second : Expression)
  | choice (first second : Expression)
  | repeated (body : Expression) (least : Nat) (most : Option Nat)
  | group (body : Expression)
  deriving Inhabited, Repr

/-- Whether a neighbour of a place is a word character. -/
def isWord (ascii : Bool) (neighbour : Option Char) : Bool :=
  match neighbour with
  | none => false
  | some c => if ascii then asciiWordSet.holds c.toNat else wordSet.holds c.toNat

/-- Whether the condition holds between two neighbours. -/
def Anchor.holds (anchor : Anchor) (before after : Option Char) : Bool :=
  match anchor with
  | .startText => before.isNone
  | .endText => after.isNone
  | .startLine => before.isNone || before == some '\n'
  | .endLine => after.isNone || after == some '\n'
  | .startAnyLine =>
      before.isNone || before == some '\n' || (before == some '\r' && after != some '\n')
  | .endAnyLine =>
      after.isNone || after == some '\r' || (after == some '\n' && before != some '\r')
  | .wordBoundary ascii => isWord ascii before != isWord ascii after
  | .noWordBoundary ascii => isWord ascii before == isWord ascii after
  | .wordStart ascii => !isWord ascii before && isWord ascii after
  | .wordEnd ascii => isWord ascii before && !isWord ascii after
  | .wordStartHalf ascii => !isWord ascii before
  | .wordEndHalf ascii => !isWord ascii after

/-- The places before a character that satisfies `test`, where `place` is the first bit. -/
def placesBefore (test : Char → Bool) : Nat → List Char → Nat
  | _, [] => 0
  | place, c :: rest =>
      (if test c then 1 <<< place else 0) ||| placesBefore test (place + 1) rest

/-- The places at which an anchor holds, where `place` is the first bit. -/
def placesAt (anchor : Anchor) : Option Char → Nat → List Char → Nat
  | before, place, [] => if anchor.holds before none then 1 <<< place else 0
  | before, place, c :: rest =>
      (if anchor.holds before (some c) then 1 <<< place else 0) |||
        placesAt anchor (some c) (place + 1) rest

/-- An expression laid over a subject: classes and anchors are the places where they hold. -/
inductive Overlay where
  | empty
  | reads (places : Nat)
  | stays (places : Nat)
  | sequence (first second : Overlay)
  | choice (first second : Overlay)
  | repeated (body : Overlay) (least most : Nat)

/-- The expression laid over a subject.  A repetition without an upper bound needs no more rounds
than there are places. -/
def Expression.over (subject : List Char) : Expression → Overlay
  | .empty => .empty
  | .oneOf set => .reads (placesBefore (fun c => set.holds c.toNat) 0 subject)
  | .anchor condition => .stays (placesAt condition none 0 subject)
  | .sequence first second => .sequence (first.over subject) (second.over subject)
  | .choice first second => .choice (first.over subject) (second.over subject)
  | .repeated body least most =>
      .repeated (body.over subject) least (most.getD (least + subject.length + 1))
  | .group body => body.over subject

/-- Adds to `reached` what `step` reaches from the places in `fresh`, and from what is new by
that again and again, at most `rounds` times. -/
def spread (step : Nat → Nat) : Nat → Nat → Nat → Nat
  | 0, reached, _ => reached
  | rounds + 1, reached, fresh =>
      let next := step fresh
      let added := next ^^^ (next &&& reached)
      if added = 0 then reached else spread step rounds (reached ||| added) added

/-- Applies `step` a number of times, as long as places are left. -/
def iterate (step : Nat → Nat) : Nat → Nat → Nat
  | 0, places => places
  | count + 1, places => if places = 0 then 0 else iterate step count (step places)

/-- The places where a match can end that starts at one of the given places. -/
def Overlay.reach : Overlay → Nat → Nat
  | .empty, places => places
  | .reads wanted, places => (places &&& wanted) <<< 1
  | .stays wanted, places => places &&& wanted
  | .sequence first second, places => second.reach (first.reach places)
  | .choice first second, places => first.reach places ||| second.reach places
  | .repeated body least most, places =>
      let started := iterate body.reach least places
      spread body.reach (most - least) started started

/-- Whether the expression matches anywhere in the text. -/
def Expression.matchesIn (expression : Expression) (text : String) : Bool :=
  let subject := text.toList
  (expression.over subject).reach (1 <<< (subject.length + 1) - 1) != 0

/-- A measure of the states that an expression stands for, with its repetitions written out
as often as they have to be told apart. -/
def Expression.size : Expression → Nat
  | .empty => 1
  | .oneOf set => if set.size ≤ 1 then 1 else 2 * set.size
  | .anchor _ => 1
  | .sequence first second => first.size + second.size
  | .choice first second => 1 + first.size + second.size
  | .repeated body least none => 1 + body.size * max least 1
  | .repeated body least (some most) => 1 + body.size * most + (most - least)
  | .group body => body.size

/-- How deep the expression is nested: every group, repetition, sequence and choice is a level,
where a sequence or choice of many parts is a single one. -/
def Expression.depth : Expression → Nat
  | .empty => 0
  | .oneOf _ => 0
  | .anchor _ => 0
  | .sequence first second =>
      max (first.depth + 1)
        (match second with
        | .sequence _ _ => second.depth
        | _ => second.depth + 1)
  | .choice first second =>
      max
        (match first with
        | .choice _ _ => first.depth
        | _ => first.depth + 1)
        (second.depth + 1)
  | .repeated body _ _ => body.depth + 1
  | .group body => body.depth + 1

end Understudy.Regex
