/-!
# Random draws

A source of numbers for sampling, as the numbers of all draws to come and the count of draws
made.  The replaying source repeats a list; an empty list gives zeros.  It finds its place in the
list by a count of 64 bits, which starts again at zero.
-/

namespace Understudy

/-- A source of draws. -/
structure Draws where
  /-- The number of each draw, counted from zero. -/
  value : Nat → Float
  /-- The draws made so far. -/
  made : Nat

namespace Draws

/-- The source that repeats a list of numbers. -/
def replaying (values : List Float) : Draws where
  value := fun draw => (values[draw % 0x10000000000000000 % values.length]?).getD 0
  made := 0

instance : Inhabited Draws := ⟨replaying []⟩

/-- The next number and the source behind it. -/
def next (draws : Draws) : Float × Draws :=
  (draws.value draws.made, { draws with made := draws.made + 1 })

/-- The next numbers in order, and the source behind them. -/
def take : Nat → Draws → List Float × Draws
  | 0, draws => ([], draws)
  | count + 1, draws =>
      let (value, behind) := draws.next
      let (values, rest) := take count behind
      (value :: values, rest)

end Draws

end Understudy
