import Understudy.Event

/-!
# Metrics

Counters that events move.  Requests are counted by method and outcome, left-out mappings by
kind, recordings once each; the gauge of registered mappings moves by differences, and the time
of resolutions goes into a histogram by outcome.

All counts are whole numbers without a bound.  Counters that are kept as doubles agree with them up
to 2 ^ 53, counters and buckets of 64 bits below 2 ^ 64, and a signed gauge of 64 bits between
-2 ^ 63 and 2 ^ 63.
-/

namespace Understudy

/-- The counts of observations up to each bound, in order, and all observations together. -/
structure Histogram where
  buckets : List (Float × Nat)
  count : Nat
  sum : Float

namespace Histogram

/-- The bounds of the buckets in microseconds. -/
def bounds : List Float := [5, 10, 25, 50, 100, 250, 500, 1000, 5000]

/-- The histogram without observations. -/
def empty : Histogram where
  buckets := bounds.map fun bound => (bound, 0)
  count := 0
  sum := 0

/-- The histogram with one more observation, counted in every bucket whose bound it does not
exceed. -/
def observe (histogram : Histogram) (value : Float) : Histogram where
  buckets := histogram.buckets.map fun (bound, count) =>
    (bound, if value ≤ bound then count + 1 else count)
  count := histogram.count + 1
  sum := histogram.sum + value

end Histogram

/-- All metrics. -/
structure Metrics where
  requests : List ((String × String) × Nat)
  matcherErrors : List (String × Nat)
  recorded : Nat
  registered : Int
  resolutions : List (String × Histogram)

namespace Metrics

/-- The metrics before any event. -/
def zero : Metrics where
  requests := []
  matcherErrors := []
  recorded := 0
  registered := 0
  resolutions := []

/-- The cells with the one of a label changed, or added after the others. -/
def changeCell {α β : Type} [BEq α] (label : α) (start : β) (change : β → β) :
    List (α × β) → List (α × β)
  | [] => [(label, change start)]
  | (other, value) :: rest =>
      if other == label then (other, change value) :: rest
      else (other, value) :: changeCell label start change rest

/-- The metrics after an event. -/
def record (metrics : Metrics) : Event → Metrics
  | .request method outcome =>
      { metrics with requests := changeCell (method, outcome) 0 (· + 1) metrics.requests }
  | .matcherError kind =>
      { metrics with matcherErrors := changeCell kind 0 (· + 1) metrics.matcherErrors }
  | .recorded => { metrics with recorded := metrics.recorded + 1 }
  | .registered difference => { metrics with registered := metrics.registered + difference }
  | .resolution outcome microseconds =>
      { metrics with
        resolutions :=
          changeCell outcome Histogram.empty (fun histogram => histogram.observe microseconds)
            metrics.resolutions }
  | .log _ => metrics

/-- The metrics after some events. -/
def recordAll (metrics : Metrics) (events : List Event) : Metrics :=
  events.foldl record metrics

/-- The number of requests with a method and an outcome. -/
def requestCount (metrics : Metrics) (method outcome : String) : Nat :=
  (metrics.requests.lookup (method, outcome)).getD 0

/-- The number of left-out mappings of a kind. -/
def matcherErrorCount (metrics : Metrics) (kind : String) : Nat :=
  (metrics.matcherErrors.lookup kind).getD 0

end Metrics

end Understudy
