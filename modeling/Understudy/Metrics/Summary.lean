import Understudy.Metrics.Counting

/-!
# Summary of the metrics

The counts under short names, without those that are zero: requests by method and outcome for
the common methods, failures by kind, recordings, and the number of registered mappings.
-/

namespace Understudy

/-- All outcomes. -/
def Outcome.all : List Outcome :=
  [.matched, .unmatched, .proxied, .proxyError]

namespace Metrics

/-- The methods that the summary counts. -/
def commonMethods : List String :=
  ["GET", "POST", "PUT", "DELETE", "PATCH", "HEAD", "OPTIONS"]

/-- The counts of requests. -/
def requestCounts (metrics : Metrics) : List (String × Int) :=
  commonMethods.flatMap fun method =>
    Outcome.all.map fun outcome =>
      (method ++ " " ++ outcome.label, metrics.requestCount method outcome.label)

/-- The other counts. -/
def otherCounts (metrics : Metrics) : List (String × Int) :=
  [("matcher_error", metrics.matcherErrorCount "matcher_error"),
    ("panic", metrics.matcherErrorCount "panic"), ("recorded", metrics.recorded),
    ("registered", metrics.registered)]

/-- The counts that are not zero. -/
def summary (metrics : Metrics) : List (String × Int) :=
  (metrics.requestCounts ++ metrics.otherCounts).filter fun entry => entry.2 ≠ 0

end Metrics

end Understudy
