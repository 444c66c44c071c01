import Understudy.Decimal.Notation
import Understudy.Metrics.Counting

/-!
# Exposition of metrics

The text in which metrics are read out: for each family a line of help, a line with its type, and
one line for each sample.  The families come in the order of their names.
-/

namespace Understudy.Metrics

/-- One sample: its name with labels, and its value. -/
structure Sample where
  name : String
  value : Float

/-- The samples of one metric, with what they mean. -/
structure Family where
  name : String
  help : String
  kind : String
  samples : List Sample

/-- The value of a label with its special characters escaped. -/
def escapeLabel (value : String) : String :=
  String.ofList <| value.toList.flatMap fun c =>
    match c with
    | '\\' => ['\\', '\\']
    | '"' => ['\\', '"']
    | '\n' => ['\\', 'n']
    | other => [other]

/-- A name with labels. -/
def labelled (name : String) (labels : List (String × String)) : String :=
  let texts := labels.map fun (label, value) => label ++ "=\"" ++ escapeLabel value ++ "\""
  name ++ "\x7b" ++ ",".intercalate texts ++ "\x7d"

/-- The samples of one histogram. -/
def histogramSamples (name outcome : String) (histogram : Histogram) : List Sample :=
  let bucket := fun bound : String =>
    labelled (name ++ "_bucket") [("outcome", outcome), ("le", bound)]
  (histogram.buckets.map fun (bound, count) =>
      ⟨bucket (Decimal.text Decimal.plain bound), Float.ofNat count⟩) ++
    [⟨bucket "+Inf", Float.ofNat histogram.count⟩,
      ⟨labelled (name ++ "_sum") [("outcome", outcome)], histogram.sum⟩,
      ⟨labelled (name ++ "_count") [("outcome", outcome)], Float.ofNat histogram.count⟩]

/-- The families in the order of their names. -/
def families (metrics : Metrics) : List Family :=
  [{ name := "mockingbird_matcher_errors_total"
     help := "Total number of mapping evaluations excluded due to matcher failures"
     kind := "counter"
     samples := metrics.matcherErrors.map fun (kind, count) =>
       ⟨labelled "mockingbird_matcher_errors_total" [("kind", kind)], Float.ofNat count⟩ },
    { name := "mockingbird_recorded_mappings_total"
      help := "Total number of mappings recorded from proxied exchanges"
      kind := "counter"
      samples := [⟨"mockingbird_recorded_mappings_total", Float.ofNat metrics.recorded⟩] },
    { name := "mockingbird_registered_mappings"
      help := "Number of mappings currently registered"
      kind := "gauge"
      samples := [⟨"mockingbird_registered_mappings", Float.ofInt metrics.registered⟩] },
    { name := "mockingbird_requests_total"
      help := "Total number of requests handled"
      kind := "counter"
      samples := metrics.requests.map fun ((method, outcome), count) =>
        ⟨labelled "mockingbird_requests_total" [("method", method), ("outcome", outcome)],
          Float.ofNat count⟩ },
    { name := "mockingbird_resolution_duration_us"
      help := "Histogram of mapping resolution time in microseconds"
      kind := "histogram"
      samples := metrics.resolutions.flatMap fun (outcome, histogram) =>
        histogramSamples "mockingbird_resolution_duration_us" outcome histogram }]

/-- The two lines that describe a family. -/
def Family.description (family : Family) : List String :=
  ["# HELP " ++ family.name ++ " " ++ family.help, "# TYPE " ++ family.name ++ " " ++ family.kind]

/-- The line of a sample. -/
def Sample.line (sample : Sample) : String :=
  sample.name ++ " " ++ Decimal.text Decimal.plain sample.value

/-- The text of all metrics that have samples. -/
def exposition (metrics : Metrics) : String :=
  let lines := (metrics.families.filter fun family => !family.samples.isEmpty).flatMap
    fun family => family.description ++ family.samples.map Sample.line
  "".intercalate (lines.map fun line => line ++ "\n")

end Understudy.Metrics
