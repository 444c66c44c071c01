import Understudy.Body
import Understudy.CommandLine
import Understudy.Configuration
import Understudy.Configuration.File
import Understudy.Configuration.Record
import Understudy.Decimal.Notation
import Understudy.Decimal.Scaled
import Understudy.Decimal.Shortest
import Understudy.Draws
import Understudy.Engine
import Understudy.Event
import Understudy.Http.Address
import Understudy.Http.Cookie
import Understudy.Http.Location
import Understudy.Http.Query
import Understudy.Http.Token
import Understudy.Identifier
import Understudy.Instant
import Understudy.Json.Equality
import Understudy.Json.Printer
import Understudy.Json.Reader
import Understudy.Json.Value
import Understudy.Main
import Understudy.Mapping
import Understudy.Matching.BodyMatcher
import Understudy.Matching.Field
import Understudy.Matching.RequestMatcher
import Understudy.Matching.Result
import Understudy.Matching.Verdict
import Understudy.Metrics.Counting
import Understudy.Metrics.Exposition
import Understudy.Metrics.Summary
import Understudy.NameMap
import Understudy.Pattern
import Understudy.Proofs.Body
import Understudy.Proofs.Body.Classification
import Understudy.Proofs.Configuration.Loading
import Understudy.Proofs.Decimal.Scaled
import Understudy.Proofs.Double.Rounding
import Understudy.Proofs.Engine.Command
import Understudy.Proofs.Engine.Sampling
import Understudy.Proofs.History
import Understudy.Proofs.Http.Cookie
import Understudy.Proofs.Http.Fields
import Understudy.Proofs.Http.Query
import Understudy.Proofs.Json.Agreement
import Understudy.Proofs.Json.Equivalence
import Understudy.Proofs.Json.KeyOrder
import Understudy.Proofs.Json.Normalization
import Understudy.Proofs.Json.Reader
import Understudy.Proofs.Matching.Classification
import Understudy.Proofs.Matching.Evaluation
import Understudy.Proofs.Matching.Octets
import Understudy.Proofs.Metrics.Counting
import Understudy.Proofs.NameMap
import Understudy.Proofs.Pattern.Scoring
import Understudy.Proofs.Pattern.Widening
import Understudy.Proofs.Ranking.Lawfulness
import Understudy.Proofs.Ranking.Least
import Understudy.Proofs.Ranking.Stability
import Understudy.Proofs.Ranking.Thinning
import Understudy.Proofs.Ranking.Unscored
import Understudy.Proofs.Recording.Capture
import Understudy.Proofs.Recording.Convergence
import Understudy.Proofs.Recording.Exclusion
import Understudy.Proofs.Recording.Forwarding
import Understudy.Proofs.Recording.Precedence
import Understudy.Proofs.Recording.Repetition
import Understudy.Proofs.Recording.Replay
import Understudy.Proofs.Recording.Run
import Understudy.Proofs.Recording.Template
import Understudy.Proofs.Recording.UrlReplacement
import Understudy.Proofs.Registry
import Understudy.Proofs.Registry.Dictionary
import Understudy.Proofs.Registry.Gauge
import Understudy.Proofs.Request.Construction
import Understudy.Proofs.Request.Headers
import Understudy.Proofs.Resolution.Contenders
import Understudy.Proofs.Resolution.Drawing
import Understudy.Proofs.Resolution.Failures
import Understudy.Proofs.Resolution.Irrelevance
import Understudy.Proofs.Resolution.Perfection
import Understudy.Proofs.Resolution.Reordering
import Understudy.Proofs.Resolution.Winner
import Understudy.Proofs.Response.Sending
import Understudy.Proofs.Scenario.Conformance
import Understudy.Proofs.Scenario.Counting
import Understudy.Proofs.Scenario.Gating
import Understudy.Proofs.Scenario.Known
import Understudy.Proofs.Scenario.Permissive
import Understudy.Proofs.Scenario.Soundness
import Understudy.Proofs.Score.Bounds
import Understudy.Proofs.Score.Counting
import Understudy.Proofs.Score.Deficit
import Understudy.Proofs.Score.Equality
import Understudy.Proofs.Score.Mean
import Understudy.Proofs.Score.Tally
import Understudy.Proofs.Server.Frame
import Understudy.Proofs.Server.Operation
import Understudy.Proofs.Server.Process
import Understudy.Proofs.Server.Reports
import Understudy.Proofs.Server.Visit
import Understudy.Proofs.Text.Blank
import Understudy.Proofs.Text.Lowering
import Understudy.Proofs.Text.Replacement
import Understudy.Proofs.Text.Search
import Understudy.Proofs.Text.Utf8
import Understudy.Proofs.Validity
import Understudy.Ranking
import Understudy.Recording.Forwarding
import Understudy.Recording.Settings
import Understudy.Recording.Synthesis
import Understudy.Recording.UrlReplacement
import Understudy.Regex.CategoryTable
import Understudy.Regex.CharSet
import Understudy.Regex.DerivedPropertyTable
import Understudy.Regex.Expression
import Understudy.Regex.FoldTable
import Understudy.Regex.Parser
import Understudy.Regex.PropertyTable
import Understudy.Regex.ScriptTable
import Understudy.Registry
import Understudy.Request
import Understudy.Resolution
import Understudy.Response
import Understudy.Scenario
import Understudy.Score
import Understudy.Server
import Understudy.Text.Blank
import Understudy.Text.Case
import Understudy.Text.CaseTable
import Understudy.Text.Hexadecimal
import Understudy.Text.Search
import Understudy.Text.Utf8
import Understudy.Yaml.Cursor
import Understudy.Yaml.Node
import Understudy.Yaml.Scalar
import Understudy.Yaml.Schema
import Understudy.Yaml.Token
