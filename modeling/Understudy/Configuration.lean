import Understudy.Event
import Understudy.Recording.Settings
import Understudy.Resolution

/-!
# Configuration

The settings of the server and the rules that they have to keep.  The first broken rule is
reported.  Recording without an address to forward to is allowed but worth a warning.
-/

namespace Understudy

/-- Where requests are listened for. -/
structure ListenSettings where
  host : String
  port : UInt16
  deriving DecidableEq, Repr

instance : Inhabited ListenSettings := ⟨⟨"0.0.0.0", 8080⟩⟩

/-- Whether and where the metrics are served. -/
structure MetricsSettings where
  enabled : Bool
  port : UInt16
  deriving DecidableEq, Repr

instance : Inhabited MetricsSettings := ⟨⟨false, 9090⟩⟩

/-- All settings. -/
structure Configuration where
  listen : ListenSettings
  metrics : MetricsSettings
  matching : MatchingSettings
  recording : RecordingSettings
  deriving DecidableEq, Repr, Inhabited

/-- Why there is no usable configuration. -/
inductive ConfigurationError where
  | unreadable (path : String)
  | malformed (path : String)
  | adminPathPrefixWithoutSlash (value : String)
  | metricsPortTaken (port : UInt16)
  | proxyUrlScheme (url : String)
  | emptyReplacement
  deriving DecidableEq, Repr

/-- The text of an error. -/
def ConfigurationError.message : ConfigurationError → String
  | .unreadable path => "Failed to read config file " ++ path
  | .malformed path => "Failed to parse config file " ++ path
  | .adminPathPrefixWithoutSlash value =>
      "matching.admin_path_prefix must start with '/', got '" ++ value ++ "'"
  | .metricsPortTaken port =>
      "metrics.port (" ++ Nat.repr port.toNat ++ ") must differ from listen.port"
  | .proxyUrlScheme url => "proxy.url must be an http(s) URL, got '" ++ url ++ "'"
  | .emptyReplacement => "proxy.url_replace.old_value must not be empty"

namespace Configuration

/-- Whether an address has a scheme that requests can be forwarded to. -/
def hasWebScheme (url : String) : Bool :=
  "http://".toList.isPrefixOf url.toList || "https://".toList.isPrefixOf url.toList

/-- The first rule that the settings break. -/
def problem? (configuration : Configuration) : Option ConfigurationError :=
  let adminPathPrefix := configuration.matching.adminPathPrefix
  if adminPathPrefix.toList.head? ≠ some '/' then
    some (.adminPathPrefixWithoutSlash adminPathPrefix)
  else if configuration.metrics.enabled && configuration.metrics.port == configuration.listen.port
  then some (.metricsPortTaken configuration.metrics.port)
  else
    match configuration.recording.url.filter fun url => !hasWebScheme url with
    | some url => some (.proxyUrlScheme url)
    | none =>
        if configuration.recording.urlReplacement.any fun rule => rule.old.isEmpty then
          some .emptyReplacement
        else none

/-- The warnings that the settings call for. -/
def warnings (configuration : Configuration) : List LogLine :=
  let recording := configuration.recording
  if (recording.save || recording.useDefined) && !recording.isEnabled then [.proxyUrlMissing]
  else []

/-- The warnings, or the first rule that is broken. -/
def validate (configuration : Configuration) : Except ConfigurationError (List LogLine) :=
  match configuration.problem? with
  | some problem => .error problem
  | none => .ok configuration.warnings

end Configuration

end Understudy
