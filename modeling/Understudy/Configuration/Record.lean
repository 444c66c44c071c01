import Understudy.Configuration
import Understudy.Json.Value

/-!
# Configurations as JSON

The settings under the names that configuration files use.  What is optional and not set has no
entry.
-/

namespace Understudy

namespace ListenSettings

/-- The section of the settings. -/
def toJson (settings : ListenSettings) : Json :=
  Json.ofMembers [("host", .text settings.host), ("port", .integer settings.port.toNat)]

end ListenSettings

namespace MetricsSettings

/-- The section of the settings. -/
def toJson (settings : MetricsSettings) : Json :=
  Json.ofMembers
    [("enabled", .boolean settings.enabled), ("port", .integer settings.port.toNat)]

end MetricsSettings

namespace MatchingSettings

/-- The section of the settings. -/
def toJson (settings : MatchingSettings) : Json :=
  Json.ofMembers
    [("allow_partial_mapping", .boolean settings.allowPartial),
      ("admin_path_prefix", .text settings.adminPathPrefix)]

end MatchingSettings

namespace UrlReplacement

/-- The section of the rule. -/
def toJson (rule : UrlReplacement) : Json :=
  Json.ofMembers
    [("old_value", .text rule.old), ("new_value", .text rule.new),
      ("ignore_case", .boolean rule.ignoreCase)]

end UrlReplacement

namespace RecordingSettings

/-- The entry of a list of names, unless it is empty. -/
def listEntry (name : String) (values : List String) : List (String × Json) :=
  if values.isEmpty then [] else [(name, .array (values.map .text))]

/-- The section of the settings. -/
def toJson (settings : RecordingSettings) : Json :=
  Json.ofMembers <|
    [("save_mapping", .boolean settings.save),
        ("use_defined_request_matchers", .boolean settings.useDefined)] ++
      (settings.url.toList.map fun url => ("url", .text url)) ++
      listEntry "excluded_headers" settings.excludedHeaders ++
      listEntry "excluded_cookies" settings.excludedCookies ++
      (settings.urlReplacement.toList.map fun rule => ("url_replace", rule.toJson))

end RecordingSettings

namespace Configuration

/-- The sections of the settings. -/
def sections (configuration : Configuration) : List (String × Json) :=
  [("listen", configuration.listen.toJson), ("metrics", configuration.metrics.toJson),
    ("matching", configuration.matching.toJson), ("proxy", configuration.recording.toJson)]

/-- The settings as one object. -/
def toJson (configuration : Configuration) : Json :=
  Json.ofMembers configuration.sections

end Configuration

end Understudy
