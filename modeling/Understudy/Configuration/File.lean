import Understudy.Configuration
import Understudy.Yaml.Schema

/-!
# Configuration files

A configuration is a YAML document with a section for each group of settings.  Everything has a
default, and names without a meaning are ignored.
-/

namespace Understudy

open Yaml

/-- A port number. -/
def port? (node : Node) : Option UInt16 :=
  node.natural?.bind fun number => if number < 65536 then some (UInt16.ofNat number) else none

namespace ListenSettings

/-- The settings of a section. -/
def ofNode? (node : Node) : Option ListenSettings := do
  let entries ← node.section?
  let base : ListenSettings := default
  let host ← entry? entries "host" Node.text? base.host
  let port ← entry? entries "port" port? base.port
  some ⟨host, port⟩

end ListenSettings

namespace MetricsSettings

/-- The settings of a section. -/
def ofNode? (node : Node) : Option MetricsSettings := do
  let entries ← node.section?
  let base : MetricsSettings := default
  let enabled ← entry? entries "enabled" Node.boolean? base.enabled
  let port ← entry? entries "port" port? base.port
  some ⟨enabled, port⟩

end MetricsSettings

namespace MatchingSettings

/-- The settings of a section. -/
def ofNode? (node : Node) : Option MatchingSettings := do
  let entries ← node.section?
  let base : MatchingSettings := default
  let allowPartial ← entry? entries "allow_partial_mapping" Node.boolean? base.allowPartial
  let adminPathPrefix ← entry? entries "admin_path_prefix" Node.text? base.adminPathPrefix
  some ⟨allowPartial, adminPathPrefix⟩

end MatchingSettings

namespace UrlReplacement

/-- The rule of a section; both texts have to be given. -/
def ofNode? (node : Node) : Option UrlReplacement := do
  let entries ← node.section?
  let old ← entry? entries "old_value" (optional Node.text?) none
  let new ← entry? entries "new_value" (optional Node.text?) none
  let ignoreCase ← entry? entries "ignore_case" Node.boolean? false
  some ⟨← old, ← new, ignoreCase⟩

end UrlReplacement

namespace RecordingSettings

/-- The settings of a section. -/
def ofNode? (node : Node) : Option RecordingSettings := do
  let entries ← node.section?
  let url ← entry? entries "url" (optional Node.text?) none
  let save ← entry? entries "save_mapping" Node.boolean? false
  let useDefined ← entry? entries "use_defined_request_matchers" Node.boolean? false
  let excludedHeaders ← entry? entries "excluded_headers" Node.texts? []
  let excludedCookies ← entry? entries "excluded_cookies" Node.texts? []
  let urlReplacement ← entry? entries "url_replace" (optional UrlReplacement.ofNode?) none
  some
    { url := url
      save := save
      useDefined := useDefined
      excludedHeaders := excludedHeaders
      excludedCookies := excludedCookies
      urlReplacement := urlReplacement }

end RecordingSettings

namespace Configuration

/-- The settings of a document. -/
def ofNode? (node : Node) : Option Configuration := do
  let entries ← node.section?
  let listen ← entry? entries "listen" ListenSettings.ofNode? default
  let metrics ← entry? entries "metrics" MetricsSettings.ofNode? default
  let matching ← entry? entries "matching" MatchingSettings.ofNode? default
  let recording ← entry? entries "proxy" RecordingSettings.ofNode? default
  some ⟨listen, metrics, matching, recording⟩

/-- The settings of a text; a text without a document has the default ones. -/
def ofText? (text : String) : Option Configuration := do
  match ← document? text with
  | some node => ofNode? node
  | none => some default

/-- The settings of a file and their warnings.  The file is absent if it cannot be read. -/
def ofFile (path : String) (content : Option ByteArray) :
    Except ConfigurationError (Configuration × List LogLine) := do
  match content.bind String.fromUTF8? with
  | none => throw (.unreadable path)
  | some text =>
      match ofText? text with
      | none => throw (.malformed path)
      | some configuration => return (configuration, ← configuration.validate)

end Configuration

end Understudy
