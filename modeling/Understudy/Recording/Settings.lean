import Understudy.Http.Token
import Understudy.Recording.UrlReplacement
import Understudy.Text.Blank

/-!
# Recording settings

Whether and where unmatched requests are forwarded, and what of an exchange becomes part of a
recording.  The cookie header never does: cookies are recorded one by one.
-/

namespace Understudy

/-- The settings of forwarding and recording. -/
structure RecordingSettings where
  /-- The address that requests are forwarded to. -/
  url : Option String
  /-- Whether every forwarded exchange is registered as a mapping. -/
  save : Bool
  /-- Whether a recording takes over the conditions of the closest mapping. -/
  useDefined : Bool
  excludedHeaders : List String
  excludedCookies : List String
  urlReplacement : Option UrlReplacement
  deriving DecidableEq, Repr

namespace RecordingSettings

/-- No forwarding and no recording. -/
def off : RecordingSettings where
  url := none
  save := false
  useDefined := false
  excludedHeaders := []
  excludedCookies := []
  urlReplacement := none

instance : Inhabited RecordingSettings := ⟨off⟩

/-- Whether unmatched requests are forwarded. -/
def isEnabled (settings : RecordingSettings) : Bool :=
  settings.url.any fun url => !Text.isBlankText url

/-- Whether a header is left out of recordings. -/
def excludesHeader (settings : RecordingSettings) (name : String) : Bool :=
  Http.sameName name "cookie" ||
    settings.excludedHeaders.any fun excluded => Http.sameName excluded name

/-- Whether a cookie is left out of recordings. -/
def excludesCookie (settings : RecordingSettings) (name : String) : Bool :=
  settings.excludedCookies.any fun excluded => Http.sameName excluded name

end RecordingSettings

end Understudy
