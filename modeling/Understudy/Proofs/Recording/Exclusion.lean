import Understudy.Proofs.Matching.Evaluation
import Understudy.Proofs.NameMap
import Understudy.Proofs.Text.Case
import Understudy.Recording.Synthesis

/-!
# Excluded parts of recordings

A recording has no condition on an excluded header or cookie, whether its conditions are captured
from the request or taken over from a template, and no condition of another kind.  Header names
are compared up to the case of ASCII letters both where they are excluded and where they are
looked up, so requests that agree on all headers and cookies that are not excluded have the same
result for it.
-/

namespace Understudy

/-- The two requests agree on all parts but the excluded headers and cookies. -/
structure Request.Agree (settings : RecordingSettings) (first second : Request) : Prop where
  method : first.method = second.method
  path : first.path = second.path
  query : first.query = second.query
  body : first.body = second.body
  clientIp : first.clientIp = second.clientIp
  headers : ∀ name, settings.excludesHeader name = false →
    first.header? name = second.header? name
  cookies : ∀ name, settings.excludesCookie name = false →
    first.cookies.find? name = second.cookies.find? name

/-- The conditions are of the known kinds, and none is on an excluded header or cookie. -/
structure RequestMatcher.Respects (settings : RecordingSettings) (matcher : RequestMatcher) :
    Prop where
  headers : ∀ header ∈ matcher.headers, settings.excludesHeader header.name = false
  cookies : ∀ cookie ∈ matcher.cookies, settings.excludesCookie cookie.name = false
  custom : matcher.custom = []

theorem Request.Agree.trans {settings : RecordingSettings} {first second third : Request}
    (left : Request.Agree settings first second) (right : Request.Agree settings second third) :
    Request.Agree settings first third where
  method := left.method.trans right.method
  path := left.path.trans right.path
  query := left.query.trans right.query
  body := left.body.trans right.body
  clientIp := left.clientIp.trans right.clientIp
  headers name kept := (left.headers name kept).trans (right.headers name kept)
  cookies name kept := (left.cookies name kept).trans (right.cookies name kept)

/-! ## Excluded names -/

namespace RecordingSettings

variable (settings : RecordingSettings)

/-- Names that differ in the case of ASCII letters only are excluded together. -/
theorem excludesHeader_congr {name other : String}
    (same : Text.asciiLower name = Text.asciiLower other) :
    settings.excludesHeader name = settings.excludesHeader other := by
  simp only [excludesHeader, Http.sameName, Text.sameIgnoringAsciiCase, same]

/-- A new header that is excluded, with cookies that are excluded too, changes nothing that a
recording looks at. -/
theorem agree_withHeader (request : Request) {name value : String}
    (excluded : settings.excludesHeader name = true)
    (cookies : Text.asciiLower name = Request.cookieHeader →
      ∀ pair ∈ Http.Cookie.parse value, settings.excludesCookie pair.1 = true) :
    Request.Agree settings (request.withHeader name value) request where
  method := rfl
  path := rfl
  query := rfl
  body := rfl
  clientIp := rfl
  headers := by
    intro other kept
    have different : Text.asciiLower other ≠ Text.asciiLower name := by
      intro same
      rw [settings.excludesHeader_congr same, excluded] at kept
      cases kept
    rw [Request.header?, Request.withHeader, NameMap.append, NameMap.find?_insert,
      if_neg different, Request.header?]
  cookies := by
    intro other kept
    simp only [Request.withHeader]
    split
    next carriesCookies =>
      apply NameMap.find?_foldl_insert_of_forall_ne
      rintro pair member rfl
      rw [cookies carriesCookies pair member] at kept
      cases kept
    · rfl

end RecordingSettings

/-! ## The conditions of a recording -/

section

variable {settings : RecordingSettings} {first second request : Request}

theorem respects_capturedMatcher : (capturedMatcher settings request).Respects settings where
  headers := by
    intro header member
    obtain ⟨entry, kept, rfl⟩ := List.mem_map.mp member
    simpa [Matching.FieldMatcher.exact] using (List.mem_filter.mp kept).2
  cookies := by
    intro cookie member
    obtain ⟨entry, kept, rfl⟩ := List.mem_map.mp member
    simpa [Matching.CookieMatcher.exact] using (List.mem_filter.mp kept).2
  custom := rfl

theorem respects_definedMatcher (defined : RequestMatcher) :
    (definedMatcher settings defined request).Respects settings where
  headers := by
    intro header member
    simpa using (List.mem_filter.mp member).2
  cookies := by
    intro cookie member
    simpa using (List.mem_filter.mp member).2
  custom := rfl

theorem respects_recordedMatcher (template : Option Mapping) :
    (recordedMatcher template settings request).Respects settings := by
  unfold recordedMatcher
  split
  next mapping _ => exact respects_definedMatcher mapping.matcher
  · exact respects_capturedMatcher

theorem Matching.BodyMatcher.judge_ne_panicked (matcher : BodyMatcher) (body : Body)
    (text : Option String) : matcher.judge body ≠ .panicked text := by
  cases matcher with
  | json expected ignoreCase strict =>
      simp only [judge, judgeJson]
      split
      · exact nofun
      · exact nofun
      · split
        · exact nofun
        · exact nofun
  | exactText content => exact nofun
  | exactOctets content => exact nofun
  | textual pattern => exact nofun

/-- A condition of a matcher that respects the exclusions does not panic, and it judges requests
that agree alike. -/
theorem RequestMatcher.Respects.judge_eq {matcher : RequestMatcher}
    (respects : matcher.Respects settings) (agree : Request.Agree settings first second)
    (gating : Option String) {check : Check} (member : check ∈ matcher.checks) :
    (∀ text, check.judge first gating ≠ .panicked text) ∧
      check.judge first gating = check.judge second gating := by
  simp only [checks, respects.custom, List.append_nil, List.mem_append, List.mem_map] at member
  rcases member with (((((⟨value, -, rfl⟩ | ⟨value, -, rfl⟩) | ⟨method, -, rfl⟩) |
    ⟨field, -, rfl⟩) | ⟨cookie, inCookies, rfl⟩) | ⟨field, inHeaders, rfl⟩) | ⟨body, -, rfl⟩
  · refine ⟨nofun, ?_⟩
    simp only [scoring, agree.clientIp]
  · refine ⟨nofun, ?_⟩
    simp only [scoring, agree.path]
  · refine ⟨nofun, ?_⟩
    simp only [scoring, Matching.MethodMatcher.score, agree.method]
  · refine ⟨nofun, ?_⟩
    simp only [scoring, Matching.FieldMatcher.scoreParameter, agree.query]
  · refine ⟨nofun, ?_⟩
    simp only [scoring, Matching.CookieMatcher.score,
      agree.cookies cookie.name (respects.cookies cookie inCookies)]
  · refine ⟨nofun, ?_⟩
    simp only [scoring, Matching.FieldMatcher.scoreHeader,
      agree.headers field.name (respects.headers field inHeaders)]
  · refine ⟨body.judge_ne_panicked first.body, ?_⟩
    simp only [agree.body]

/-- Requests that agree on all parts but the excluded headers and cookies have the same result for
a recording, with the same outcome of every condition, in every state. -/
theorem excluded_parts_do_not_matter (id : Identifier) (recordedAt : Instant)
    (template : Option Mapping) (request : Request) (response : Response)
    (agree : Request.Agree settings first second) (gating : Option String) :
    ∃ result,
      (synthesize id recordedAt template settings request response).matchRequest first gating =
          .ok result ∧
        (synthesize id recordedAt template settings request response).matchRequest second gating =
          .ok result := by
  let recording := synthesize id recordedAt template settings request response
  have checksEq : recording.checks = (recordedMatcher template settings request).checks :=
    List.append_nil _
  have judged : ∀ check ∈ recording.checks, (∀ text, check.judge first gating ≠ .panicked text) ∧
      check.judge first gating = check.judge second gating := by
    rw [checksEq]
    exact fun check member => (respects_recordedMatcher template).judge_eq agree gating member
  have verdictsEq : recording.verdicts first gating = recording.verdicts second gating :=
    List.map_congr_left fun check member => by rw [(judged check member).2]
  have firstEq := Mapping.matchRequest_of_forall_not_panics fun check member =>
    not_exists.mpr (judged check member).1
  refine ⟨_, firstEq, ?_⟩
  rw [Mapping.matchRequest, ← verdictsEq]
  exact firstEq

end

/-- Settings that leave out a header and a cookie and take over the conditions of a template. -/
def RecordingSettings.withoutSession : RecordingSettings :=
  { RecordingSettings.off with
    useDefined := true, excludedHeaders := ["X-Request-Id"], excludedCookies := ["SESSION"] }

/-- A mapping with conditions on what these settings leave out, and on what they keep. -/
def Mapping.ofSession : Mapping :=
  Mapping.new (.ofNat 1)
    { RequestMatcher.empty with
      headers := [.exact "x-request-ID" ["r-1"], .exact "Accept" ["text/html"]]
      cookies := [.exact "session" "abc", .exact "theme" "dark"] }

/-- The identifier of a request and its session do not matter for a recording from this
template. -/
theorem session_does_not_matter :
    Request.Agree .withoutSession
        (((Request.new "GET" "/a").withHeader "X-REQUEST-ID" "r-1").withHeader "Cookie"
          "session=abc; Session=xyz")
        (Request.new "GET" "/a") ∧
      ∃ result,
        (synthesize (.ofNat 2) .epoch (some .ofSession) .withoutSession (Request.new "GET" "/a")
            (Response.new 200)).matchRequest
          (((Request.new "GET" "/a").withHeader "X-REQUEST-ID" "r-1").withHeader "Cookie"
            "session=abc; Session=xyz") none = .ok result ∧
        (synthesize (.ofNat 2) .epoch (some .ofSession) .withoutSession (Request.new "GET" "/a")
            (Response.new 200)).matchRequest (Request.new "GET" "/a") none = .ok result := by
  have agree : Request.Agree .withoutSession
      (((Request.new "GET" "/a").withHeader "X-REQUEST-ID" "r-1").withHeader "Cookie"
        "session=abc; Session=xyz")
      (Request.new "GET" "/a") := by
    apply Request.Agree.trans
    · apply RecordingSettings.agree_withHeader
      · decide
      · intro _
        decide
    · apply RecordingSettings.agree_withHeader
      · decide
      · intro carriesCookies
        exact absurd carriesCookies (by decide)
  exact ⟨agree, excluded_parts_do_not_matter (.ofNat 2) .epoch (some .ofSession)
    (Request.new "GET" "/a") (Response.new 200) agree none⟩

end Understudy
