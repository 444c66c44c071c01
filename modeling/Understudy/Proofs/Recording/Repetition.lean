import Understudy.Proofs.Body
import Understudy.Proofs.Json.Normalization
import Understudy.Proofs.Matching.Evaluation
import Understudy.Proofs.Pattern.Scoring
import Understudy.Proofs.Request.Construction
import Understudy.Recording.Synthesis

/-!
# Repeated requests

What the conditions captured from a request ask of another one.  Each kind of condition has its own
lemma: exact values, methods, fields with several values, cookies and bodies.  A field takes the
mean over its values, and this is a full match only if each of them is there.  Together the
conditions are met in full by the requests that repeat the recorded one, and by no others.
-/

namespace Understudy

/-! ## Exact patterns -/

namespace Pattern

theorem accepts_exact (value : String) (actual : Option String) :
    (exact value).accepts actual = (actual == some value) := by
  cases actual with
  | none => rfl
  | some text =>
      have same : (text.toList == value.toList) = (some text == some value) := by
        simp [Bool.beq_eq_decide_eq, String.toList_inj]
      exact same

theorem score_exact (value : String) (actual : Option String) :
    (exact value).score actual = Score.ofBool (actual == some value) :=
  congrArg Score.ofBool (accepts_exact value actual)

/-- A field meets an exact pattern if it has the value. -/
theorem isMetBy_exact_iff {value : String} {actual : List String} :
    (exact value).IsMetBy actual ↔ value ∈ actual := by
  simp [IsMetBy, accepts_exact]

/-- A field meets the patterns of some values in full if it has each of them. -/
theorem clamp_scoreValues_exact_iff {values : List String} (nonempty : values ≠ [])
    (bounded : values.length < 2 ^ 53) (actual : List String) :
    (scoreValues .average (values.map exact) actual).clamp = Score.perfect ↔
      ∀ value ∈ values, value ∈ actual := by
  rw [clamp_scoreValues_average_iff (by simpa using nonempty) (by rwa [List.length_map]),
    List.forall_mem_map]
  simp only [isMetBy_exact_iff]

end Pattern

/-! ## Repeated bodies -/

namespace Body

/-- The body has the JSON value: a JSON body the one that it stores, any other the one that is read
from its text. -/
inductive HasJson : Body → Json → Prop where
  | stored (value : Json) (source : String) : HasJson (.json value source) value
  | parsed {body : Body} {content : String} {value : Json}
      (unread : ∀ other source, body ≠ .json other source) (text : body.text? = some content)
      (parsed : Json.parse content = .ok value) : HasJson body value

/-- The body repeats a recorded one: it has a JSON value that equals the recorded one with all texts
in lower case, the recorded text, or the recorded octets.  Every body repeats an empty one, and an
empty one repeats no other. -/
def Repeats (actual : Body) : Body → Prop
  | .empty => True
  | .json recorded _ => actual.isEmpty = false ∧ ∃ value, actual.HasJson value ∧
      Json.equal (Json.foldCase recorded) (Json.foldCase value) = true
  | .text content => actual.text? = some content
  | .binary content => actual.isEmpty = false ∧ actual.octets = content

theorem HasJson.isEmpty_eq_false {body : Body} {value : Json} (hasJson : body.HasJson value) :
    body.isEmpty = false := by
  cases hasJson with
  | stored value source => rfl
  | parsed unread text parsed =>
      cases body with
      | empty => cases text
      | _ => rfl

theorem HasJson.ordered {body : Body} {value : Json} (hasJson : body.HasJson value)
    (wellFormed : body.WellFormed) : value.Ordered := by
  cases hasJson with
  | stored value source => exact wellFormed.ordered
  | parsed unread text parsed => exact (Json.wellFormed_of_parse_eq_ok parsed).ordered

/-- A body repeats itself. -/
theorem repeats_self {body : Body} (wellFormed : body.WellFormed) : body.Repeats body := by
  cases body with
  | empty => trivial
  | json value source =>
      have agrees := Json.agrees_self true value
        (Json.uniqueKeys_of_ordered wellFormed.ordered) wellFormed.numeric
      rw [Json.agrees_eq_equal_norm true value value wellFormed.ordered wellFormed.ordered]
        at agrees
      exact ⟨rfl, value, .stored value source, agrees⟩
  | text content => rfl
  | binary content => exact ⟨rfl, rfl⟩

end Body

namespace Matching

/-! ## Single conditions -/

theorem ValueMatcher.score_exact (value : String) (actual : Option String) :
    (ValueMatcher.exact value).score actual = Score.ofBool (actual == some value) := by
  rw [score, exact, List.map_cons, List.map_nil, Pattern.score_exact,
    Operator.aggregate_or_singleton_ofBool]

theorem MethodMatcher.score_of {method : String} (ascii : ∀ c ∈ method.toList, c.toNat < 0x80)
    (request : Request) :
    (MethodMatcher.of [method]).score request =
      Score.ofBool (Text.sameIgnoringAsciiCase method request.method) := by
  rw [score, MethodMatcher.of, List.map_cons, List.map_nil, List.any_cons, List.any_nil,
    Bool.or_false, Text.sameIgnoringAsciiCase, Text.asciiLower_toUpper ascii]
  rfl

theorem CookieMatcher.score_exact (name value : String) (request : Request) :
    (CookieMatcher.exact name value).score request =
      Score.ofBool (request.cookies.find? name == some value) := by
  rw [score, exact, List.map_cons, List.map_nil, Pattern.score_exact,
    Operator.aggregate_or_singleton_ofBool]

namespace BodyMatcher

/-- What a JSON matcher reads is a JSON value that the body has. -/
theorem jsonOf_eq_ok_some_iff {body : Body} {value : Json} :
    jsonOf body = .ok (some value) ↔ body.HasJson value := by
  constructor
  · intro read
    unfold jsonOf at read
    split at read
    next => cases read
    next =>
      cases read
      exact .stored _ _
    next unread =>
      split at read
      next => cases read
      next content text =>
        split at read
        next parsed =>
          cases read
          exact .parsed unread text parsed
        next => cases read
  · intro hasJson
    cases hasJson with
    | stored value source => rfl
    | parsed unread text parsed =>
        cases body with
        | empty => cases text
        | json other source => exact absurd rfl (unread other source)
        | text content => simp only [jsonOf, text, parsed]
        | binary content => simp only [jsonOf, text, parsed]

/-- The condition captured from a body holds or does not, and it holds for the bodies that repeat
it. -/
theorem exists_judge_captured_eq {recorded actual : Body} (recordedWellFormed : recorded.WellFormed)
    (actualWellFormed : actual.WellFormed) {matcher : BodyMatcher}
    (captured : captured? recorded = some matcher) :
    ∃ matched, matcher.judge actual = .scored (Score.ofBool matched) ∧
      (matched = true ↔ actual.Repeats recorded) := by
  cases recorded with
  | empty => cases captured
  | json value source =>
      cases captured
      have repeats_iff : actual.Repeats (.json value source) ↔
          ∃ other, jsonOf actual = .ok (some other) ∧ Json.agrees true value other = true := by
        constructor
        · rintro ⟨-, other, hasJson, equal⟩
          refine ⟨other, jsonOf_eq_ok_some_iff.mpr hasJson, ?_⟩
          rwa [Json.agrees_eq_equal_norm true value other recordedWellFormed.ordered
            (hasJson.ordered actualWellFormed)]
        · rintro ⟨other, read, agree⟩
          have hasJson := jsonOf_eq_ok_some_iff.mp read
          refine ⟨hasJson.isEmpty_eq_false, other, hasJson, ?_⟩
          rwa [Json.agrees_eq_equal_norm true value other recordedWellFormed.ordered
            (hasJson.ordered actualWellFormed)] at agree
      rw [repeats_iff]
      unfold judge judgeJson
      cases jsonOf actual with
      | error reason => exact ⟨false, rfl, by simp⟩
      | ok read =>
          cases read with
          | none => exact ⟨false, rfl, by simp⟩
          | some other => exact ⟨_, rfl, by simp⟩
  | text content =>
      cases captured
      exact ⟨_, rfl, beq_iff_eq⟩
  | binary content =>
      cases captured
      refine ⟨_, rfl, ?_⟩
      rw [Bool.and_eq_true, Bool.not_eq_true', Body.octets_beq_iff]
      rfl

end BodyMatcher

end Matching

/-! ## All conditions -/

namespace Request

/-- The request repeats a recorded one: the path is the same, the method up to the case of ASCII
letters, each value of the query, each cookie and each header value is there under its name,
excluded cookies and headers aside, and the body repeats the recorded one. -/
structure Repeats (request : Request) (settings : RecordingSettings) (recorded : Request) :
    Prop where
  path : request.path = recorded.path
  method : Text.asciiLower request.method = Text.asciiLower recorded.method
  query : ∀ entry ∈ recorded.query.entries, ∀ value ∈ entry.2,
    value ∈ (request.query.find? entry.1).getD []
  cookies : ∀ entry ∈ recorded.cookies.entries, settings.excludesCookie entry.1 = false →
    request.cookies.find? entry.1 = some entry.2
  headers : ∀ entry ∈ recorded.headers.entries, settings.excludesHeader entry.1 = false →
    ∀ value ∈ entry.2, value ∈ (request.headers.find? entry.1).getD []
  body : request.body.Repeats recorded.body

/-- A request repeats itself, also from another client. -/
theorem WellFormed.repeats_self {recorded : Request} (wellFormed : recorded.WellFormed)
    (settings : RecordingSettings) (address : Option String) :
    Repeats { recorded with clientIp := address } settings recorded where
  path := rfl
  method := rfl
  query := by
    intro entry member value given
    rw [recorded.query.find?_eq_some_of_mem member]
    exact given
  cookies := fun entry member _ => recorded.cookies.find?_eq_some_of_mem member
  headers := by
    intro entry member _ value given
    rw [recorded.headers.find?_eq_some_of_mem member]
    exact given
  body := Body.repeats_self wellFormed.body

end Request

section

variable {settings : RecordingSettings} {recorded request : Request}

open Matching

theorem RequestMatcher.isMet_scoring_iff {name : String} {score : Request → Score}
    {gating : Option String} :
    (scoring name score).IsMet request gating ↔ (score request).clamp = Score.perfect :=
  Check.isMet_iff_of_scored rfl

theorem clamp_scoreParameter_exact_iff (wellFormed : recorded.WellFormed)
    (bounded : recorded.textCount < 2 ^ 53) {entry : String × List String}
    (member : entry ∈ recorded.query.entries) :
    ((FieldMatcher.exact entry.1 entry.2).scoreParameter request).clamp = Score.perfect ↔
      ∀ value ∈ entry.2, value ∈ (request.query.find? entry.1).getD [] := by
  have nonempty := wellFormed.queryValues entry member
  have below := NameMap.length_values_le_textCount member
  unfold Request.textCount at bounded
  have patterns : ¬(FieldMatcher.exact entry.1 entry.2).patterns.isEmpty = true := by
    simpa [FieldMatcher.exact] using nonempty
  rw [FieldMatcher.scoreParameter, if_neg patterns]
  exact Pattern.clamp_scoreValues_exact_iff nonempty (by omega) _

theorem clamp_scoreHeader_exact_iff (wellFormed : recorded.WellFormed)
    (bounded : recorded.textCount < 2 ^ 53) {entry : String × List String}
    (member : entry ∈ recorded.headers.entries) :
    ((FieldMatcher.exact entry.1 entry.2).scoreHeader request).clamp = Score.perfect ↔
      ∀ value ∈ entry.2, value ∈ (request.headers.find? entry.1).getD [] := by
  have nonempty := wellFormed.headerValues entry member
  have below := NameMap.length_values_le_textCount member
  unfold Request.textCount at bounded
  have values : (FieldMatcher.exact entry.1 entry.2).scoreHeader request =
      Pattern.scoreValues .average (entry.2.map Pattern.exact)
        ((request.headers.find? entry.1).getD []) := by
    rw [FieldMatcher.scoreHeader, Request.header?, FieldMatcher.exact,
      wellFormed.headerNames entry member]
  rw [values]
  exact Pattern.clamp_scoreValues_exact_iff nonempty (by omega) _

/-- Every condition captured from a request gives a score. -/
theorem exists_scored_of_mem_capturedMatcher (wellFormed : recorded.WellFormed)
    (bodyWellFormed : request.body.WellFormed) (gating : Option String) {check : Check}
    (member : check ∈ (capturedMatcher settings recorded).checks) :
    ∃ score, check.judge request gating = .scored score := by
  simp only [capturedMatcher, RequestMatcher.checks, Option.toList_none, Option.toList_some,
    List.map_nil, List.map_cons, List.nil_append, List.append_nil, List.mem_append,
    List.mem_singleton, List.mem_map] at member
  rcases member with ((((rfl | rfl) | ⟨_, -, rfl⟩) | ⟨_, -, rfl⟩) | ⟨_, -, rfl⟩) |
    ⟨matcher, captured, rfl⟩
  · exact ⟨_, rfl⟩
  · exact ⟨_, rfl⟩
  · exact ⟨_, rfl⟩
  · exact ⟨_, rfl⟩
  · exact ⟨_, rfl⟩
  · obtain ⟨matched, judged, -⟩ := BodyMatcher.exists_judge_captured_eq wellFormed.body
      bodyWellFormed (Option.mem_toList.mp captured)
    exact ⟨_, judged⟩

/-- The condition captured from a body, if there is one, is met in full by the bodies that repeat
it. -/
theorem forall_isMet_captured?_iff (wellFormed : recorded.WellFormed)
    (bodyWellFormed : request.body.WellFormed) (gating : Option String) :
    (∀ matcher ∈ (BodyMatcher.captured? recorded.body).toList,
      Check.IsMet ⟨"body", fun request _ => matcher.judge request.body⟩ request gating) ↔
        request.body.Repeats recorded.body := by
  cases captured : BodyMatcher.captured? recorded.body with
  | none =>
      obtain empty : recorded.body = .empty := by
        cases body : recorded.body with
        | empty => rfl
        | _ => rw [body] at captured; cases captured
      rw [empty]
      exact iff_of_true nofun trivial
  | some matcher =>
      obtain ⟨matched, judged, repeats_iff⟩ :=
        BodyMatcher.exists_judge_captured_eq wellFormed.body bodyWellFormed captured
      rw [← repeats_iff, ← Score.clamp_ofBool_eq_perfect_iff, Option.toList_some,
        List.forall_mem_singleton]
      exact Check.isMet_iff_of_scored judged

/-- The conditions captured from a request are met in full by the requests that repeat it. -/
theorem forall_isMet_capturedMatcher_iff (wellFormed : recorded.WellFormed)
    (ascii : ∀ c ∈ recorded.method.toList, c.toNat < 0x80) (bounded : recorded.textCount < 2 ^ 53)
    (bodyWellFormed : request.body.WellFormed) (gating : Option String) :
    (∀ check ∈ (capturedMatcher settings recorded).checks, check.IsMet request gating) ↔
      request.Repeats settings recorded := by
  simp only [capturedMatcher, RequestMatcher.checks, Option.toList_none, Option.toList_some,
    List.map_nil, List.map_cons, List.nil_append, List.append_nil, List.forall_mem_append,
    List.forall_mem_singleton, List.forall_mem_map, List.forall_mem_filter,
    RequestMatcher.isMet_scoring_iff, ValueMatcher.score_exact, MethodMatcher.score_of ascii,
    CookieMatcher.score_exact, Score.clamp_ofBool_eq_perfect_iff,
    forall_isMet_captured?_iff wellFormed bodyWellFormed, beq_iff_eq, Option.some.injEq,
    Bool.not_eq_true', Text.sameIgnoringAsciiCase]
  constructor
  · rintro ⟨⟨⟨⟨⟨path, method⟩, query⟩, cookies⟩, headers⟩, body⟩
    exact
      { path := path
        method := method.symm
        query := fun entry member =>
          (clamp_scoreParameter_exact_iff wellFormed bounded member).mp (query entry member)
        cookies := cookies
        headers := fun entry member kept =>
          (clamp_scoreHeader_exact_iff wellFormed bounded member).mp (headers entry member kept)
        body := body }
  · rintro ⟨path, method, query, cookies, headers, body⟩
    refine ⟨⟨⟨⟨⟨path, method.symm⟩, ?_⟩, cookies⟩, ?_⟩, body⟩
    · exact fun entry member =>
        (clamp_scoreParameter_exact_iff wellFormed bounded member).mpr (query entry member)
    · exact fun entry member kept =>
        (clamp_scoreHeader_exact_iff wellFormed bounded member).mpr (headers entry member kept)

/-! ## Recordings -/

/-- Without the conditions of a template the template plays no part. -/
theorem synthesize_of_captures (captures : settings.useDefined = false) (id : Identifier)
    (recordedAt : Instant) (template : Option Mapping) (request : Request) (response : Response) :
    synthesize id recordedAt template settings request response =
      synthesize id recordedAt none settings request response := by
  simp [synthesize, recordedMatcher, recordedText, captures]

theorem checks_synthesize (id : Identifier) (recordedAt : Instant) (settings : RecordingSettings)
    (request : Request) (response : Response) :
    (synthesize id recordedAt none settings request response).checks =
      (capturedMatcher settings request).checks :=
  List.append_nil _

/-- Every request has a result with the recording of a request that takes over no template, and the
result is perfect exactly if the request repeats the recorded one: it has the path, the method up to
the case of ASCII letters, every value of the query, every cookie and every header value that is not
excluded, and the body, of which JSON is compared with all texts in lower case.  In particular the
recorded request has a perfect result. -/
theorem recording_matches_exactly_repeated_requests {template : Option Mapping}
    (captures : template = none ∨ settings.useDefined = false)
    (constructed : recorded.Constructed) (ascii : ∀ c ∈ recorded.method.toList, c.toNat < 0x80)
    (fits : recorded.FitsMemory) (id : Identifier) (recordedAt : Instant) (response : Response) :
    let recording := synthesize id recordedAt template settings recorded response
    (∀ request gating, request.body.WellFormed →
      ∃ result, recording.evaluate request gating = .ok result ∧
        (result.isPerfect = true ↔ request.Repeats settings recorded)) ∧
    ∀ gating, recording.MatchesPerfectly recorded gating := by
  intro recording
  have wellFormed := constructed.wellFormed
  have bounded := fits.textCount_lt
  have checks : recording.checks = (capturedMatcher settings recorded).checks := by
    rcases captures with rfl | captures
    · exact checks_synthesize id recordedAt settings recorded response
    · rw [← checks_synthesize id recordedAt settings recorded response,
        ← synthesize_of_captures captures]
  have matches_iff : ∀ request gating, request.body.WellFormed →
      (recording.MatchesPerfectly request gating ↔ request.Repeats settings recorded) := by
    intro request gating bodyWellFormed
    rw [Mapping.matchesPerfectly_iff, checks]
    exact forall_isMet_capturedMatcher_iff wellFormed ascii bounded bodyWellFormed gating
  constructor
  · intro request gating bodyWellFormed
    have scored : ∀ check ∈ recording.checks,
        ∃ score, check.judge request gating = .scored score := by
      rw [checks]
      exact fun check => exists_scored_of_mem_capturedMatcher wellFormed bodyWellFormed gating
    have evaluated := Mapping.evaluate_of_forall_scored scored
    refine ⟨_, evaluated, ?_⟩
    rw [← matches_iff request gating bodyWellFormed, Mapping.MatchesPerfectly, evaluated]
    simp
  · intro gating
    rw [matches_iff recorded gating wellFormed.body]
    exact wellFormed.repeats_self settings recorded.clientIp

end

/-- An order with two tags, a session that is not recorded, and a JSON body. -/
def Request.order : Request :=
  ((((Request.new "post" "/orders").withQuery "tag=a&tag=b").withHeader "Cookie"
    "session=abc; theme=dark").withBody (.json (.object [("item", .text "Book")]) ""))

/-- The order in other words: more tags in another order, another session and capitals. -/
def Request.orderAgain : Request :=
  { Request.order with
    method := "Post"
    query := Http.Query.parse "tag=b&tag=c&tag=a"
    cookies := NameMap.ofList [("theme", "dark"), ("session", "xyz")]
    body := .json (.object [("item", .text "BOOK")]) "" }

/-- The recording of an order has a perfect result for the order in other words, and none for it
without the second tag. -/
theorem order_in_other_words_matches_recording :
    let recording := synthesize (.ofNat 1) .epoch none
      { RecordingSettings.off with excludedCookies := ["SESSION"] } Request.order (Response.new 201)
    (∃ result, recording.evaluate Request.orderAgain none = .ok result ∧
      result.isPerfect = true) ∧
    ∃ result, recording.evaluate
        { Request.orderAgain with query := Http.Query.parse "tag=a" } none = .ok result ∧
      ¬result.isPerfect = true := by
  intro recording
  have wellFormed : ∀ text, (Json.object [("item", .text text)]).WellFormed := fun text =>
    ⟨⟨List.pairwise_singleton _ _, trivial, trivial⟩, trivial, trivial⟩
  have constructed : Request.order.Constructed :=
    .withBody (wellFormed "Book") (.withHeader _ _ (.withQuery _ (.new "post" "/orders")))
  obtain ⟨results, -⟩ := recording_matches_exactly_repeated_requests (.inl rfl) constructed
    (Http.ascii_of_isToken (by decide +kernel)) (by decide) (.ofNat 1) .epoch (Response.new 201)
  constructor
  · obtain ⟨result, evaluated, perfect_iff⟩ :=
      results Request.orderAgain none (wellFormed "BOOK")
    refine ⟨result, evaluated, perfect_iff.mpr ?_⟩
    exact
      { path := rfl
        method := by decide +kernel
        query := by decide +kernel
        cookies := by decide +kernel
        headers := by decide +kernel
        body := ⟨rfl, _, .stored _ _, by decide +kernel⟩ }
  · obtain ⟨result, evaluated, perfect_iff⟩ :=
      results { Request.orderAgain with query := Http.Query.parse "tag=a" } none
        (wellFormed "BOOK")
    refine ⟨result, evaluated, perfect_iff.not.mpr ?_⟩
    intro repeats
    have missing : ¬∀ entry ∈ Request.order.query.entries, ∀ value ∈ entry.2,
        value ∈ ((Http.Query.parse "tag=a").find? entry.1).getD [] := by
      decide +kernel
    exact missing repeats.query

end Understudy
