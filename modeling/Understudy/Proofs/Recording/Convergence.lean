import Understudy.Proofs.Recording.Repetition
import Understudy.Proofs.Registry
import Understudy.Proofs.Resolution.Winner
import Understudy.Server

/-!
# Convergence of recording

A server that records what it forwards does not forward the same request twice.  The recording of
an exchange is a mapping that passes the checks of registration, has no window, no probability and
no scenario, and is met in full by its own request; so it contends in every later resolution of
that request, whatever else is registered, and the resolution has a winner in both modes.
-/

namespace Understudy

/-- A server that records everything it forwards, with conditions captured from the request. -/
structure Server.RecordsCaptures (server : Server) : Prop where
  enabled : server.recording.isEnabled = true
  saves : server.recording.save = true
  captures : server.recording.useDefined = false

/-- No mapping answers the request, and the network answers it with `response`. -/
structure Server.Forwards (server : Server) (occasion : Occasion) (request : Request)
    (response : Response) : Prop where
  unmatched : (server.engine.resolve request occasion.now).1.matched = none
  answered : forward occasion.remote server.recording request = .ok response

/-! ## The recording of an exchange -/

section

variable {settings : RecordingSettings} {request : Request}

/-- The recording of a request has as many conditions as the request has parts at most. -/
theorem length_checks_capturedMatcher (settings : RecordingSettings) (request : Request) :
    0 < (capturedMatcher settings request).checks.length ∧
      (capturedMatcher settings request).checks.length ≤ request.textCount := by
  have query := request.query.length_entries_le_textCount
  have headers := request.headers.length_entries_le_textCount
  have keptHeaders := List.length_filter_le (fun entry => !settings.excludesHeader entry.1)
    request.headers.entries
  have keptCookies := List.length_filter_le (fun entry => !settings.excludesCookie entry.1)
    request.cookies.entries
  have body : (Matching.BodyMatcher.captured? request.body).toList.length ≤ 1 := by
    cases Matching.BodyMatcher.captured? request.body <;> simp
  simp only [capturedMatcher, RequestMatcher.checks, Option.toList_none, Option.toList_some,
    List.length_append, List.length_map, List.length_nil, List.length_cons, Request.textCount]
  omega

theorem isPath_of_head?_eq_slash {path : String} (slash : path.toList.head? = some '/') :
    Mapping.isPath path = true := by
  have visible : Text.isBlank '/' = false := by decide
  cases characters : path.toList with
  | nil => rw [characters] at slash; cases slash
  | cons first rest =>
      rw [characters, List.head?_cons] at slash
      cases slash
      simp [Mapping.isPath, Text.isBlankText, characters, visible]

/-- The recording of a request with a path can be registered. -/
theorem problem?_synthesize (slash : request.path.toList.head? = some '/') (id : Identifier)
    (recordedAt : Instant) (settings : RecordingSettings) (response : Response) :
    (synthesize id recordedAt none settings request response).problem? = none := by
  have literal : (synthesize id recordedAt none settings request response).literalPaths =
      [request.path] := rfl
  rw [Mapping.problem?, literal]
  simp [synthesize, Mapping.new, isPath_of_head?_eq_slash slash]

/-- A recording is met in full by its own request. -/
theorem evaluate_synthesize_self (wellFormed : request.WellFormed)
    (ascii : ∀ c ∈ request.method.toList, c.toNat < 0x80) (bounded : request.textCount < 2 ^ 53)
    (id : Identifier) (recordedAt : Instant) (settings : RecordingSettings) (response : Response)
    (address gating : Option String) :
    (synthesize id recordedAt none settings request response).evaluate
        { request with clientIp := address } gating =
      .ok (.full ((capturedMatcher settings request).checks.map Check.name)) := by
  have checks := checks_synthesize id recordedAt settings request response
  rw [← checks]
  apply Mapping.evaluate_of_forall_isMet
  rw [checks]
  have repeats := wellFormed.repeats_self settings address
  refine (forall_isMet_capturedMatcher_iff wellFormed ascii bounded ?_ gating).mpr repeats
  exact wellFormed.body

/-- Wherever the recording of a request is registered, it contends for that request, and its
result is perfect. -/
theorem contends_synthesize_self (wellFormed : request.WellFormed)
    (ascii : ∀ c ∈ request.method.toList, c.toNat < 0x80) (bounded : request.textCount < 2 ^ 53)
    {id : Identifier} {recordedAt : Instant} {response : Response} {mappings : List Mapping}
    {position : Nat}
    (registered : mappings[position]? =
      some (synthesize id recordedAt none settings request response))
    (store : ScenarioStore) (draws : Draws) (now : Instant) (address : Option String) :
    Contends store draws { request with clientIp := address } now mappings position
      ⟨synthesize id recordedAt none settings request response,
        .full ((capturedMatcher settings request).checks.map Check.name)⟩ where
  registered := registered
  inWindow := rfl
  sampledIn := nofun
  evaluated := evaluate_synthesize_self wellFormed ascii bounded id recordedAt settings response
    address _

/-- A forwarded request has a legal method. -/
theorem isToken_method_of_forward_eq_ok {remote : Remote} {response : Response}
    (answered : forward remote settings request = .ok response) :
    Http.isToken request.method = true := by
  by_contra illegal
  rw [Bool.not_eq_true] at illegal
  rw [forward_eq, outgoingRequest] at answered
  cases url : settings.url with
  | none => simp [url] at answered
  | some base => simp [url, illegal] at answered

end

/-! ## Answers -/

namespace Server

variable {server : Server} {occasion : Occasion} {request : Request} {response : Response}

/-- A request that a mapping answers is answered by it, and the network has no part in it. -/
theorem respond_of_matched {winner : Candidate}
    (matched : (server.engine.resolve request occasion.now).1.matched = some winner) :
    (server.respond occasion request).response = winner.mapping.respond request ∧
      (server.respond occasion request).server.engine.registry = server.engine.registry ∧
      (server.respond occasion request).server.recording = server.recording ∧
      (server.respond occasion request).server.engine.settings = server.engine.settings ∧
      ∀ remote, server.respond { occasion with remote := remote } request =
        server.respond occasion request := by
  have registry : (server.engine.resolve request occasion.now).2.1.registry =
      server.engine.registry := rfl
  have settings : (server.engine.resolve request occasion.now).2.1.settings =
      server.engine.settings := rfl
  simp [respond, matched, Engine.recordWin, registry, settings]

/-- A request that nothing answers leaves a recording server as it was but for the draws. -/
theorem respond_of_failed {error : ForwardError} (records : server.RecordsCaptures)
    (unmatched : (server.engine.resolve request occasion.now).1.matched = none)
    (failed : forward occasion.remote server.recording request = .error error) :
    (server.respond occasion request).server =
      { server with engine := (server.engine.resolve request occasion.now).2.1 } := by
  simp [respond, unmatched, records.enabled, proxy, failed]

/-- The recording of an exchange with a new identifier is registered behind all other mappings. -/
theorem fst_record {server : Server} (captures : server.recording.useDefined = false)
    (slash : request.path.toList.head? = some '/')
    (fresh : ∀ mapping ∈ server.engine.registry.mappings, mapping.id ≠ occasion.recordingId)
    (closest : Option Candidate) (response : Response) :
    (server.record occasion request closest response).1 =
      { server with engine := { server.engine with
          registry := ⟨server.engine.registry.mappings ++
            [synthesize occasion.recordingId occasion.recordedAt none server.recording request
              response]⟩ } } := by
  have valid := problem?_synthesize slash occasion.recordingId occasion.recordedAt
    server.recording response
  rw [record, synthesize_of_captures captures, Engine.register, Engine.upsert,
    Registry.upsert_of_fresh valid fresh]
  rfl

/-- A forwarded request is answered with the answer of the network, and its exchange is recorded
behind all other mappings. -/
theorem respond_of_forwards (records : server.RecordsCaptures)
    (forwards : server.Forwards occasion request response)
    (slash : request.path.toList.head? = some '/')
    (fresh : ∀ mapping ∈ server.engine.registry.mappings, mapping.id ≠ occasion.recordingId) :
    (server.respond occasion request).response = response ∧
      (server.respond occasion request).server =
        { server with engine := { (server.engine.resolve request occasion.now).2.1 with
            registry := ⟨server.engine.registry.mappings ++
              [synthesize occasion.recordingId occasion.recordedAt none server.recording request
                response]⟩ } } := by
  let resolved : Server :=
    { server with engine := (server.engine.resolve request occasion.now).2.1 }
  have captures : resolved.recording.useDefined = false := records.captures
  have resolvedFresh : ∀ mapping ∈ resolved.engine.registry.mappings,
      mapping.id ≠ occasion.recordingId := fresh
  have recorded := fst_record captures slash resolvedFresh
    (server.engine.resolve request occasion.now).1.closest response
  constructor
  · simp only [respond, forwards.unmatched, records.enabled, if_true, proxy, forwards.answered]
  · simp only [respond, forwards.unmatched, records.enabled, if_true, proxy, forwards.answered,
      records.saves]
    exact recorded

/-- Nothing answers where nothing is registered. -/
theorem unmatched_of_empty (empty : server.engine.registry.mappings = []) (request : Request)
    (now : Instant) : (server.engine.resolve request now).1.matched = none := by
  simp [Engine.resolve, resolveAt, resolveUnder, resolveAmong, empty, sample, rankClosest,
    rankPerfect, sortCandidates]

/-- While the recording of a request is registered, its request has a winner. -/
theorem exists_winner_of_mem_mappings {settings : RecordingSettings}
    (wellFormed : request.WellFormed)
    (ascii : ∀ c ∈ request.method.toList, c.toNat < 0x80) (bounded : request.textCount < 2 ^ 53)
    {id : Identifier} {recordedAt : Instant}
    (member : synthesize id recordedAt none settings request response ∈
      server.engine.registry.mappings) (address : Option String) (now : Instant) :
    ∃ winner, (server.engine.resolve { request with clientIp := address } now).1.matched =
      some winner := by
  obtain ⟨position, registered⟩ := List.mem_iff_getElem?.mp member
  have contends := contends_synthesize_self wellFormed ascii bounded registered
    server.engine.scenarios server.engine.draws now address
  have perfect := MatchResult.isPerfect_full
    ((capturedMatcher settings request).checks.map Check.name)
  rw [← Option.isSome_iff_exists]
  cases mode : server.engine.settings.allowPartial with
  | false =>
      exact (matched_isSome_iff_of_strict _ _ _ _ _ mode).mpr ⟨position, _, contends, perfect⟩
  | true =>
      obtain ⟨positive, atMost⟩ := length_checks_capturedMatcher settings request
      have countEq := MatchResult.count_full
        ((capturedMatcher settings request).checks.map Check.name)
      rw [List.length_map] at countEq
      rw [← countEq] at positive atMost
      have matched := matched_of_permissive server.engine.registry server.engine.scenarios
        server.engine.draws { request with clientIp := address } now mode
      have closest := (closest_isSome_iff server.engine.settings server.engine.registry
        server.engine.scenarios server.engine.draws { request with clientIp := address } now).mpr
          ⟨position, _, contends,
            Candidate.canBeClosest_of_isPerfect perfect positive (atMost.trans_lt bounded)⟩
      rw [← matched] at closest
      exact closest

end Server

/-- The server without mappings that records everything it forwards to an address. -/
def Server.recordingTo (url : String) : Server where
  engine := Engine.new default default
  recording := { RecordingSettings.off with url := some url, save := true }

/-- The occasion at which the network answers everything with a status alone. -/
def Occasion.answering (recordingId : Identifier) (status : Nat) : Occasion where
  now := .epoch
  microseconds := 0
  recordingId := recordingId
  recordedAt := .epoch
  remote := { unreachable with answer := fun _ => .ok ⟨status, [], ByteArray.empty⟩ }

/-- A forwarded request is recorded.  As long as its recording is registered, in whatever state
the server is otherwise, the same request has a winner, also when another client sends it, and the
network has no part in the answer. -/
theorem recorded_request_is_not_forwarded_again {server : Server} {occasion : Occasion}
    {request : Request} {response : Response} (records : server.RecordsCaptures)
    (constructed : request.Constructed) (fits : request.FitsMemory)
    (slash : request.path.toList.head? = some '/')
    (fresh : server.engine.registry.find? occasion.recordingId = none)
    (forwards : server.Forwards occasion request response) :
    ∃ recording : Mapping, recording.id = occasion.recordingId ∧
      (∀ again, recording.respond again = response) ∧
      (server.respond occasion request).response = response ∧
      (server.respond occasion request).server.engine.registry.mappings =
        server.engine.registry.mappings ++ [recording] ∧
      ∀ later : Server, recording ∈ later.engine.registry.mappings →
        ∀ (laterOccasion : Occasion) (address : Option String), ∃ winner,
          (later.engine.resolve { request with clientIp := address } laterOccasion.now).1.matched =
              some winner ∧
            (later.respond laterOccasion { request with clientIp := address }).response =
              winner.mapping.respond { request with clientIp := address } ∧
            ∀ remote,
              later.respond { laterOccasion with remote := remote }
                  { request with clientIp := address } =
                later.respond laterOccasion { request with clientIp := address } := by
  have ascii := Http.ascii_of_isToken (isToken_method_of_forward_eq_ok forwards.answered)
  obtain ⟨responseEq, serverEq⟩ := Server.respond_of_forwards records forwards slash
    (Registry.forall_ne_of_find?_eq_none fresh)
  refine ⟨synthesize occasion.recordingId occasion.recordedAt none server.recording request
    response, rfl, fun _ => rfl, responseEq, ?_, ?_⟩
  · rw [serverEq]
  · intro later member laterOccasion address
    obtain ⟨winner, matched⟩ := Server.exists_winner_of_mem_mappings constructed.wellFormed ascii
      fits.textCount_lt member address laterOccasion.now
    obtain ⟨answer, -, -, -, offline⟩ := Server.respond_of_matched matched
    exact ⟨winner, matched, answer, offline⟩

/-- A server that has forwarded a request once answers it the next time. -/
theorem repeated_request_has_winner :
    ∃ winner,
      (((Server.recordingTo "http://upstream").respond (.answering (.ofNat 1) 200)
          (Request.new "GET" "/a")).server.engine.resolve (Request.new "GET" "/a")
            .epoch).1.matched = some winner := by
  have forwards : (Server.recordingTo "http://upstream").Forwards (.answering (.ofNat 1) 200)
      (Request.new "GET" "/a") (Response.new 200) :=
    ⟨Server.unmatched_of_empty rfl _ _, rfl⟩
  obtain ⟨recording, -, -, -, mappings, later⟩ := recorded_request_is_not_forwarded_again
    ⟨by decide, rfl, rfl⟩ (.new "GET" "/a") (by decide) (by decide) rfl forwards
  have registered : recording ∈ ((Server.recordingTo "http://upstream").respond
      (.answering (.ofNat 1) 200) (Request.new "GET" "/a")).server.engine.registry.mappings := by
    rw [mappings]
    exact List.mem_append_right _ (List.mem_singleton_self _)
  obtain ⟨winner, matched, -, -⟩ := later _ registered (.answering (.ofNat 2) 201) none
  exact ⟨winner, matched⟩

end Understudy
