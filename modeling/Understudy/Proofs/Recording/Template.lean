import Understudy.Proofs.Server.Operation

/-!
# Recording from a template

A recording may take over the conditions of the closest mapping.  What it takes over is not
compared with the request that is recorded: the path, the method and the body are captured only
where the template has none.  So the recording answers its own request exactly if that request
meets every condition that the template lends, and a template that was not met in one of these
gives a recording that never answers the request it comes from.
-/

namespace Understudy

/-- A server that records everything it forwards, with the conditions of the closest mapping. -/
structure Server.RecordsFromTemplates (server : Server) : Prop where
  enabled : server.recording.isEnabled = true
  saves : server.recording.save = true
  takesOver : server.recording.useDefined = true

/-! ## The conditions of a recording -/

/-- The conditions that a template lends to a recording. -/
def lentMatcher (settings : RecordingSettings) (defined : RequestMatcher) : RequestMatcher :=
  { defined with
    cookies := defined.cookies.filter fun cookie => !settings.excludesCookie cookie.name
    headers := defined.headers.filter fun header => !settings.excludesHeader header.name
    custom := [] }

/-- The conditions that a recording captures where the template has none. -/
def filledMatcher (defined : RequestMatcher) (request : Request) : RequestMatcher :=
  { RequestMatcher.empty with
    path := if defined.path.isNone then some (.exact request.path) else none
    method := if defined.method.isNone then some (.of [request.method]) else none
    body := if defined.body.isNone then Matching.BodyMatcher.captured? request.body else none }

/-- The conditions that the closest mapping, if there is one, lends to a recording. -/
def lentChecks (settings : RecordingSettings) (template : Option Mapping) : List Check :=
  template.toList.flatMap fun mapping => (lentMatcher settings mapping.matcher).checks

section

variable {settings : RecordingSettings} {request : Request} {defined : RequestMatcher}

/-- The conditions of an optional part with a fallback are those of the part, or of the fallback
where the part is absent. -/
theorem forall_mem_orElse_iff {α : Type} (slot fallback : Option α) (condition : α → Check)
    (holds : Check → Prop) :
    (∀ check ∈ (slot.orElse fun _ => fallback).toList.map condition, holds check) ↔
      (∀ check ∈ slot.toList.map condition, holds check) ∧
        ∀ check ∈ (if slot.isNone then fallback else none).toList.map condition, holds check := by
  cases slot with
  | none => simp
  | some value => simp

theorem some_getD_eq_orElse {α : Type} (slot : Option α) (fallback : α) :
    some (slot.getD fallback) = slot.orElse fun _ => some fallback := by
  cases slot with
  | none => rfl
  | some value => rfl

/-- The conditions of a recording from a template are those that are lent and those that are
captured where nothing is lent. -/
theorem forall_mem_definedMatcher_iff (holds : Check → Prop) :
    (∀ check ∈ (definedMatcher settings defined request).checks, holds check) ↔
      (∀ check ∈ (lentMatcher settings defined).checks, holds check) ∧
        ∀ check ∈ (filledMatcher defined request).checks, holds check := by
  simp only [definedMatcher, lentMatcher, filledMatcher, RequestMatcher.checks,
    RequestMatcher.empty, List.forall_mem_append, some_getD_eq_orElse, forall_mem_orElse_iff,
    Option.toList_none, List.map_nil, List.not_mem_nil, false_implies, implies_true, and_true,
    true_and]
  constructor
  · rintro ⟨⟨⟨⟨⟨⟨clientIp, path, filledPath⟩, method, filledMethod⟩, parameters⟩, cookies⟩,
      headers⟩, body, filledBody⟩
    exact ⟨⟨⟨⟨⟨⟨⟨clientIp, path⟩, method⟩, parameters⟩, cookies⟩, headers⟩, body⟩,
      ⟨filledPath, filledMethod⟩, filledBody⟩
  · rintro ⟨⟨⟨⟨⟨⟨⟨clientIp, path⟩, method⟩, parameters⟩, cookies⟩, headers⟩, body⟩,
      ⟨filledPath, filledMethod⟩, filledBody⟩
    exact ⟨⟨⟨⟨⟨⟨clientIp, path, filledPath⟩, method, filledMethod⟩, parameters⟩, cookies⟩,
      headers⟩, body, filledBody⟩

/-- What fills the place of a condition is captured from the request. -/
theorem mem_capturedMatcher_of_mem_filledMatcher {check : Check}
    (member : check ∈ (filledMatcher defined request).checks) :
    check ∈ (capturedMatcher settings request).checks := by
  have ofIte : ∀ {α : Type} {condition : Prop} [Decidable condition] {captured : Option α}
      {value : α}, value ∈ (if condition then captured else none).toList →
        value ∈ captured.toList := by
    intro α condition _ captured value inSlot
    split at inSlot
    · exact inSlot
    · cases inSlot
  simp only [filledMatcher, RequestMatcher.checks, RequestMatcher.empty, Option.toList_none,
    List.map_nil, List.nil_append, List.append_nil, List.mem_append, List.mem_map] at member
  simp only [capturedMatcher, RequestMatcher.checks, List.mem_append, List.mem_map]
  rcases member with (⟨value, inSlot, rfl⟩ | ⟨value, inSlot, rfl⟩) | ⟨value, inSlot, rfl⟩
  · exact .inl (.inl (.inl (.inl (.inl (.inl (.inr ⟨value, ofIte inSlot, rfl⟩))))))
  · exact .inl (.inl (.inl (.inl (.inl (.inr ⟨value, ofIte inSlot, rfl⟩)))))
  · exact .inl (.inr ⟨value, ofIte inSlot, rfl⟩)

/-- With the conditions of a template a recording is met in full by its own request exactly if
every condition that the template lends is. -/
theorem matchesPerfectly_synthesize_iff (takesOver : settings.useDefined = true)
    (wellFormed : request.WellFormed) (ascii : ∀ c ∈ request.method.toList, c.toNat < 0x80)
    (bounded : request.textCount < 2 ^ 53) (id : Identifier) (recordedAt : Instant)
    (template : Option Mapping) (response : Response) (gating : Option String) :
    (synthesize id recordedAt template settings request response).MatchesPerfectly request
        gating ↔
      ∀ check ∈ lentChecks settings template, check.IsMet request gating := by
  have captured : ∀ check ∈ (capturedMatcher settings request).checks,
      check.IsMet request gating :=
    (forall_isMet_capturedMatcher_iff wellFormed ascii bounded wellFormed.body gating).mpr
      (wellFormed.repeats_self settings request.clientIp)
  rw [Mapping.matchesPerfectly_iff]
  cases template with
  | none =>
      rw [checks_synthesize]
      simpa [lentChecks] using captured
  | some mapping =>
      have checksEq : (synthesize id recordedAt (some mapping) settings request response).checks =
          (definedMatcher settings mapping.matcher request).checks := by
        simp [Mapping.checks, synthesize, Mapping.new, recordedMatcher, takesOver, Option.filter]
      have filled : ∀ check ∈ (filledMatcher mapping.matcher request).checks,
          check.IsMet request gating := fun check member =>
        captured check (mem_capturedMatcher_of_mem_filledMatcher member)
      rw [checksEq, forall_mem_definedMatcher_iff, and_iff_left filled]
      simp [lentChecks]

/-- A recording is in its window, sampled in and not gated, wherever it is registered. -/
theorem contends_synthesize {template : Option Mapping} {id : Identifier} {recordedAt : Instant}
    {response : Response} {mappings : List Mapping} {position : Nat}
    (registered : mappings[position]? =
      some (synthesize id recordedAt template settings request response))
    (store : ScenarioStore) (draws : Draws) (now : Instant) {again : Request}
    {result : MatchResult}
    (evaluated : (synthesize id recordedAt template settings request response).evaluate again
      none = .ok result) :
    Contends store draws again now mappings position
      ⟨synthesize id recordedAt template settings request response, result⟩ where
  registered := registered
  inWindow := rfl
  sampledIn := nofun
  evaluated := evaluated

end

namespace Server

variable {server : Server} {occasion : Occasion} {request : Request} {response : Response}

theorem recordingOf_mem_mappings (records : server.RecordsFromTemplates)
    (forwards : server.Forwards occasion request response)
    (valid : (server.recordingOf occasion request response).problem? = none) :
    server.recordingOf occasion request response ∈
      (server.respond occasion request).server.engine.registry.mappings := by
  rw [server_respond_of_recorded forwards records.enabled records.saves valid]
  exact Registry.mem_place _ _

/-- A strict server that holds a recording which its request meets in full has an answer. -/
theorem exists_winner_of_matchesPerfectly {later : Server}
    (strict : later.engine.settings.allowPartial = false)
    (member : server.recordingOf occasion request response ∈ later.engine.registry.mappings)
    (matchesSelf : (server.recordingOf occasion request response).MatchesPerfectly request none)
    (now : Instant) : ∃ winner, (later.engine.resolve request now).1.matched = some winner := by
  obtain ⟨result, evaluated, perfect⟩ := matchesSelf
  obtain ⟨position, registered⟩ := List.mem_iff_getElem?.mp member
  rw [← Option.isSome_iff_exists]
  exact (matched_isSome_iff_of_strict _ _ _ _ _ strict).mpr ⟨position, _,
    contends_synthesize registered later.engine.scenarios later.engine.draws now evaluated,
    perfect⟩

/-- A recording that its request does not meet in full never answers it in the strict mode. -/
theorem mapping_ne_recordingOf {later : Server}
    (strict : later.engine.settings.allowPartial = false)
    (fails : ¬(server.recordingOf occasion request response).MatchesPerfectly request none)
    {now : Instant} {winner : Candidate}
    (matched : (later.engine.resolve request now).1.matched = some winner) :
    winner.mapping ≠ server.recordingOf occasion request response := by
  intro same
  obtain ⟨position, contends, perfect, -⟩ :=
    (matched_eq_some_iff_of_strict _ _ _ _ _ strict winner).mp matched
  have evaluated := contends.evaluated
  rw [same] at evaluated
  exact fails ⟨winner.result, evaluated, perfect⟩

end Server

/-- A recording from a template is registered, and its request meets it in full exactly if that
request meets every condition that the template lends.  If it does, every strict server that holds
the recording answers the request without the network; if it does not, the recording answers it in
none of them. -/
theorem recording_answers_iff_lent_conditions_are_met {server : Server} {occasion : Occasion}
    {request : Request} {response : Response} (records : server.RecordsFromTemplates)
    (constructed : request.Constructed) (fits : request.FitsMemory)
    (forwards : server.Forwards occasion request response)
    (valid : (server.recordingOf occasion request response).problem? = none) :
    server.recordingOf occasion request response ∈
        (server.respond occasion request).server.engine.registry.mappings ∧
      ((server.recordingOf occasion request response).MatchesPerfectly request none ↔
        ∀ check ∈ lentChecks server.recording
            ((server.engine.resolve request occasion.now).1.closest.map Candidate.mapping),
          check.IsMet request none) ∧
      ∀ later : Server, later.engine.settings.allowPartial = false →
        server.recordingOf occasion request response ∈ later.engine.registry.mappings →
          ∀ laterOccasion : Occasion,
            ((server.recordingOf occasion request response).MatchesPerfectly request none →
              ∃ winner,
                (later.engine.resolve request laterOccasion.now).1.matched = some winner ∧
                (later.respond laterOccasion request).response = winner.mapping.respond request ∧
                ∀ remote, later.respond { laterOccasion with remote := remote } request =
                  later.respond laterOccasion request) ∧
            (¬(server.recordingOf occasion request response).MatchesPerfectly request none →
              ∀ winner,
                (later.engine.resolve request laterOccasion.now).1.matched = some winner →
                  winner.mapping ≠ server.recordingOf occasion request response) := by
  have ascii := Http.ascii_of_isToken (isToken_method_of_forward_eq_ok forwards.answered)
  refine ⟨Server.recordingOf_mem_mappings records forwards valid, ?_, ?_⟩
  · exact matchesPerfectly_synthesize_iff records.takesOver constructed.wellFormed ascii
      fits.textCount_lt occasion.recordingId occasion.recordedAt _ response none
  · intro later strict member laterOccasion
    constructor
    · intro matchesSelf
      obtain ⟨winner, matched⟩ :=
        Server.exists_winner_of_matchesPerfectly strict member matchesSelf laterOccasion.now
      obtain ⟨answer, -, -, -, offline⟩ := Server.respond_of_matched matched
      exact ⟨winner, matched, answer, offline⟩
    · intro fails winner matched
      exact Server.mapping_ne_recordingOf strict fails matched

/-- A server with one mapping that records from templates. -/
def Server.recordingFrom (template : Mapping) : Server where
  engine := { Engine.new default default with registry := ⟨[template]⟩ }
  recording :=
    { RecordingSettings.off with url := some "http://upstream", save := true, useDefined := true }

/-- A mapping of GET requests for a path. -/
def Mapping.get (path : String) : Mapping :=
  Mapping.new (.ofNat 1)
    { RequestMatcher.empty with path := some (.exact path), method := some (.of ["GET"]) }

/-- The mapping in the state "Paid" of the scenario "order". -/
def Mapping.whenPaid (mapping : Mapping) : Mapping :=
  { mapping with scenario := some "order", requiredState := some "Paid" }

/-- The state of the scenario is not lent: a recording from a mapping that only waits for its state
answers the same request from then on. -/
theorem recording_from_waiting_mapping_answers :
    ∃ winner,
      (((Server.recordingFrom (Mapping.get "/a").whenPaid).respond (.answering (.ofNat 2) 200)
          (Request.new "GET" "/a")).server.engine.resolve (Request.new "GET" "/a")
            .epoch).1.matched = some winner := by
  have forwards : (Server.recordingFrom (Mapping.get "/a").whenPaid).Forwards
      (.answering (.ofNat 2) 200) (Request.new "GET" "/a") (Response.new 200) :=
    ⟨Option.isNone_iff_eq_none.mp (by decide +kernel), rfl⟩
  have valid : ((Server.recordingFrom (Mapping.get "/a").whenPaid).recordingOf
      (.answering (.ofNat 2) 200) (Request.new "GET" "/a") (Response.new 200)).problem? = none :=
    Option.isNone_iff_eq_none.mp (by decide +kernel)
  obtain ⟨member, lent, later⟩ := recording_answers_iff_lent_conditions_are_met
    ⟨by decide, rfl, rfl⟩ (.new "GET" "/a") (by decide) forwards valid
  have conditions : ∀ check ∈
      (lentMatcher (Server.recordingFrom (Mapping.get "/a").whenPaid).recording
        (Mapping.get "/a").whenPaid.matcher).checks,
      check.IsMet (Request.new "GET" "/a") none := by
    intro check checkMember
    rcases List.mem_cons.mp checkMember with rfl | inRest
    · exact (Check.isMet_iff_of_scored rfl).mpr (by decide +kernel)
    · rw [List.mem_singleton.mp inRest]
      exact (Check.isMet_iff_of_scored rfl).mpr (by decide +kernel)
  have matchesSelf := lent.mpr <| by
    intro check checkMember
    obtain ⟨template, inTemplate, checkLent⟩ := List.mem_flatMap.mp checkMember
    obtain ⟨closest, closestEq, rfl⟩ := Option.map_eq_some_iff.mp (Option.mem_toList.mp inTemplate)
    have registered : closest.mapping ∈ [(Mapping.get "/a").whenPaid] :=
      Server.mapping_mem_of_closest closestEq
    rw [List.mem_singleton.mp registered] at checkLent
    exact conditions check checkLent
  have strict : ((Server.recordingFrom (Mapping.get "/a").whenPaid).respond
      (.answering (.ofNat 2) 200)
      (Request.new "GET" "/a")).server.engine.settings.allowPartial = false := by
    rw [(Server.leaves_respond _ _ _).settings_eq]
    rfl
  obtain ⟨winner, matched, -⟩ := (later _ strict member (.answering (.ofNat 3) 200)).1 matchesSelf
  exact ⟨winner, matched⟩

/-- A template of another path lends that path: its recording does not answer the request that it
was recorded from, and nothing answers that request the next time. -/
theorem recording_from_other_path_does_not_answer :
    (Server.recordingFrom (Mapping.get "/other")).engine.settings.allowPartial = false ∧
      (Server.recordingFrom (Mapping.get "/other")).RecordsFromTemplates ∧
      (Server.recordingFrom (Mapping.get "/other")).Forwards (.answering (.ofNat 2) 200)
        (Request.new "GET" "/a") (Response.new 200) ∧
      (Server.recordingFrom (Mapping.get "/other")).recordingOf (.answering (.ofNat 2) 200)
          (Request.new "GET" "/a") (Response.new 200) ∈
        ((Server.recordingFrom (Mapping.get "/other")).respond (.answering (.ofNat 2) 200)
          (Request.new "GET" "/a")).server.engine.registry.mappings ∧
      ¬((Server.recordingFrom (Mapping.get "/other")).recordingOf (.answering (.ofNat 2) 200)
        (Request.new "GET" "/a") (Response.new 200)).MatchesPerfectly (Request.new "GET" "/a")
          none ∧
      (((Server.recordingFrom (Mapping.get "/other")).respond (.answering (.ofNat 2) 200)
          (Request.new "GET" "/a")).server.engine.resolve (Request.new "GET" "/a")
            .epoch).1.matched = none := by
  have records : (Server.recordingFrom (Mapping.get "/other")).RecordsFromTemplates :=
    ⟨by decide, rfl, rfl⟩
  have forwards : (Server.recordingFrom (Mapping.get "/other")).Forwards
      (.answering (.ofNat 2) 200) (Request.new "GET" "/a") (Response.new 200) :=
    ⟨Option.isNone_iff_eq_none.mp (by decide +kernel), rfl⟩
  have member := Server.recordingOf_mem_mappings records forwards
    (Option.isNone_iff_eq_none.mp (by decide +kernel))
  refine ⟨rfl, records, forwards, member, ?_, Option.isNone_iff_eq_none.mp (by decide +kernel)⟩
  rintro ⟨result, evaluated, perfect⟩
  have imperfect : (((Server.recordingFrom (Mapping.get "/other")).recordingOf
      (.answering (.ofNat 2) 200) (Request.new "GET" "/a") (Response.new 200)).evaluate
        (Request.new "GET" "/a") none).toOption.all MatchResult.isPerfect = false := by
    decide +kernel
  rw [evaluated, Except.toOption, Option.all_some, perfect] at imperfect
  cases imperfect

end Understudy
