import Understudy.Proofs.Recording.Run

/-!
# Replaying recordings

Which exchange answers a request that was recorded before.  All recordings share one priority and
their perfect results one mean score, so among the recordings that the request meets in full the
one with the fewest conditions answers, then the latest, then the first.  The request's own
recording is always one of them, but it need not be the one that answers.
-/

namespace Understudy

open OrderDual

namespace Exchange

/-- The request meets every condition of the recording in full. -/
def Replays (settings : RecordingSettings) (exchange : Exchange) (request : Request) : Prop :=
  ∃ result, (exchange.recording settings).evaluate request none = .ok result ∧
    result.isPerfect = true

theorem replays_iff {settings : RecordingSettings} {exchange : Exchange} {request : Request} :
    exchange.Replays settings request ↔
      ((exchange.recording settings).evaluate request none).toOption.any MatchResult.isPerfect =
        true := by
  unfold Replays
  cases (exchange.recording settings).evaluate request none with
  | ok result => simp [Except.toOption]
  | error failure => simp [Except.toOption]

instance (settings : RecordingSettings) (exchange : Exchange) (request : Request) :
    Decidable (exchange.Replays settings request) :=
  decidable_of_iff _ replays_iff.symm

/-- What recordings are ranked by: the number of conditions, and the time from late to early. -/
def replayKey (settings : RecordingSettings) (exchange : Exchange) : ℕ ×ₗ ℤᵒᵈ :=
  toLex ((capturedMatcher settings exchange.request).size,
    toDual exchange.recordedAt.place)

/-- The key of a perfect candidate whose mapping is a recording. -/
theorem perfectKey_recording {settings : RecordingSettings} {exchange : Exchange}
    {request : Request} {result : MatchResult} (bounded : exchange.request.textCount < 2 ^ 53)
    (evaluated : (exchange.recording settings).evaluate request none = .ok result)
    (perfect : result.isPerfect = true) :
    (Candidate.mk (exchange.recording settings) result).perfectKey =
      toLex (Mapping.recordingPriority, toLex (toDual (Score.place Score.perfect),
        toLex ((capturedMatcher settings exchange.request).size,
          toLex (⊤, toDual exchange.recordedAt.place)))) := by
  have checks : (exchange.recording settings).checks =
      (capturedMatcher settings exchange.request).checks :=
    checks_synthesize _ _ _ _ _
  have count := Mapping.count_of_evaluate_eq_ok evaluated
  rw [checks] at count
  obtain ⟨positive, atMost⟩ := length_checks_capturedMatcher settings exchange.request
  have average := MatchResult.average_of_isPerfect perfect (by omega) (by omega)
  simp only [Candidate.perfectKey, average, count, RequestMatcher.size]
  rfl

/-- Among perfect candidates whose mappings are recordings, the order of the keys with their
positions is the order of the replay keys with them. -/
theorem perfectKey_le_iff_replayKey_le {settings : RecordingSettings}
    {first second : Exchange} {request : Request} {firstResult secondResult : MatchResult}
    (firstBounded : first.request.textCount < 2 ^ 53)
    (secondBounded : second.request.textCount < 2 ^ 53)
    (firstEvaluated : (first.recording settings).evaluate request none = .ok firstResult)
    (secondEvaluated : (second.recording settings).evaluate request none = .ok secondResult)
    (firstPerfect : firstResult.isPerfect = true) (secondPerfect : secondResult.isPerfect = true)
    (firstPosition secondPosition : Nat) :
    toLex ((Candidate.mk (first.recording settings) firstResult).perfectKey, firstPosition) ≤
        toLex ((Candidate.mk (second.recording settings) secondResult).perfectKey,
          secondPosition) ↔
      toLex (first.replayKey settings, firstPosition) ≤
        toLex (second.replayKey settings, secondPosition) := by
  rw [perfectKey_recording firstBounded firstEvaluated firstPerfect,
    perfectKey_recording secondBounded secondEvaluated secondPerfect]
  simp [replayKey, Prod.Lex.toLex_le_toLex, Prod.Lex.toLex_lt_toLex, Prod.ext_iff]

end Exchange

/-- The exchange at a position is replayed for the request: its recording is met in full, and no
other recording that is has a lower key or, with the same key, an earlier position. -/
structure FirstReplay (settings : RecordingSettings) (exchanges : List Exchange)
    (request : Request) (position : Nat) (exchange : Exchange) : Prop where
  recorded : exchanges[position]? = some exchange
  replays : exchange.Replays settings request
  least : ∀ otherPosition other, exchanges[otherPosition]? = some other →
    other.Replays settings request →
      toLex (exchange.replayKey settings, position) ≤
        toLex (other.replayKey settings, otherPosition)

theorem FirstReplay.unique {settings : RecordingSettings} {exchanges : List Exchange}
    {request : Request} {position otherPosition : Nat} {exchange other : Exchange}
    (first : FirstReplay settings exchanges request position exchange)
    (second : FirstReplay settings exchanges request otherPosition other) : exchange = other := by
  have equal := le_antisymm (first.least _ _ second.recorded second.replays)
    (second.least _ _ first.recorded first.replays)
  have positionEq : position = otherPosition := congrArg (fun key => (ofLex key).2) equal
  have recorded := second.recorded
  rw [← positionEq, first.recorded] at recorded
  exact Option.some.inj recorded

/-- A call whose request can be recorded: it was built by the constructors of requests, fits into
memory, and has a path. -/
structure Call.Recordable (call : Call) : Prop where
  constructed : call.request.Constructed
  fits : call.request.FitsMemory
  slash : call.request.path.toList.head? = some '/'

namespace Server

variable {server : Server} {calls : List Call} {exchange : Exchange}

/-- The request of an exchange meets the recording of the exchange in full. -/
theorem replays_self_of_mem_exchanges (recordable : ∀ call ∈ calls, call.Recordable)
    (recorded : exchange ∈ server.exchanges calls) (settings : RecordingSettings) :
    exchange.Replays settings exchange.request := by
  obtain ⟨call, member, requestEq, legal⟩ := exists_call_of_mem_exchanges recorded
  obtain ⟨constructed, fits, -⟩ := recordable call member
  rw [← requestEq] at constructed fits
  have evaluated := evaluate_synthesize_self constructed.wellFormed (Http.ascii_of_isToken legal)
    fits.textCount_lt exchange.id exchange.recordedAt settings exchange.response
    exchange.request.clientIp none
  exact ⟨_, evaluated, MatchResult.isPerfect_full _⟩

theorem textCount_lt_of_mem_exchanges (recordable : ∀ call ∈ calls, call.Recordable)
    (recorded : exchange ∈ server.exchanges calls) : exchange.request.textCount < 2 ^ 53 := by
  obtain ⟨call, member, requestEq, -⟩ := exists_call_of_mem_exchanges recorded
  rw [requestEq]
  exact (recordable call member).fits.textCount_lt

/-- The winner among nothing but recordings is the one that is replayed first. -/
theorem firstReplay_of_matched {settings : MatchingSettings}
    (strict : settings.allowPartial = false) {recordings : RecordingSettings}
    {exchanges : List Exchange} {registry : Registry}
    (mappings : registry.mappings = exchanges.map (Exchange.recording recordings))
    (bounded : ∀ exchange ∈ exchanges, exchange.request.textCount < 2 ^ 53)
    {store : ScenarioStore} {draws : Draws} {request : Request} {now : Instant}
    {winner : Candidate}
    (matched : (resolveAt settings registry store draws request now).resolution.matched =
      some winner) :
    ∃ position exchange, FirstReplay recordings exchanges request position exchange ∧
      winner.mapping = exchange.recording recordings := by
  obtain ⟨position, contends, perfect, least⟩ :=
    (matched_eq_some_iff_of_strict registry store draws request now strict winner).mp matched
  rcases winner with ⟨mapping, result⟩
  obtain ⟨registered, -, -, evaluated⟩ := contends
  rw [mappings, List.getElem?_map, Option.map_eq_some_iff] at registered
  obtain ⟨exchange, recorded, rfl⟩ := registered
  refine ⟨position, exchange, ⟨recorded, ⟨result, evaluated, perfect⟩, ?_⟩, rfl⟩
  rintro otherPosition other otherRecorded ⟨otherResult, otherEvaluated, otherPerfect⟩
  rw [← Exchange.perfectKey_le_iff_replayKey_le (bounded _ (List.mem_of_getElem? recorded))
    (bounded _ (List.mem_of_getElem? otherRecorded)) evaluated otherEvaluated perfect otherPerfect]
  refine least otherPosition ⟨other.recording recordings, otherResult⟩ ⟨?_, rfl, nofun, ?_⟩
    otherPerfect
  · rw [mappings, List.getElem?_map, otherRecorded]
    rfl
  · exact otherEvaluated

/-- A request that was recorded is answered with the response of the exchange that is replayed
first for it, without the network. -/
theorem exists_firstReplay (strict : server.engine.settings.allowPartial = false)
    (records : server.RecordsCaptures) (empty : server.engine.registry.mappings = [])
    (recordable : ∀ call ∈ calls, call.Recordable)
    (distinct : (calls.map fun call => call.occasion.recordingId).Nodup)
    (recorded : exchange ∈ server.exchanges calls) (occasion : Occasion) :
    ∃ position first,
      FirstReplay server.recording (server.exchanges calls) exchange.request position first ∧
        ((server.after calls).respond occasion exchange.request).response = first.response ∧
        ∀ remote, (server.after calls).respond { occasion with remote := remote }
            exchange.request = (server.after calls).respond occasion exchange.request := by
  have unused : ∀ mapping ∈ server.engine.registry.mappings, ∀ call ∈ calls,
      mapping.id ≠ call.occasion.recordingId := by
    intro mapping member
    rw [empty] at member
    cases member
  obtain ⟨-, settingsEq, mappingsEq⟩ := after_spec records
    (fun call member => (recordable call member).slash) unused distinct
  rw [empty, List.nil_append] at mappingsEq
  obtain ⟨call, member, requestEq, legal⟩ := exists_call_of_mem_exchanges recorded
  obtain ⟨constructed, fits, -⟩ := recordable call member
  rw [← requestEq] at constructed fits
  have registered : exchange.recording server.recording ∈
      (server.after calls).engine.registry.mappings := by
    rw [mappingsEq]
    exact List.mem_map_of_mem recorded
  obtain ⟨winner, matched⟩ := exists_winner_of_mem_mappings constructed.wellFormed
    (Http.ascii_of_isToken legal) fits.textCount_lt registered exchange.request.clientIp
    occasion.now
  have strictAfter : (server.after calls).engine.settings.allowPartial = false := by
    rw [settingsEq]
    exact strict
  obtain ⟨position, first, firstReplay, winnerEq⟩ := firstReplay_of_matched strictAfter mappingsEq
    (fun exchange member => textCount_lt_of_mem_exchanges recordable member) matched
  obtain ⟨answer, -, -, -, offline⟩ := respond_of_matched matched
  refine ⟨position, first, firstReplay, ?_, offline⟩
  rw [winnerEq] at answer
  exact answer

end Server

/-! ## Two requests for one path -/

/-- The call for a path with a query. -/
def Call.queried : Call where
  occasion := .answering (.ofNat 1) 200
  request := (Request.new "GET" "/a").withQuery "x=1"

/-- The call for the same path alone. -/
def Call.plain : Call where
  occasion := .answering (.ofNat 2) 201
  request := Request.new "GET" "/a"

/-- The exchange of the call with a query. -/
def Exchange.queried : Exchange := ⟨.ofNat 1, .epoch, Call.queried.request, Response.new 200⟩

/-- The exchange of the call without one. -/
def Exchange.plain : Exchange := ⟨.ofNat 2, .epoch, Call.plain.request, Response.new 201⟩

theorem Call.recordable_queried : Call.queried.Recordable :=
  ⟨.withQuery "x=1" (.new "GET" "/a"), by decide, by decide⟩

theorem Call.recordable_plain : Call.plain.Recordable :=
  ⟨.new "GET" "/a", by decide, by decide⟩

theorem Call.recordable_of_mem {call : Call} (member : call ∈ [Call.queried, Call.plain]) :
    call.Recordable := by
  rcases List.mem_pair.mp member with rfl | rfl
  · exact recordable_queried
  · exact recordable_plain

theorem Call.nodup_recordingIds :
    ([Call.queried, Call.plain].map fun call => call.occasion.recordingId).Nodup := by
  decide

namespace Server

theorem recordsCaptures_recordingTo : (recordingTo "http://upstream").RecordsCaptures :=
  ⟨by decide, rfl, rfl⟩

/-- The recording of the call with a query does not answer the call without one, so both calls are
exchanges. -/
theorem exchanges_queried_plain :
    (recordingTo "http://upstream").exchanges [Call.queried, Call.plain] =
      [Exchange.queried, Exchange.plain] := by
  have first : (recordingTo "http://upstream").exchange? Call.queried = some Exchange.queried :=
    exchange?_eq_some_iff.mpr ⟨⟨unmatched_of_empty rfl _ _, rfl⟩, rfl, rfl, rfl⟩
  have accepts : (recordingTo "http://upstream").Accepts Call.queried :=
    ⟨Call.recordable_queried.slash, fun _ member => (List.not_mem_nil member).elim⟩
  obtain ⟨recordingEq, settingsEq, mappingsEq⟩ := next_spec recordsCaptures_recordingTo accepts
  rw [first] at mappingsEq
  have strict : ((recordingTo "http://upstream").next Call.queried).engine.settings.allowPartial =
      false := by
    rw [settingsEq]
    rfl
  have unmatched : (((recordingTo "http://upstream").next Call.queried).engine.resolve
      Call.plain.request Call.plain.occasion.now).1.matched = none := by
    rw [Option.eq_none_iff_forall_ne_some]
    intro winner matched
    have bounded : ∀ exchange ∈ [Exchange.queried], exchange.request.textCount < 2 ^ 53 := by
      intro exchange member
      obtain rfl := List.mem_singleton.mp member
      exact Call.recordable_queried.fits.textCount_lt
    obtain ⟨position, exchange, firstReplay, -⟩ := firstReplay_of_matched strict mappingsEq bounded
      matched
    have member := List.mem_of_getElem? firstReplay.recorded
    obtain rfl := List.mem_singleton.mp member
    have misses : ¬Exchange.queried.Replays (recordingTo "http://upstream").recording
        Call.plain.request := by decide +kernel
    exact misses firstReplay.replays
  have second : ((recordingTo "http://upstream").next Call.queried).exchange? Call.plain =
      some Exchange.plain := by
    refine exchange?_eq_some_iff.mpr ⟨⟨unmatched, ?_⟩, rfl, rfl, rfl⟩
    rw [recordingEq]
    rfl
  rw [exchanges, exchanges, exchanges, first, second]
  rfl

end Server

/-- Among all exchanges that a strict server has recorded since its registry was empty, those whose
recordings a repeated request meets in full include its own.  The first of them answers it, without
the network; so the request is answered with its own response if no other of them comes before. -/
theorem repeated_request_is_answered_by_first_replay {server : Server}
    (strict : server.engine.settings.allowPartial = false) (records : server.RecordsCaptures)
    (empty : server.engine.registry.mappings = []) {calls : List Call}
    (recordable : ∀ call ∈ calls, call.Recordable)
    (distinct : (calls.map fun call => call.occasion.recordingId).Nodup) {exchange : Exchange}
    (recorded : exchange ∈ server.exchanges calls) (occasion : Occasion) :
    exchange.Replays server.recording exchange.request ∧
      (∃ position first,
        FirstReplay server.recording (server.exchanges calls) exchange.request position first ∧
          ((server.after calls).respond occasion exchange.request).response = first.response ∧
          ∀ remote, (server.after calls).respond { occasion with remote := remote }
              exchange.request = (server.after calls).respond occasion exchange.request) ∧
      ∀ position,
        FirstReplay server.recording (server.exchanges calls) exchange.request position exchange →
          ((server.after calls).respond occasion exchange.request).response =
            exchange.response := by
  have answered := Server.exists_firstReplay strict records empty recordable distinct recorded
    occasion
  refine ⟨Server.replays_self_of_mem_exchanges recordable recorded _, answered, ?_⟩
  intro position own
  obtain ⟨_, first, firstReplay, responseEq, -⟩ := answered
  rw [responseEq, own.unique firstReplay]

/-- The call without a query is answered with its own response, although the call with one has been
recorded before. -/
theorem plain_call_gets_own_response :
    (((Server.recordingTo "http://upstream").after [Call.queried, Call.plain]).respond
        (.answering (.ofNat 3) 202) Call.plain.request).response = Response.new 201 := by
  have recorded : Exchange.plain ∈
      (Server.recordingTo "http://upstream").exchanges [Call.queried, Call.plain] := by
    rw [Server.exchanges_queried_plain]
    exact List.mem_cons_of_mem _ (List.mem_singleton_self _)
  obtain ⟨-, -, own⟩ := repeated_request_is_answered_by_first_replay rfl
    Server.recordsCaptures_recordingTo rfl (fun _ => Call.recordable_of_mem)
    Call.nodup_recordingIds recorded (.answering (.ofNat 3) 202)
  apply own 1
  rw [Server.exchanges_queried_plain]
  refine ⟨rfl, by decide +kernel, ?_⟩
  intro otherPosition other otherRecorded replays
  match otherPosition with
  | 0 =>
      obtain rfl := Option.some.inj otherRecorded
      revert replays
      decide +kernel
  | 1 =>
      obtain rfl := Option.some.inj otherRecorded
      exact le_rfl
  | _ + 2 => cases otherRecorded

/-- A repeated request need not be answered with its own response: a recording of another request
that it meets in full, with fewer conditions, answers in the place of its own. -/
theorem not_always_answered_with_own_response :
    ¬∀ server : Server, server.engine.settings.allowPartial = false → server.RecordsCaptures →
      server.engine.registry.mappings = [] → ∀ calls : List Call,
        (∀ call ∈ calls, call.Recordable) →
        (calls.map fun call => call.occasion.recordingId).Nodup →
        ∀ exchange ∈ server.exchanges calls, ∀ occasion,
          ((server.after calls).respond occasion exchange.request).response =
            exchange.response := by
  intro faithful
  have recorded : Exchange.queried ∈
      (Server.recordingTo "http://upstream").exchanges [Call.queried, Call.plain] := by
    rw [Server.exchanges_queried_plain]
    exact List.mem_cons_self
  have own := faithful _ rfl Server.recordsCaptures_recordingTo rfl _
    (fun _ => Call.recordable_of_mem) Call.nodup_recordingIds _ recorded (.answering (.ofNat 3) 202)
  obtain ⟨position, first, firstReplay, responseEq, -⟩ := Server.exists_firstReplay rfl
    Server.recordsCaptures_recordingTo rfl (fun _ => Call.recordable_of_mem)
    Call.nodup_recordingIds recorded (.answering (.ofNat 3) 202)
  rw [own] at responseEq
  rw [Server.exchanges_queried_plain] at firstReplay
  match position with
  | 0 =>
      obtain rfl := Option.some.inj firstReplay.recorded
      -- the recording of the call without a query has fewer conditions
      have replays : Exchange.plain.Replays (Server.recordingTo "http://upstream").recording
          Exchange.queried.request := by decide +kernel
      have fewer : ¬toLex (Exchange.queried.replayKey
          (Server.recordingTo "http://upstream").recording, 0) ≤
            toLex (Exchange.plain.replayKey
              (Server.recordingTo "http://upstream").recording, 1) := by decide
      exact fewer (firstReplay.least 1 Exchange.plain rfl replays)
  | 1 =>
      obtain rfl := Option.some.inj firstReplay.recorded
      exact absurd (congrArg Response.status responseEq) (by decide)
  | _ + 2 => cases firstReplay.recorded

end Understudy
