import Understudy.Proofs.Server.Frame

/-!
# Visits

A call together with the server that it meets.  The resolution, the settings and the network decide
how the call is answered, and whether its exchange becomes a mapping of the registry.
-/

namespace Understudy

/-- A call and the server that it meets. -/
structure Visit where
  server : Server
  call : Call

namespace Visit

/-- The resolution of the request. -/
def resolution (visit : Visit) : Resolution :=
  (visit.server.engine.resolve visit.call.request visit.call.occasion.now).1

def answer (visit : Visit) : Answer :=
  visit.server.respond visit.call.occasion visit.call.request

/-- A mapping answers the call. -/
def isMatched (visit : Visit) : Bool :=
  visit.resolution.matched.isSome

/-- The call is forwarded, and the network answers it. -/
def isProxied (visit : Visit) : Bool :=
  visit.server.recording.isEnabled && (visit.server.exchange? visit.call).isSome

/-- How the call is answered. -/
def outcome (visit : Visit) : Outcome :=
  if visit.isMatched then .matched
  else if !visit.server.recording.isEnabled then .unmatched
  else if visit.isProxied then .proxied
  else .proxyError

/-- The cell that counts the call. -/
def cell (visit : Visit) : String × String :=
  (visit.call.request.method, visit.outcome.label)

/-- The mapping that the exchange of the call becomes, if it is saved. -/
def recording? (visit : Visit) : Option Mapping :=
  (visit.server.exchange? visit.call).bind fun exchange =>
    let mapping :=
      visit.server.recordingOf visit.call.occasion visit.call.request exchange.response
    if visit.server.recording.isEnabled && visit.server.recording.save &&
        mapping.problem?.isNone then some mapping
    else none

variable {visit : Visit}

theorem recording?_eq_some_iff {mapping : Mapping} :
    visit.recording? = some mapping ↔
      ∃ response, visit.server.Saves visit.call.occasion visit.call.request response ∧
        visit.server.recordingOf visit.call.occasion visit.call.request response = mapping := by
  rw [recording?, Option.bind_eq_some_iff]
  constructor
  · rintro ⟨exchange, found, saved⟩
    obtain ⟨forwards, -, -, -⟩ := Server.exchange?_eq_some_iff.mp found
    dsimp only at saved
    split at saved
    · next asked =>
        rw [Bool.and_eq_true, Bool.and_eq_true, Option.isNone_iff_eq_none] at asked
        obtain ⟨⟨enabled, saves⟩, valid⟩ := asked
        exact ⟨exchange.response,
          ⟨forwards, enabled, saves, (Mapping.validate_eq_ok_iff _).mpr valid⟩,
          Option.some.inj saved⟩
    · cases saved
  · rintro ⟨response, saves, rfl⟩
    have valid := (Mapping.validate_eq_ok_iff _).mp saves.valid
    refine ⟨⟨visit.call.occasion.recordingId, visit.call.occasion.recordedAt, visit.call.request,
      response⟩, Server.exchange?_eq_some_iff.mpr ⟨saves.forwards, rfl, rfl, rfl⟩, ?_⟩
    simp only [saves.enabled, saves.asked, valid, Option.isNone_none, Bool.and_self, if_true]

theorem exchange?_of_matched {winner : Candidate}
    (matched : visit.resolution.matched = some winner) :
    visit.server.exchange? visit.call = none := by
  rw [resolution] at matched
  rw [Server.exchange?, matched]

theorem exchange?_of_failed {error : ForwardError} (unmatched : visit.resolution.matched = none)
    (failed : forward visit.call.occasion.remote visit.server.recording visit.call.request =
      .error error) : visit.server.exchange? visit.call = none := by
  rw [resolution] at unmatched
  rw [Server.exchange?, unmatched, failed]

theorem exchange?_of_answered {response : Response} (unmatched : visit.resolution.matched = none)
    (answered : forward visit.call.occasion.remote visit.server.recording visit.call.request =
      .ok response) :
    visit.server.exchange? visit.call =
      some ⟨visit.call.occasion.recordingId, visit.call.occasion.recordedAt, visit.call.request,
        response⟩ :=
  Server.exchange?_eq_some_iff.mpr ⟨⟨unmatched, answered⟩, rfl, rfl, rfl⟩

theorem recording?_of_exchange?_eq_none (nothing : visit.server.exchange? visit.call = none) :
    visit.recording? = none := by
  rw [recording?, nothing, Option.bind_none]

theorem length_recording?_of_found {exchange : Exchange}
    (found : visit.server.exchange? visit.call = some exchange)
    (enabled : visit.server.recording.isEnabled = true) :
    visit.recording?.toList.length =
      if visit.server.recording.save = true ∧ (visit.server.recordingOf visit.call.occasion
        visit.call.request exchange.response).problem? = none then 1 else 0 := by
  rw [recording?, found, Option.bind_some]
  simp only [enabled, Bool.true_and, Bool.and_eq_true, Option.isNone_iff_eq_none]
  split
  · rfl
  · rfl

theorem recording?_of_disabled (disabled : visit.server.recording.isEnabled = false) :
    visit.recording? = none := by
  apply Option.eq_none_iff_forall_ne_some.mpr
  intro mapping saved
  obtain ⟨response, saves, -⟩ := recording?_eq_some_iff.mp saved
  exact Server.not_saves_of_disabled disabled response saves

theorem outcome_eq_matched_iff : visit.outcome = .matched ↔ visit.isMatched = true := by
  unfold outcome
  split_ifs with matched disabled proxied
  · exact iff_of_true rfl matched
  · exact iff_of_false nofun matched
  · exact iff_of_false nofun matched
  · exact iff_of_false nofun matched

theorem outcome_eq_proxied_iff : visit.outcome = .proxied ↔ visit.isProxied = true := by
  unfold outcome
  split_ifs with matched disabled proxied
  · obtain ⟨winner, matchedBy⟩ := Option.isSome_iff_exists.mp matched
    have unanswered : ¬visit.isProxied = true := by
      rw [isProxied, exchange?_of_matched matchedBy, Option.isSome_none, Bool.and_false]
      exact Bool.false_ne_true
    exact iff_of_false nofun unanswered
  · have unanswered : ¬visit.isProxied = true := by
      rw [Bool.not_eq_true'] at disabled
      rw [isProxied, disabled, Bool.false_and]
      exact Bool.false_ne_true
    exact iff_of_false nofun unanswered
  · exact iff_of_true rfl proxied
  · exact iff_of_false nofun proxied

/-- Only a proxied call is recorded. -/
theorem isProxied_of_recording?_eq_some {mapping : Mapping}
    (saved : visit.recording? = some mapping) : visit.isProxied = true := by
  obtain ⟨response, saves, -⟩ := recording?_eq_some_iff.mp saved
  rw [isProxied, saves.enabled, exchange?_of_answered saves.forwards.unmatched
    saves.forwards.answered]
  rfl

/-- The registry behind a call holds its recording, if it is saved, and is otherwise that before. -/
theorem registry_answer (visit : Visit) :
    visit.answer.server.engine.registry.mappings =
      visit.recording?.elim visit.server.engine.registry.mappings fun mapping =>
        Registry.place mapping visit.server.engine.registry.mappings := by
  cases saved : visit.recording? with
  | some mapping =>
      obtain ⟨response, saves, rfl⟩ := recording?_eq_some_iff.mp saved
      rw [answer, Server.server_respond_of_recorded saves.forwards saves.enabled saves.asked
        ((Mapping.validate_eq_ok_iff _).mp saves.valid)]
      rfl
  | none =>
      have nothing (response : Response) :
          ¬visit.server.Saves visit.call.occasion visit.call.request response := by
        intro saves
        have found := recording?_eq_some_iff.mpr ⟨response, saves, rfl⟩
        rw [saved] at found
        cases found
      cases matched : visit.resolution.matched with
      | some winner => rw [answer, Server.server_respond_of_matched matched]; rfl
      | none => rw [answer, Server.server_respond_of_not_saves matched nothing]; rfl

/-- Under a new identifier the recording stands at the end of the registry. -/
theorem registry_answer_of_fresh
    (fresh : visit.server.engine.registry.find? visit.call.occasion.recordingId = none) :
    visit.answer.server.engine.registry.mappings =
      visit.server.engine.registry.mappings ++ visit.recording?.toList := by
  rw [registry_answer]
  cases saved : visit.recording? with
  | none => exact (List.append_nil _).symm
  | some mapping =>
      obtain ⟨response, saves, rfl⟩ := recording?_eq_some_iff.mp saved
      exact Registry.place_eq_append (Registry.forall_ne_of_find?_eq_none fresh)

end Visit

end Understudy
