import Understudy.Proofs.Registry.Dictionary
import Understudy.Proofs.Scenario.Counting
import Understudy.Proofs.Server.Operation

/-!
# What a call leaves alone

A call changes the scenarios only by the win of the mapping that answers it, and the registry only
by the recording of an exchange.  So with a winner the registry stays as it is, without one the
scenarios do, and a call that is refused by the network or that finds no network leaves both.
-/

namespace Understudy

namespace Server

/-- The call finds no winner, the network answers it with `response`, and the exchange is saved
under settings that ask for it, as a mapping that can be registered. -/
structure Saves (server : Server) (occasion : Occasion) (request : Request)
    (response : Response) : Prop where
  forwards : server.Forwards occasion request response
  enabled : server.recording.isEnabled = true
  asked : server.recording.save = true
  valid : (server.recordingOf occasion request response).validate = .ok ()

variable {server : Server} {occasion : Occasion} {request : Request}

/-- A call that a mapping answers leaves all but the win and the draws. -/
theorem server_respond_of_matched {winner : Candidate}
    (matched : (server.engine.resolve request occasion.now).1.matched = some winner) :
    (server.respond occasion request).server =
      { server with engine := { (server.engine.resolve request occasion.now).2.1 with
          scenarios := (server.engine.scenarios.recordWin winner.mapping).2 } } := by
  have left := server.leaves_respond occasion request
  generalize (server.respond occasion request).server = behind at left
  cases left with
  | won matchedBy => rw [Option.some.inj (matched.symm.trans matchedBy)]
  | unmatched unmatched => rw [unmatched] at matched; cases matched
  | recorded forwards _ _ _ => rw [forwards.unmatched] at matched; cases matched

/-- A call that saves a new mapping leaves all but the end of the registry and the draws. -/
theorem server_respond_of_saves {response : Response}
    (saves : server.Saves occasion request response)
    (fresh : server.engine.registry.find? occasion.recordingId = none) :
    (server.respond occasion request).server =
      { server with engine := { (server.engine.resolve request occasion.now).2.1 with
          registry := ⟨server.engine.registry.mappings ++
            [server.recordingOf occasion request response]⟩ } } := by
  have valid := (Mapping.validate_eq_ok_iff _).mp saves.valid
  have placed : Registry.place (server.recordingOf occasion request response)
      server.engine.registry.mappings =
        server.engine.registry.mappings ++ [server.recordingOf occasion request response] :=
    Registry.place_eq_append (Registry.forall_ne_of_find?_eq_none fresh)
  rw [server_respond_of_recorded saves.forwards saves.enabled saves.asked valid, Engine.withMapping]
  exact congrArg (fun mappings => ({ server with engine :=
    { (server.engine.resolve request occasion.now).2.1 with registry := ⟨mappings⟩ } } : Server))
    placed

/-- A call without a winner that saves nothing leaves all but the draws. -/
theorem server_respond_of_not_saves
    (unmatched : (server.engine.resolve request occasion.now).1.matched = none)
    (nothing : ∀ response, ¬server.Saves occasion request response) :
    (server.respond occasion request).server =
      { server with engine := (server.engine.resolve request occasion.now).2.1 } := by
  have left := server.leaves_respond occasion request
  generalize (server.respond occasion request).server = behind at left
  cases left with
  | won matched => rw [unmatched] at matched; cases matched
  | unmatched _ => rfl
  | recorded forwards enabled asked valid =>
      exact absurd ⟨forwards, enabled, asked, (Mapping.validate_eq_ok_iff _).mpr valid⟩
        (nothing _)

theorem Leaves.recording_eq {behind : Server} (left : server.Leaves occasion request behind) :
    behind.recording = server.recording := by
  cases left with
  | won _ => rfl
  | unmatched _ => rfl
  | recorded _ _ _ _ => rfl

/-- A recording belongs to no scenario, so a call without a winner leaves the scenarios alone. -/
theorem Leaves.scenarios_eq {behind : Server} (left : server.Leaves occasion request behind)
    (unmatched : (server.engine.resolve request occasion.now).1.matched = none) :
    behind.engine.scenarios = server.engine.scenarios := by
  cases left with
  | won matched => rw [unmatched] at matched; cases matched
  | unmatched _ => rfl
  | recorded _ _ _ _ => rfl

theorem not_saves_of_failed {error : ForwardError}
    (failed : forward occasion.remote server.recording request = .error error)
    (response : Response) : ¬server.Saves occasion request response := by
  intro saves
  rw [saves.forwards.answered] at failed
  cases failed

theorem not_saves_of_disabled (disabled : server.recording.isEnabled = false)
    (response : Response) : ¬server.Saves occasion request response := by
  intro saves
  rw [saves.enabled] at disabled
  cases disabled

theorem response_respond_of_failed {error : ForwardError}
    (unmatched : (server.engine.resolve request occasion.now).1.matched = none)
    (enabled : server.recording.isEnabled = true)
    (failed : forward occasion.remote server.recording request = .error error) :
    (server.respond occasion request).response = proxyFailure error := by
  simp only [respond, unmatched, enabled, if_true, proxy, failed]

theorem response_respond_of_disabled
    (unmatched : (server.engine.resolve request occasion.now).1.matched = none)
    (disabled : server.recording.isEnabled = false) :
    (server.respond occasion request).response =
      notFound (server.engine.resolve request occasion.now).1.closest := by
  simp only [respond, unmatched, disabled, Bool.false_eq_true, if_false]

end Server

/-- A call keeps the settings.  If a mapping answers it, the registry stays as it is and the
scenarios are those behind one win of that mapping, which touches no other scenario.  If none does,
the scenarios stay as they are, and the registry gets the recording of the exchange at its end, if
the exchange is saved under a new identifier, and else stays as it is; so it does where the call is
answered with a failure of the network or with the news that nothing matched. -/
theorem call_changes_only_what_its_outcome_allows (server : Server) (occasion : Occasion)
    (request : Request) :
    let engine := server.engine
    let resolution := (engine.resolve request occasion.now).1
    let answer := server.respond occasion request
    let behind := answer.server.engine
    answer.server.recording = server.recording ∧ behind.settings = engine.settings ∧
    (∀ winner, resolution.matched = some winner →
      behind.registry = engine.registry ∧
      behind.scenarios = (engine.scenarios.recordWin winner.mapping).2 ∧
      ∀ name, winner.mapping.scenario ≠ some name →
        behind.scenarios.find? name = engine.scenarios.find? name) ∧
    (resolution.matched = none →
      behind.scenarios = engine.scenarios ∧
      (∀ response, server.Saves occasion request response →
        engine.registry.find? occasion.recordingId = none →
          behind.registry.mappings =
            engine.registry.mappings ++ [server.recordingOf occasion request response]) ∧
      ((∀ response, ¬server.Saves occasion request response) →
        behind.registry = engine.registry) ∧
      (∀ error, server.recording.isEnabled = true →
        forward occasion.remote server.recording request = .error error →
          answer.response = proxyFailure error ∧ answer.response.status = 502 ∧
          behind.registry = engine.registry) ∧
      (server.recording.isEnabled = false →
        answer.response = notFound resolution.closest ∧ answer.response.status = 404 ∧
        behind.registry = engine.registry)) := by
  intro engine resolution answer behind
  have left := server.leaves_respond occasion request
  refine ⟨left.recording_eq, left.settings_eq, ?matched, ?unmatched⟩
  case matched =>
    intro winner matched
    have serverEq := Server.server_respond_of_matched matched
    have scenariosEq : behind.scenarios = (engine.scenarios.recordWin winner.mapping).2 :=
      congrArg (fun after => after.engine.scenarios) serverEq
    refine ⟨congrArg (fun after => after.engine.registry) serverEq, scenariosEq, ?_⟩
    intro name other
    rw [scenariosEq, engine.scenarios.find?_recordWin_of_scenario_ne other]
  case unmatched =>
    intro unmatched
    have kept : (∀ response, ¬server.Saves occasion request response) →
        behind.registry = engine.registry := fun nothing =>
      congrArg (fun after => after.engine.registry)
        (Server.server_respond_of_not_saves unmatched nothing)
    refine ⟨left.scenarios_eq unmatched, ?saved, kept, ?failed, ?disabled⟩
    case saved =>
      intro response saves fresh
      exact congrArg (fun after => after.engine.registry.mappings)
        (Server.server_respond_of_saves saves fresh)
    case failed =>
      intro error enabled failed
      have answered := Server.response_respond_of_failed unmatched enabled failed
      exact ⟨answered, congrArg Response.status answered, kept (Server.not_saves_of_failed failed)⟩
    case disabled =>
      intro disabled
      have answered := Server.response_respond_of_disabled unmatched disabled
      exact ⟨answered, congrArg Response.status answered,
        kept (Server.not_saves_of_disabled disabled)⟩

/-- The first exchange of a server that records is the only mapping behind it. -/
theorem first_exchange_is_only_mapping :
    ((Server.recordingTo "http://upstream").respond (.answering (.ofNat 1) 200)
        (Request.new "GET" "/a")).server.engine.registry.mappings =
      [(Server.recordingTo "http://upstream").recordingOf (.answering (.ofNat 1) 200)
        (Request.new "GET" "/a") (Response.new 200)] := by
  have forwards : (Server.recordingTo "http://upstream").Forwards (.answering (.ofNat 1) 200)
      (Request.new "GET" "/a") (Response.new 200) :=
    ⟨Server.unmatched_of_empty rfl _ _, rfl⟩
  have valid : ((Server.recordingTo "http://upstream").recordingOf (.answering (.ofNat 1) 200)
      (Request.new "GET" "/a") (Response.new 200)).problem? = none := by
    rw [Server.recordingOf, synthesize_of_captures rfl]
    exact problem?_synthesize rfl _ _ _ _
  obtain ⟨-, -, -, without⟩ := call_changes_only_what_its_outcome_allows
    (Server.recordingTo "http://upstream") (.answering (.ofNat 1) 200) (Request.new "GET" "/a")
  exact (without forwards.unmatched).2.1 _
    ⟨forwards, by decide, rfl, (Mapping.validate_eq_ok_iff _).mpr valid⟩ rfl

end Understudy
