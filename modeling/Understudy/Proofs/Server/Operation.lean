import Understudy.Proofs.Recording.Run
import Understudy.Proofs.Scenario.Gating

/-!
# Operations on a server

What a call can leave behind, and the other ways to change a server.  A call that a mapping answers
counts the win of that mapping; a call that is recorded changes the registry; any other call leaves
everything but the draws.  A run performs calls, registrations, removals and explicit moves of
scenarios one after another.
-/

namespace Understudy

/-! ## Registration -/

namespace Engine

/-- The engine with a valid mapping: it stands in its place and its scenario is known. -/
def withMapping (engine : Engine) (mapping : Mapping) : Engine :=
  { engine with
    registry := ⟨Registry.place mapping engine.registry.mappings⟩
    scenarios := mapping.scenario.elim engine.scenarios engine.scenarios.ensure }

/-- A valid mapping is registered. -/
theorem exists_register_eq_ok (engine : Engine) {mapping : Mapping}
    (valid : mapping.problem? = none) :
    ∃ events, engine.register mapping = .ok (engine.withMapping mapping, events) := by
  rw [register, upsert, Registry.upsert, valid]
  cases inScenario : mapping.scenario with
  | none => exact ⟨_, by rw [withMapping, inScenario]; rfl⟩
  | some name => exact ⟨_, by rw [withMapping, inScenario]; rfl⟩

/-- A mapping with a problem is refused for it. -/
theorem register_eq_error (engine : Engine) {mapping : Mapping} {problem : MappingError}
    (invalid : mapping.problem? = some problem) : engine.register mapping = .error problem := by
  rw [register, upsert, Registry.upsert, invalid]

end Engine

namespace Server

/-! ## One call -/

theorem mapping_mem_of_matched {server : Server} {request : Request} {now : Instant}
    {winner : Candidate} (matched : (server.engine.resolve request now).1.matched = some winner) :
    winner.mapping ∈ server.engine.registry.mappings := by
  obtain ⟨position, contends⟩ := exists_contends_of_matched _ _ _ _ _ _ matched
  exact List.mem_of_getElem? contends.registered

theorem mapping_mem_of_closest {server : Server} {request : Request} {now : Instant}
    {winner : Candidate} (closest : (server.engine.resolve request now).1.closest = some winner) :
    winner.mapping ∈ server.engine.registry.mappings := by
  obtain ⟨position, contends⟩ := exists_contends_of_closest _ _ _ _ _ _ closest
  exact List.mem_of_getElem? contends.registered

/-- The mapping that the exchange of a request becomes; the closest mapping is its template. -/
def recordingOf (server : Server) (occasion : Occasion) (request : Request)
    (response : Response) : Mapping :=
  synthesize occasion.recordingId occasion.recordedAt
    ((server.engine.resolve request occasion.now).1.closest.map Candidate.mapping)
    server.recording request response

/-- What a call can leave behind. -/
inductive Leaves (server : Server) (occasion : Occasion) (request : Request) : Server → Prop where
  /-- A mapping answers, and its win is counted. -/
  | won {winner : Candidate} :
      (server.engine.resolve request occasion.now).1.matched = some winner →
      Leaves server occasion request
        { server with engine := { (server.engine.resolve request occasion.now).2.1 with
            scenarios := (server.engine.scenarios.recordWin winner.mapping).2 } }
  /-- Nothing answers and nothing is recorded. -/
  | unmatched :
      (server.engine.resolve request occasion.now).1.matched = none →
      Leaves server occasion request
        { server with engine := (server.engine.resolve request occasion.now).2.1 }
  /-- The network answers, and the exchange is recorded. -/
  | recorded {response : Response} :
      server.Forwards occasion request response →
      server.recording.isEnabled = true → server.recording.save = true →
      (server.recordingOf occasion request response).problem? = none →
      Leaves server occasion request
        { server with engine := ((server.engine.resolve request occasion.now).2.1).withMapping <|
            server.recordingOf occasion request response }

/-- The recording of an exchange is registered if it is valid. -/
theorem fst_record_eq (server : Server) (occasion : Occasion) (request : Request)
    (closest : Option Candidate) (response : Response) :
    (server.record occasion request closest response).1 =
      let recording := synthesize occasion.recordingId occasion.recordedAt
        (closest.map Candidate.mapping) server.recording request response
      if recording.problem? = none then
        { server with engine := server.engine.withMapping recording }
      else server := by
  dsimp only
  cases problem : (synthesize occasion.recordingId occasion.recordedAt
      (closest.map Candidate.mapping) server.recording request response).problem? with
  | none =>
      obtain ⟨events, registered⟩ := server.engine.exists_register_eq_ok problem
      rw [record, registered, if_pos rfl]
  | some reason =>
      rw [record, server.engine.register_eq_error problem, if_neg (Option.some_ne_none reason)]

/-- A call that the network answers is recorded if its recording is valid. -/
theorem server_respond_of_recorded {server : Server} {occasion : Occasion} {request : Request}
    {response : Response} (forwards : server.Forwards occasion request response)
    (enabled : server.recording.isEnabled = true) (saves : server.recording.save = true)
    (valid : (server.recordingOf occasion request response).problem? = none) :
    (server.respond occasion request).server =
      { server with engine := ((server.engine.resolve request occasion.now).2.1).withMapping <|
          server.recordingOf occasion request response } := by
  simp only [respond, forwards.unmatched, enabled, if_true, proxy, forwards.answered, saves,
    fst_record_eq]
  exact if_pos valid

/-- Every call leaves one of these. -/
theorem leaves_respond (server : Server) (occasion : Occasion) (request : Request) :
    server.Leaves occasion request (server.respond occasion request).server := by
  cases matched : (server.engine.resolve request occasion.now).1.matched with
  | some winner =>
      have left := Leaves.won matched
      simp only [respond, matched, Engine.recordWin]
      exact left
  | none =>
      have left := Leaves.unmatched matched
      cases enabled : server.recording.isEnabled with
      | false => simpa only [respond, matched, enabled, Bool.false_eq_true, if_false] using left
      | true =>
          cases answered : forward occasion.remote server.recording request with
          | error error =>
              simpa only [respond, matched, enabled, if_true, proxy, answered] using left
          | ok response =>
              cases saves : server.recording.save with
              | false =>
                  simpa only [respond, matched, enabled, if_true, proxy, answered, saves,
                    Bool.false_eq_true, if_false] using left
              | true =>
                  by_cases valid : (server.recordingOf occasion request response).problem? = none
                  · rw [server_respond_of_recorded ⟨matched, answered⟩ enabled saves valid]
                    exact .recorded ⟨matched, answered⟩ enabled saves valid
                  · simp only [respond, matched, enabled, if_true, proxy, answered, saves,
                      fst_record_eq]
                    rw [recordingOf] at valid
                    rwa [if_neg valid]

theorem Leaves.settings_eq {server behind : Server} {occasion : Occasion} {request : Request}
    (left : server.Leaves occasion request behind) :
    behind.engine.settings = server.engine.settings := by
  cases left with
  | won matched => rfl
  | unmatched matched => rfl
  | recorded forwards enabled saves valid => rfl

end Server

/-! ## Runs -/

/-- A change of a server. -/
inductive Operation where
  | call (call : Call)
  | register (mapping : Mapping)
  | remove (id : Identifier)
  /-- An explicit move of a scenario. -/
  | advance (name state : String)

namespace Server

/-- The server behind an operation; a mapping that is refused changes nothing. -/
def perform (server : Server) : Operation → Server
  | .call call => server.next call
  | .register mapping =>
      match server.engine.register mapping with
      | .ok (engine, _) => { server with engine := engine }
      | .error _ => server
  | .remove id => { server with engine := (server.engine.remove id).2.1 }
  | .advance name state =>
      { server with engine := { server.engine with
          scenarios := server.engine.scenarios.advance name state } }

/-- The server behind several operations. -/
def performAll (server : Server) (operations : List Operation) : Server :=
  operations.foldl perform server

variable (server : Server)

theorem performAll_cons (operation : Operation) (rest : List Operation) :
    server.performAll (operation :: rest) = (server.perform operation).performAll rest :=
  rfl

theorem performAll_append (before after : List Operation) :
    server.performAll (before ++ after) = (server.performAll before).performAll after :=
  List.foldl_append

/-- A registration leaves the server as it was or with the mapping in its place. -/
theorem perform_register (mapping : Mapping) :
    server.perform (.register mapping) =
      if mapping.problem? = none then { server with engine := server.engine.withMapping mapping }
      else server := by
  cases problem : mapping.problem? with
  | none =>
      obtain ⟨events, registered⟩ := server.engine.exists_register_eq_ok problem
      rw [perform, registered, if_pos rfl]
  | some reason =>
      rw [perform, server.engine.register_eq_error problem, if_neg (Option.some_ne_none reason)]

theorem remove_frame (engine : Engine) (id : Identifier) :
    (engine.remove id).2.1.settings = engine.settings ∧
      (engine.remove id).2.1.scenarios = engine.scenarios := by
  unfold Engine.remove
  cases engine.registry.find? id with
  | none => exact ⟨rfl, rfl⟩
  | some mapping => exact ⟨rfl, rfl⟩

/-- No operation changes how requests are resolved. -/
theorem settings_perform (operation : Operation) :
    (server.perform operation).engine.settings = server.engine.settings := by
  cases operation with
  | call call => exact (server.leaves_respond call.occasion call.request).settings_eq
  | register mapping =>
      rw [perform_register]
      split
      · rfl
      · rfl
  | remove id => exact (remove_frame server.engine id).1
  | advance name state => rfl

theorem settings_performAll (operations : List Operation) :
    (server.performAll operations).engine.settings = server.engine.settings := by
  induction operations generalizing server with
  | nil => rfl
  | cons operation rest inductionHypothesis =>
      rw [performAll_cons, inductionHypothesis, settings_perform]

end Server

end Understudy
