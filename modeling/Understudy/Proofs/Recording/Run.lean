import Understudy.Proofs.Recording.Convergence

/-!
# Runs of a recording server

A run is a sequence of calls.  Each call that no mapping answers and that the network answers is
an exchange, and the registry of a recording server grows by exactly the recordings of the
exchanges, in their order.
-/

namespace Understudy

/-- A request and its surroundings. -/
structure Call where
  occasion : Occasion
  request : Request

/-- A call that was forwarded, and what came back. -/
structure Exchange where
  id : Identifier
  recordedAt : Instant
  request : Request
  response : Response

/-- The mapping that an exchange is recorded as. -/
def Exchange.recording (settings : RecordingSettings) (exchange : Exchange) : Mapping :=
  synthesize exchange.id exchange.recordedAt none settings exchange.request exchange.response

namespace Server

/-- The exchange that a call is, if it is one. -/
def exchange? (server : Server) (call : Call) : Option Exchange :=
  match (server.engine.resolve call.request call.occasion.now).1.matched with
  | some _ => none
  | none =>
      match forward call.occasion.remote server.recording call.request with
      | .ok response =>
          some ⟨call.occasion.recordingId, call.occasion.recordedAt, call.request, response⟩
      | .error _ => none

/-- The server behind a call. -/
def next (server : Server) (call : Call) : Server :=
  (server.respond call.occasion call.request).server

/-- The server behind a run. -/
def after (server : Server) : List Call → Server
  | [] => server
  | call :: rest => (server.next call).after rest

/-- The exchanges of a run in order. -/
def exchanges (server : Server) : List Call → List Exchange
  | [] => []
  | call :: rest => (server.exchange? call).toList ++ (server.next call).exchanges rest

/-! ## One call -/

theorem exchange?_eq_some_iff {server : Server} {call : Call} {exchange : Exchange} :
    server.exchange? call = some exchange ↔
      server.Forwards call.occasion call.request exchange.response ∧
        exchange.id = call.occasion.recordingId ∧
        exchange.recordedAt = call.occasion.recordedAt ∧ exchange.request = call.request := by
  rcases exchange with ⟨id, recordedAt, request, response⟩
  unfold exchange?
  constructor
  · intro found
    split at found
    · cases found
    · split at found
      · cases found
        exact ⟨⟨‹_›, ‹_›⟩, rfl, rfl, rfl⟩
      · cases found
  · rintro ⟨⟨unmatched, answered⟩, rfl, rfl, rfl⟩
    simp [unmatched, answered]

/-- The exchange of the call can be registered: its request has a path, and no mapping has its
identifier yet. -/
structure Accepts (server : Server) (call : Call) : Prop where
  slash : call.request.path.toList.head? = some '/'
  fresh : ∀ mapping ∈ server.engine.registry.mappings, mapping.id ≠ call.occasion.recordingId

/-- What a call leaves: the settings, and the registry with the recording of its exchange. -/
theorem next_spec {server : Server} {call : Call} (records : server.RecordsCaptures)
    (accepts : server.Accepts call) :
    (server.next call).recording = server.recording ∧
      (server.next call).engine.settings = server.engine.settings ∧
      (server.next call).engine.registry.mappings = server.engine.registry.mappings ++
        (server.exchange? call).toList.map (Exchange.recording server.recording) := by
  cases found : server.exchange? call with
  | some exchange =>
      obtain ⟨forwards, idEq, recordedAtEq, requestEq⟩ := exchange?_eq_some_iff.mp found
      obtain ⟨-, serverEq⟩ := respond_of_forwards records forwards accepts.slash accepts.fresh
      rw [next, serverEq]
      refine ⟨rfl, rfl, ?_⟩
      simp only [Option.toList_some, List.map_cons, List.map_nil, Exchange.recording, idEq,
        recordedAtEq, requestEq]
  | none =>
      rw [Option.toList_none, List.map_nil, List.append_nil]
      cases matched : (server.engine.resolve call.request call.occasion.now).1.matched with
      | some winner =>
          obtain ⟨-, registry, recording, settings, -⟩ := respond_of_matched matched
          exact ⟨recording, settings, congrArg Registry.mappings registry⟩
      | none =>
          cases answered : forward call.occasion.remote server.recording call.request with
          | ok response => simp [exchange?, matched, answered] at found
          | error error =>
              rw [next, respond_of_failed records matched answered]
              exact ⟨rfl, rfl, rfl⟩

/-! ## All calls -/

/-- What a run leaves: the settings, and the registry with the recordings of its exchanges. -/
theorem after_spec {server : Server} {calls : List Call} (records : server.RecordsCaptures)
    (slash : ∀ call ∈ calls, call.request.path.toList.head? = some '/')
    (fresh : ∀ mapping ∈ server.engine.registry.mappings, ∀ call ∈ calls,
      mapping.id ≠ call.occasion.recordingId)
    (distinct : (calls.map fun call => call.occasion.recordingId).Nodup) :
    (server.after calls).recording = server.recording ∧
      (server.after calls).engine.settings = server.engine.settings ∧
      (server.after calls).engine.registry.mappings = server.engine.registry.mappings ++
        (server.exchanges calls).map (Exchange.recording server.recording) := by
  induction calls generalizing server with
  | nil => exact ⟨rfl, rfl, (List.append_nil _).symm⟩
  | cons call rest inductionHypothesis =>
      rw [List.map_cons, List.nodup_cons] at distinct
      obtain ⟨unused, distinctRest⟩ := distinct
      have accepts : server.Accepts call :=
        ⟨slash call List.mem_cons_self, fun mapping member =>
          fresh mapping member call List.mem_cons_self⟩
      obtain ⟨recordingEq, settingsEq, mappingsEq⟩ := next_spec records accepts
      have recordsNext : (server.next call).RecordsCaptures := by
        constructor <;> rw [recordingEq]
        exacts [records.enabled, records.saves, records.captures]
      have freshNext : ∀ mapping ∈ (server.next call).engine.registry.mappings, ∀ later ∈ rest,
          mapping.id ≠ later.occasion.recordingId := by
        intro mapping member later laterMember
        rw [mappingsEq, List.mem_append, List.mem_map] at member
        rcases member with earlier | ⟨exchange, found, rfl⟩
        · exact fresh mapping earlier later (List.mem_cons_of_mem _ laterMember)
        · obtain ⟨-, idEq, -, -⟩ := exchange?_eq_some_iff.mp (Option.mem_toList.mp found)
          intro same
          apply unused
          rw [← idEq]
          exact List.mem_map.mpr ⟨later, laterMember, same.symm⟩
      obtain ⟨recordingRest, settingsRest, mappingsRest⟩ := inductionHypothesis recordsNext
        (fun later member => slash later (List.mem_cons_of_mem _ member)) freshNext distinctRest
      refine ⟨recordingRest.trans recordingEq, settingsRest.trans settingsEq, ?_⟩
      calc
        (server.after (call :: rest)).engine.registry.mappings =
            (server.next call).engine.registry.mappings ++ ((server.next call).exchanges rest).map
              (Exchange.recording (server.next call).recording) := mappingsRest
        _ = server.engine.registry.mappings ++
            (server.exchanges (call :: rest)).map (Exchange.recording server.recording) := by
          rw [mappingsEq, recordingEq, List.append_assoc, ← List.map_append, exchanges]

/-- Every exchange of a run is one of its calls, and its method is legal. -/
theorem exists_call_of_mem_exchanges {server : Server} {calls : List Call} {exchange : Exchange}
    (member : exchange ∈ server.exchanges calls) :
    ∃ call ∈ calls, exchange.request = call.request ∧
      Http.isToken exchange.request.method = true := by
  induction calls generalizing server with
  | nil => cases member
  | cons call rest inductionHypothesis =>
      rcases List.mem_append.mp member with first | later
      · obtain ⟨forwards, -, -, requestEq⟩ :=
          exchange?_eq_some_iff.mp (Option.mem_toList.mp first)
        refine ⟨call, List.mem_cons_self, requestEq, ?_⟩
        rw [requestEq]
        exact isToken_method_of_forward_eq_ok forwards.answered
      · obtain ⟨origin, originMember, same⟩ := inductionHypothesis later
        exact ⟨origin, List.mem_cons_of_mem _ originMember, same⟩

end Server

end Understudy
