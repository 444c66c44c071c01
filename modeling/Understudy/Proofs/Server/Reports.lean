import Understudy.Proofs.Registry.Gauge
import Understudy.Proofs.Resolution.Failures
import Understudy.Proofs.Server.Visit

/-!
# What calls report

Every call reports one request, with its method and how it was answered, and a recording exactly if
one is placed into the registry.  No other operation on a server reports either.
-/

namespace Understudy

/-! ## Events -/

/-- The events report requests with these labels and this number of recordings. -/
structure Reports (events : List Event) (cells : List (String × String)) (recordings : Nat) :
    Prop where
  cells_eq : events.flatMap Event.cells = cells
  recordings_eq : (events.map Event.recordings).sum = recordings

namespace Reports

variable {before events : List Event} {cells : List (String × String)} {recordings : Nat}

theorem append {cellsBefore : List (String × String)} {recordingsBefore : Nat}
    (first : Reports before cellsBefore recordingsBefore)
    (second : Reports events cells recordings) :
    Reports (before ++ events) (cellsBefore ++ cells) (recordingsBefore + recordings) where
  cells_eq := by rw [List.flatMap_append, first.cells_eq, second.cells_eq]
  recordings_eq := by
    rw [List.map_append, List.sum_append, first.recordings_eq, second.recordings_eq]

/-- Events that report neither may stand before others. -/
theorem after_silence (silent : Reports before [] 0) (reports : Reports events cells recordings) :
    Reports (before ++ events) cells recordings := by
  have both := silent.append reports
  rwa [List.nil_append, zero_add] at both

theorem cons_request (reports : Reports events cells recordings) (method outcome : String) :
    Reports (.request method outcome :: events) ((method, outcome) :: cells) recordings where
  cells_eq := congrArg ((method, outcome) :: ·) reports.cells_eq
  recordings_eq := (zero_add _).trans reports.recordings_eq

theorem of_reportsSize {engine behind : Engine} (reports : engine.ReportsSize behind events) :
    Reports events [] 0 :=
  ⟨reports.cells_eq, reports.recordings_eq⟩

/-- A resolution reports failures of matchers only. -/
theorem resolve (engine : Engine) (request : Request) (now : Instant) :
    Reports (engine.resolve request now).2.2 [] 0 := by
  have aside : ∀ event ∈ (engine.resolve request now).2.2,
      event.cells = [] ∧ event.recordings = 0 := by
    intro event member
    rcases eq_of_mem_events_resolveUnder member with ⟨kind, rfl⟩ | ⟨line, rfl⟩
    · exact ⟨rfl, rfl⟩
    · exact ⟨rfl, rfl⟩
  constructor
  · exact List.flatMap_eq_nil_iff.mpr fun event member => (aside event member).1
  · apply List.sum_eq_zero
    intro amount member
    obtain ⟨event, reported, rfl⟩ := List.mem_map.mp member
    exact (aside event reported).2

/-- A recording is reported exactly if it is registered. -/
theorem record (server : Server) (occasion : Occasion) (request : Request)
    (closest : Option Candidate) (response : Response) :
    Reports (server.record occasion request closest response).2 []
      (if (synthesize occasion.recordingId occasion.recordedAt (closest.map Candidate.mapping)
        server.recording request response).problem? = none then 1 else 0) := by
  cases problem : (synthesize occasion.recordingId occasion.recordedAt
      (closest.map Candidate.mapping) server.recording request response).problem? with
  | none =>
      obtain ⟨events, registered⟩ := server.engine.exists_register_eq_ok problem
      have silent : Reports events [] 0 :=
        .of_reportsSize (server.engine.reportsSize_register registered)
      rw [Server.record, registered, if_pos rfl]
      exact silent.after_silence ⟨rfl, rfl⟩
  | some reason =>
      rw [Server.record, server.engine.register_eq_error problem,
        if_neg (Option.some_ne_none reason)]
      exact ⟨rfl, rfl⟩

/-- A forwarded request that the network answers is proxied, and recorded if that is asked for. -/
theorem proxy_of_answered {server : Server} {occasion : Occasion} {request : Request}
    {response : Response}
    (answered : forward occasion.remote server.recording request = .ok response)
    (closest : Option Candidate) :
    Reports (server.proxy occasion request closest).events
      [(request.method, Outcome.proxied.label)]
      (if server.recording.save = true ∧ (synthesize occasion.recordingId occasion.recordedAt
        (closest.map Candidate.mapping) server.recording request response).problem? = none
        then 1 else 0) := by
  rw [Server.proxy, answered]
  apply cons_request
  cases saves : server.recording.save with
  | false => exact ⟨rfl, rfl⟩
  | true => simpa using record server occasion request closest response

theorem proxy_of_failed {server : Server} {occasion : Occasion} {request : Request}
    {error : ForwardError}
    (failed : forward occasion.remote server.recording request = .error error)
    (closest : Option Candidate) :
    Reports (server.proxy occasion request closest).events
      [(request.method, Outcome.proxyError.label)] 0 := by
  rw [Server.proxy, failed]
  exact ⟨rfl, rfl⟩

/-- A call reports one request, in its cell, and its recording if it is saved. -/
theorem respond (visit : Visit) :
    Reports visit.answer.events [visit.cell] visit.recording?.toList.length := by
  have resolving := Reports.resolve visit.server.engine visit.call.request visit.call.occasion.now
  unfold Visit.cell Visit.outcome Visit.isMatched Visit.isProxied
  cases matched : visit.resolution.matched with
  | some winner =>
      rw [Visit.recording?_of_exchange?_eq_none (Visit.exchange?_of_matched matched)]
      rw [Visit.resolution] at matched
      simp only [Visit.answer, Server.respond, matched]
      exact resolving.after_silence ⟨rfl, rfl⟩
  | none =>
      have silent : Reports ((visit.server.engine.resolve visit.call.request
          visit.call.occasion.now).2.2 ++
            [.resolution "unmatched" visit.call.occasion.microseconds]) [] 0 :=
        resolving.after_silence ⟨rfl, rfl⟩
      have unmatched := matched
      rw [Visit.resolution] at unmatched
      simp only [Visit.answer, Server.respond, unmatched]
      cases enabled : visit.server.recording.isEnabled with
      | false =>
          rw [Visit.recording?_of_disabled enabled]
          exact silent.after_silence ⟨rfl, rfl⟩
      | true =>
          simp only [if_true]
          cases answered : forward visit.call.occasion.remote visit.server.recording
              visit.call.request with
          | error error =>
              have nothing := Visit.exchange?_of_failed matched answered
              rw [Visit.recording?_of_exchange?_eq_none nothing, nothing]
              apply silent.after_silence
              apply proxy_of_failed
              exact answered
          | ok response =>
              have found := Visit.exchange?_of_answered matched answered
              rw [found, Visit.length_recording?_of_found found enabled]
              apply silent.after_silence
              apply proxy_of_answered
              exact answered

end Reports

/-! ## Operations -/

/-- The call that an operation is, if it is one. -/
def Operation.call? : Operation → Option Call
  | .call made => some made
  | .register _ | .remove _ | .advance _ _ => none

namespace Server

/-- What an operation reports. -/
def reports (server : Server) : Operation → List Event
  | .call call => (server.respond call.occasion call.request).events
  | .register mapping =>
      match server.engine.register mapping with
      | .ok (_, events) => events
      | .error _ => []
  | .remove id => (server.engine.remove id).2.2
  | .advance _ _ => []

/-- The visit that an operation is, if it is a call. -/
def visit? (server : Server) (operation : Operation) : Option Visit :=
  operation.call?.map (Visit.mk server)

end Server

/-- Only calls report requests and recordings. -/
theorem Reports.perform (server : Server) (operation : Operation) :
    Reports (server.reports operation) ((server.visit? operation).toList.map Visit.cell)
      ((server.visit? operation).toList.filterMap Visit.recording?).length := by
  cases operation with
  | call call =>
      have listed : (Visit.recording? ⟨server, call⟩).toList =
          [Visit.mk server call].filterMap Visit.recording? := by
        rw [List.filterMap_cons, List.filterMap_nil]
        cases Visit.recording? ⟨server, call⟩ <;> rfl
      have reported := Reports.respond ⟨server, call⟩
      rwa [listed] at reported
  | register mapping =>
      rw [Server.reports]
      cases registered : server.engine.register mapping with
      | error problem => exact ⟨rfl, rfl⟩
      | ok result => exact .of_reportsSize (server.engine.reportsSize_register registered)
  | remove id => exact .of_reportsSize (server.engine.reportsSize_remove id)
  | advance name state => exact ⟨rfl, rfl⟩

end Understudy
