import Understudy.Proofs.Server.Reports

/-!
# The counters of a process

All servers of a process share its metrics, and some may share an engine.  The counters of requests
and recordings behind a run are told by the calls of the run alone, each with the server that it
meets.
-/

namespace Understudy

/-! ## A process -/

/-- The servers of a process, some of which may share an engine, and the metrics, which all
share. -/
structure Process (ι κ : Type) where
  /-- Which engine a server has. -/
  engineOf : ι → κ
  settings : ι → RecordingSettings
  engines : κ → Engine
  metrics : Metrics

namespace Process

variable {ι κ : Type} [DecidableEq κ]

def server (process : Process ι κ) (index : ι) : Server :=
  ⟨process.engines (process.engineOf index), process.settings index⟩

/-- The process behind an operation on one of its servers. -/
def perform (process : Process ι κ) (step : ι × Operation) : Process ι κ :=
  let server := process.server step.1
  { process with
    engines :=
      Function.update process.engines (process.engineOf step.1) (server.perform step.2).engine
    metrics := process.metrics.recordAll (server.reports step.2) }

/-- The process behind several operations. -/
def performAll (process : Process ι κ) (steps : List (ι × Operation)) : Process ι κ :=
  steps.foldl perform process

/-- The reports of several operations in order. -/
def reports (process : Process ι κ) : List (ι × Operation) → List Event
  | [] => []
  | step :: rest =>
      (process.server step.1).reports step.2 ++ (process.perform step).reports rest

/-- The calls of several operations in order, each with the server that it meets. -/
def visits (process : Process ι κ) : List (ι × Operation) → List Visit
  | [] => []
  | step :: rest =>
      ((process.server step.1).visit? step.2).toList ++ (process.perform step).visits rest

variable (process : Process ι κ) (steps : List (ι × Operation))

theorem metrics_performAll :
    (process.performAll steps).metrics = process.metrics.recordAll (process.reports steps) := by
  induction steps generalizing process with
  | nil => rfl
  | cons step rest inductionHypothesis =>
      rw [reports, Metrics.recordAll, List.foldl_append]
      exact inductionHypothesis (process.perform step)

theorem map_call_visits :
    (process.visits steps).map Visit.call = steps.filterMap fun step => step.2.call? := by
  induction steps generalizing process with
  | nil => rfl
  | cons step rest inductionHypothesis =>
      rw [visits, List.map_append, inductionHypothesis, Server.visit?]
      cases called : step.2.call? with
      | none => simp [called]
      | some call => simp [called]

/-- The operations report the calls among them. -/
theorem reports_visits :
    Reports (process.reports steps) ((process.visits steps).map Visit.cell)
      ((process.visits steps).filterMap Visit.recording?).length := by
  induction steps generalizing process with
  | nil => exact ⟨rfl, rfl⟩
  | cons step rest inductionHypothesis =>
      rw [reports, visits, List.map_append, List.filterMap_append, List.length_append]
      exact (Reports.perform (process.server step.1) step.2).append
        (inductionHypothesis (process.perform step))

/-- A cell moves by the number of calls with its method and outcome. -/
theorem requestCount_performAll (method label : String) :
    (process.performAll steps).metrics.requestCount method label =
      process.metrics.requestCount method label +
        (process.visits steps).countP fun visit => visit.cell == (method, label) := by
  rw [metrics_performAll, Metrics.requestCount_recordAll, (reports_visits _ steps).cells_eq,
    List.count, List.countP_map]
  rfl

/-- The selected cells together move by the number of calls with one of them. -/
theorem requestTotal_performAll (selects : String × String → Bool) :
    (process.performAll steps).metrics.requestTotal selects =
      process.metrics.requestTotal selects +
        (process.visits steps).countP fun visit => selects visit.cell := by
  rw [metrics_performAll, Metrics.requestTotal_recordAll, (reports_visits _ steps).cells_eq,
    List.countP_map]
  rfl

theorem recorded_performAll :
    (process.performAll steps).metrics.recorded =
      process.metrics.recorded +
        ((process.visits steps).filterMap Visit.recording?).length := by
  rw [metrics_performAll, Metrics.recorded_recordAll, (reports_visits _ steps).recordings_eq]

/-- The process with all counters at zero. -/
def zeroed : Process ι κ :=
  { process with metrics := Metrics.zero }

end Process

/-! ## The counters behind a run -/

/-- Every visit has one of the four outcomes. -/
theorem countP_outcomes (visits : List Visit) (method : String) :
    (visits.countP fun visit => visit.cell == (method, Outcome.matched.label)) +
      (visits.countP fun visit => visit.cell == (method, Outcome.unmatched.label)) +
      (visits.countP fun visit => visit.cell == (method, Outcome.proxied.label)) +
      (visits.countP fun visit => visit.cell == (method, Outcome.proxyError.label)) =
    visits.countP fun visit => visit.call.request.method == method := by
  induction visits with
  | nil => rfl
  | cons visit rest inductionHypothesis =>
      by_cases same : visit.call.request.method = method
      · cases outcome : visit.outcome <;>
          simp [Visit.cell, outcome, same, ← inductionHypothesis, Outcome.label] <;> omega
      · simp [Visit.cell, same, ← inductionHypothesis]

/-- The counters of requests and of recordings show these visits. -/
structure Metrics.Counts (metrics : Metrics) (visits : List Visit) : Prop where
  cells : ∀ method label, metrics.requestCount method label =
    visits.countP fun visit => visit.cell == (method, label)
  /-- The four cells of a method hold all its calls. -/
  methods : ∀ method,
    metrics.requestCount method Outcome.matched.label +
      metrics.requestCount method Outcome.unmatched.label +
      metrics.requestCount method Outcome.proxied.label +
      metrics.requestCount method Outcome.proxyError.label =
    visits.countP fun visit => visit.call.request.method == method
  matched : (metrics.requestTotal fun cell => cell.2 == Outcome.matched.label) =
    visits.countP Visit.isMatched
  proxied : (metrics.requestTotal fun cell => cell.2 == Outcome.proxied.label) =
    visits.countP Visit.isProxied
  recorded : metrics.recorded = (visits.filterMap Visit.recording?).length
  recorded_le : metrics.recorded ≤
    metrics.requestTotal fun cell => cell.2 == Outcome.proxied.label

theorem Outcome.label_eq_iff {outcome other : Outcome} :
    outcome.label = other.label ↔ outcome = other := by
  cases outcome <;> cases other <;> decide

/-- The counters behind a run from zero show its calls. -/
theorem Process.counts_performAll {ι κ : Type} [DecidableEq κ] (process : Process ι κ)
    (steps : List (ι × Operation)) :
    (process.zeroed.performAll steps).metrics.Counts (process.zeroed.visits steps) := by
  have cells (method label : String) :
      (process.zeroed.performAll steps).metrics.requestCount method label =
        (process.zeroed.visits steps).countP fun visit => visit.cell == (method, label) :=
    (process.zeroed.requestCount_performAll steps method label).trans (Nat.zero_add _)
  have totals (selects : String × String → Bool) :
      (process.zeroed.performAll steps).metrics.requestTotal selects =
        (process.zeroed.visits steps).countP fun visit => selects visit.cell :=
    (process.zeroed.requestTotal_performAll steps selects).trans (Nat.zero_add _)
  have recorded : (process.zeroed.performAll steps).metrics.recorded =
      ((process.zeroed.visits steps).filterMap Visit.recording?).length :=
    (process.zeroed.recorded_performAll steps).trans (Nat.zero_add _)
  have proxied : ((process.zeroed.performAll steps).metrics.requestTotal
      fun cell => cell.2 == Outcome.proxied.label) =
        (process.zeroed.visits steps).countP Visit.isProxied := by
    rw [totals]
    apply List.countP_congr
    intro visit _
    rw [beq_iff_eq, Visit.cell, Outcome.label_eq_iff, Visit.outcome_eq_proxied_iff]
  refine ⟨cells, ?methods, ?matched, proxied, recorded, ?recorded_le⟩
  case methods =>
    intro method
    simp only [cells, countP_outcomes]
  case matched =>
    rw [totals]
    apply List.countP_congr
    intro visit _
    rw [beq_iff_eq, Visit.cell, Outcome.label_eq_iff, Visit.outcome_eq_matched_iff]
  case recorded_le =>
    rw [proxied, recorded, List.length_filterMap_eq_countP]
    apply List.countP_mono_left
    intro visit _ saved
    obtain ⟨mapping, found⟩ := Option.isSome_iff_exists.mp saved
    exact Visit.isProxied_of_recording?_eq_some found

/-- In every run of a process from zeroed counters, whatever else happens to its servers between the
calls, each call moves exactly one cell of the counter of requests, that of its method and outcome,
by one; so the counters behind the run show its calls.  A call is counted as recorded exactly if it
has placed the mapping of its exchange into the registry of its server. -/
theorem every_call_is_counted_once {ι κ : Type} [DecidableEq κ] (process : Process ι κ)
    (steps : List (ι × Operation)) :
    let visits := process.zeroed.visits steps
    visits.map Visit.call = (steps.filterMap fun step => step.2.call?) ∧
    (process.zeroed.performAll steps).metrics.Counts visits ∧
    ∀ visit ∈ visits,
      (∀ (metrics : Metrics) (method label : String),
        (metrics.recordAll visit.answer.events).requestCount method label =
          metrics.requestCount method label +
            if visit.cell = (method, label) then 1 else 0) ∧
      (∀ mapping, visit.recording? = some mapping ↔
        ∃ response, visit.server.Saves visit.call.occasion visit.call.request response ∧
          visit.server.recordingOf visit.call.occasion visit.call.request response = mapping) ∧
      visit.answer.server.engine.registry.mappings =
        (visit.recording?.elim visit.server.engine.registry.mappings fun mapping =>
          Registry.place mapping visit.server.engine.registry.mappings) ∧
      (visit.server.engine.registry.find? visit.call.occasion.recordingId = none →
        visit.answer.server.engine.registry.mappings =
          visit.server.engine.registry.mappings ++ visit.recording?.toList) := by
  intro visits
  refine ⟨process.zeroed.map_call_visits steps, process.counts_performAll steps, ?_⟩
  intro visit _
  refine ⟨?counted, fun _ => Visit.recording?_eq_some_iff, visit.registry_answer,
    Visit.registry_answer_of_fresh⟩
  case counted =>
    intro metrics method label
    rw [Metrics.requestCount_recordAll, (Reports.respond visit).cells_eq, List.count_singleton]
    simp only [beq_iff_eq]

/-- A server that records and one without a network share the counters: an exchange of the first is
counted as proxied and as recorded, and is its only mapping; a request to the second, which has no
mappings, is counted as unmatched. -/
theorem two_servers_share_counters :
    let process : Process Bool Bool :=
      { engineOf := id
        settings := fun isFirst =>
          if isFirst then (Server.recordingTo "http://upstream").recording
          else RecordingSettings.off
        engines := fun _ => Engine.new default default
        metrics := Metrics.zero }
    let visit : Visit :=
      ⟨process.server true, .answering (.ofNat 1) 200, Request.new "GET" "/a"⟩
    let other : Visit :=
      ⟨process.server false, .answering (.ofNat 2) 200, Request.new "POST" "/b"⟩
    let behind := process.zeroed.performAll [(true, .call visit.call), (false, .call other.call)]
    behind.metrics.requestCount "GET" "proxied" = 1 ∧
    behind.metrics.requestCount "POST" "unmatched" = 1 ∧
    behind.metrics.recorded = 1 ∧
    ∃ mapping, visit.recording? = some mapping ∧
      visit.answer.server.engine.registry.mappings = [mapping] := by
  intro process visit other behind
  obtain ⟨-, counts, each⟩ := every_call_is_counted_once process
    [(true, .call visit.call), (false, .call other.call)]
  have visits : process.zeroed.visits [(true, .call visit.call), (false, .call other.call)] =
      [visit, other] := rfl
  have forwards : (Server.recordingTo "http://upstream").Forwards (.answering (.ofNat 1) 200)
      (Request.new "GET" "/a") (Response.new 200) :=
    ⟨Server.unmatched_of_empty rfl _ _, rfl⟩
  have valid : ((Server.recordingTo "http://upstream").recordingOf (.answering (.ofNat 1) 200)
      (Request.new "GET" "/a") (Response.new 200)).problem? = none := by
    rw [Server.recordingOf, synthesize_of_captures rfl]
    exact problem?_synthesize rfl _ _ _ _
  have saves : visit.server.Saves visit.call.occasion visit.call.request (Response.new 200) :=
    ⟨forwards, by decide, rfl, (Mapping.validate_eq_ok_iff _).mpr valid⟩
  have saved := Visit.recording?_eq_some_iff.mpr ⟨_, saves, rfl⟩
  have cell : visit.cell = ("GET", "proxied") := by
    rw [Visit.cell, Visit.outcome_eq_proxied_iff.mpr (Visit.isProxied_of_recording?_eq_some saved)]
    rfl
  have otherCell : other.cell = ("POST", "unmatched") := by
    have unmatched : other.isMatched = false :=
      congrArg Option.isSome (Server.unmatched_of_empty rfl _ _)
    rw [Visit.cell, Visit.outcome, unmatched]
    rfl
  have otherUnsaved : other.recording? = none := Visit.recording?_of_disabled rfl
  rw [visits] at counts each
  refine ⟨?proxied, ?unmatched, ?recorded, ?registry⟩
  case proxied =>
    rw [counts.cells, List.countP_cons, List.countP_singleton, cell, otherCell]
    decide
  case unmatched =>
    rw [counts.cells, List.countP_cons, List.countP_singleton, cell, otherCell]
    decide
  case recorded =>
    rw [counts.recorded, List.filterMap_cons, saved, List.filterMap_cons, otherUnsaved]
    rfl
  case registry =>
    have registry := (each visit List.mem_cons_self).2.2.2 rfl
    rw [saved] at registry
    exact ⟨_, saved, registry⟩

end Understudy
