import Understudy.Proofs.Matching.Classification
import Understudy.Proofs.Metrics.Counting
import Understudy.Proofs.Resolution.Contenders
import Understudy.Proofs.Text.Case

/-!
# Failures of a resolution

What a resolution reports of the mappings that take part and fail.  Each of them is counted once,
by whether it failed or panicked.  For the log there is one line for each error and one for each
panic, in the order of the registry.  Requests to the administration hold back what evaluations
report; a panic that came through an evaluation has its line all the same.  Nothing else is
reported.
-/

namespace Understudy

/-! ## The failures -/

/-- The failure of a mapping on a request.  Its evaluation reports it, unless the remains of a panic
have panicked in turn; then it is told by that second panic. -/
inductive Failure.Arises (disposal : Disposal) (store : ScenarioStore) (request : Request) :
    Failure → Prop where
  | evaluation {mapping : Mapping} {failure : EvaluationFailure}
      (evaluated : mapping.evaluate request (gatingState store mapping) = .error failure)
      (contained : ∀ text, failure = .panicked text → disposal mapping = none) :
      Arises disposal store request ⟨mapping, .evaluation failure⟩
  | unwinding {mapping : Mapping} {text : String} {again : Option String}
      (evaluated : mapping.evaluate request (gatingState store mapping) = .error (.panicked text))
      (left : disposal mapping = some again) :
      Arises disposal store request ⟨mapping, .unwinding (again.getD "unknown panic")⟩

/-- The failures of a resolution with the positions of their mappings, in ascending order. -/
structure ListsFailures (disposal : Disposal) (store : ScenarioStore) (draws : Draws)
    (request : Request) (now : Instant) (mappings : List Mapping)
    (failures : List (Failure × Nat)) : Prop where
  ascending : failures.Pairwise fun first second => first.2 < second.2
  mem_iff : ∀ failure position, (failure, position) ∈ failures ↔
    TakesPart draws now mappings position failure.mapping ∧
      failure.Arises disposal store request

section

variable {disposal : Disposal} {store : ScenarioStore} {request : Request}

theorem mapping_eq_of_failure?_eq_some {mapping : Mapping} {failure : Failure}
    (found : failure? disposal store request mapping = some failure) :
    failure.mapping = mapping := by
  unfold failure? at found
  split at found
  · cases found
  · cases found
    rfl
  · split at found <;> cases found <;> rfl

theorem failure?_mapping_eq_some_iff {failure : Failure} :
    failure? disposal store request failure.mapping = some failure ↔
      failure.Arises disposal store request := by
  obtain ⟨mapping, cause⟩ := failure
  unfold failure? evaluateIn
  constructor
  · intro found
    split at found
    next => cases found
    next errors evaluated =>
      cases found
      exact .evaluation evaluated nofun
    next text evaluated =>
      split at found
      next contained =>
        cases found
        exact .evaluation evaluated fun _ _ => contained
      next again left =>
        cases found
        exact .unwinding evaluated left
  · intro arises
    cases arises with
    | @evaluation _ failure evaluated contained =>
        rw [evaluated]
        cases failure with
        | matcher errors => rfl
        | panicked text => simp only [contained text rfl]
    | unwinding evaluated left =>
        rw [evaluated]
        simp only [left]
        rfl

/-- A mapping has a failure exactly as it arises. -/
theorem failure?_eq_some_iff {mapping : Mapping} {failure : Failure} :
    failure? disposal store request mapping = some failure ↔
      mapping = failure.mapping ∧ failure.Arises disposal store request := by
  constructor
  · intro found
    have same := mapping_eq_of_failure?_eq_some found
    subst same
    exact ⟨rfl, failure?_mapping_eq_some_iff.mp found⟩
  · rintro ⟨rfl, arises⟩
    exact failure?_mapping_eq_some_iff.mpr arises

end

/-- A resolution reports the failures in the order of the registry. -/
theorem exists_listsFailures (disposal : Disposal) (registry : Registry) (store : ScenarioStore)
    (draws : Draws) (request : Request) (now : Instant) :
    ∃ failures, ListsFailures disposal store draws request now registry.mappings failures ∧
      ∀ settings, (resolveUnder disposal settings registry store draws request now).events =
        failures.flatMap fun entry =>
          entry.1.events (request.pathStartsWith settings.adminPathPrefix) := by
  obtain ⟨failures, images, ascending, members⟩ :=
    exists_placed_filterMap_sample (failure? disposal store request) draws now registry.mappings
  simp only [failure?_eq_some_iff] at members
  refine ⟨failures, ⟨ascending, fun failure position => ?_⟩, fun settings => ?_⟩
  · rw [members]
    constructor
    · rintro ⟨_, takesPart, rfl, arises⟩
      exact ⟨takesPart, arises⟩
    · exact fun ⟨takesPart, arises⟩ => ⟨_, takesPart, rfl, arises⟩
  · have images' := congrArg (List.flatMap (Failure.events
      (request.pathStartsWith settings.adminPathPrefix))) images
    rw [List.flatMap_map] at images'
    exact images'.symm

/-! ## The reports of one failure -/

theorem EvaluationFailure.level_of_mem_lines {failure : EvaluationFailure} {mapping : Mapping}
    {line : LogLine} (member : line ∈ failure.lines mapping) : line.level = "ERROR" := by
  cases failure with
  | matcher errors =>
      obtain ⟨error, -, rfl⟩ := List.mem_map.mp member
      rfl
  | panicked text =>
      obtain rfl := List.mem_singleton.mp member
      rfl

namespace Failure

/-- Whether a condition panicked. -/
def isPanic (failure : Failure) : Bool :=
  match failure.cause with
  | .evaluation (.matcher _) => false
  | .evaluation (.panicked _) => true
  | .unwinding _ => true

variable (failure : Failure)

theorem kind_eq_ite : failure.kind = if failure.isPanic then "panic" else "matcher_error" := by
  obtain ⟨mapping, cause⟩ := failure
  cases cause with
  | evaluation outcome => cases outcome <;> rfl
  | unwinding text => rfl

theorem kind_eq_matcher_error_iff : failure.kind = "matcher_error" ↔ failure.isPanic = false := by
  rw [kind_eq_ite]
  cases failure.isPanic <;> simp

theorem kind_eq_panic_iff : failure.kind = "panic" ↔ failure.isPanic = true := by
  rw [kind_eq_ite]
  cases failure.isPanic <;> simp

theorem kind_eq_or : failure.kind = "matcher_error" ∨ failure.kind = "panic" := by
  rw [kind_eq_matcher_error_iff, kind_eq_panic_iff]
  cases failure.isPanic <;> simp

theorem failureKinds_events (quiet : Bool) :
    (failure.events quiet).flatMap Event.failureKinds = [failure.kind] := by
  simp [events, Event.failureKinds]

theorem filterMap_line?_events (quiet : Bool) :
    (failure.events quiet).filterMap Event.line? = failure.lines quiet :=
  calc
    (failure.events quiet).filterMap Event.line? =
        ((failure.lines quiet).map Event.log).filterMap Event.line? := rfl
    _ = (failure.lines quiet).filterMap some := List.filterMap_map
    _ = failure.lines quiet := List.filterMap_some

/-- The administration is told by its path, up to the case of ASCII letters. -/
theorem lines_pathStartsWith (request : Request) (adminPath : String) :
    failure.lines (request.pathStartsWith adminPath) =
      let mapping := failure.mapping
      let quiet := (Text.asciiLower adminPath).toList <+: (Text.asciiLower request.path).toList
      match failure.cause with
      | .evaluation (.matcher errors) =>
          if quiet then [] else errors.map (.matcherFailed mapping.id mapping.title)
      | .evaluation (.panicked text) =>
          if quiet then [] else [.matcherPanicked mapping.id mapping.title text]
      | .unwinding text => [.resolutionFailed mapping.id text] := by
  obtain ⟨mapping, cause⟩ := failure
  cases cause with
  | evaluation outcome =>
      cases outcome with
      | matcher errors => exact if_congr (request.pathStartsWith_iff adminPath) rfl rfl
      | panicked text => exact if_congr (request.pathStartsWith_iff adminPath) rfl rfl
  | unwinding text => rfl

theorem level_of_mem_lines {quiet : Bool} {line : LogLine} (member : line ∈ failure.lines quiet) :
    line.level = "ERROR" := by
  unfold lines at member
  split at member
  · split at member
    · cases member
    · exact EvaluationFailure.level_of_mem_lines member
  · obtain rfl := List.mem_singleton.mp member
    rfl

end Failure

/-! ## The reports of a resolution -/

section

variable (failures : List (Failure × Nat)) (quiet : Bool)

theorem count_failureKinds (kind : String) :
    ((failures.flatMap fun entry => entry.1.events quiet).flatMap Event.failureKinds).count kind =
      failures.countP fun entry => entry.1.kind = kind := by
  rw [List.flatMap_assoc]
  simp only [Failure.failureKinds_events]
  rw [← List.map_eq_flatMap, List.count, List.countP_map]
  exact List.countP_congr fun entry _ => by simp

theorem count_matcher_error :
    ((failures.flatMap fun entry => entry.1.events quiet).flatMap Event.failureKinds).count
        "matcher_error" =
      failures.countP fun entry => !entry.1.isPanic := by
  rw [count_failureKinds]
  exact List.countP_congr fun entry _ => by simp [Failure.kind_eq_matcher_error_iff]

theorem count_panic :
    ((failures.flatMap fun entry => entry.1.events quiet).flatMap Event.failureKinds).count
        "panic" =
      failures.countP fun entry => entry.1.isPanic := by
  rw [count_failureKinds]
  exact List.countP_congr fun entry _ => by simp [Failure.kind_eq_panic_iff]

theorem count_of_other_kind {kind : String} (notFailed : kind ≠ "matcher_error")
    (notPanicked : kind ≠ "panic") :
    ((failures.flatMap fun entry => entry.1.events quiet).flatMap Event.failureKinds).count kind =
      0 := by
  rw [count_failureKinds, List.countP_eq_zero]
  intro entry _ same
  obtain rfl := of_decide_eq_true same
  exact entry.1.kind_eq_or.elim notFailed notPanicked

theorem filterMap_line?_flatMap :
    (failures.flatMap fun entry => entry.1.events quiet).filterMap Event.line? =
      failures.flatMap fun entry => entry.1.lines quiet := by
  rw [List.filterMap_flatMap]
  simp only [Failure.filterMap_line?_events]

end

/-- A resolution counts left-out mappings and writes lines for the log. -/
theorem eq_of_mem_events_resolveUnder {disposal : Disposal} {settings : MatchingSettings}
    {registry : Registry} {store : ScenarioStore} {draws : Draws} {request : Request}
    {now : Instant} {event : Event}
    (reported : event ∈ (resolveUnder disposal settings registry store draws request now).events) :
    (∃ kind, event = .matcherError kind) ∨ ∃ line, event = .log line := by
  obtain ⟨failure, -, member⟩ := List.mem_flatMap.mp reported
  rcases List.mem_cons.mp member with rfl | logged
  · exact .inl ⟨_, rfl⟩
  · obtain ⟨line, -, rfl⟩ := List.mem_map.mp logged
    exact .inr ⟨line, rfl⟩

/-- Such events move no other metric than the counters of left-out mappings. -/
theorem Metrics.recordAll_eq_of_forall {events : List Event}
    (each : ∀ event ∈ events, (∃ kind, event = .matcherError kind) ∨ ∃ line, event = .log line)
    (metrics : Metrics) :
    metrics.recordAll events =
      { metrics with matcherErrors := (metrics.recordAll events).matcherErrors } := by
  induction events generalizing metrics with
  | nil => rfl
  | cons event rest inductionHypothesis =>
      obtain ⟨first, others⟩ := List.forall_mem_cons.mp each
      have behind := inductionHypothesis others (metrics.record event)
      rcases first with ⟨kind, rfl⟩ | ⟨line, rfl⟩
      · exact behind
      · exact behind

/-- Every mapping that takes part and fails is counted once, by whether it panicked, and nothing
else is counted.  The log has lines of level ERROR in the order of the registry: one for each error
of a mapping that does not panic, and one for each mapping that does.  Where the path starts with
that of the administration, up to the case of ASCII letters, there are none but those of panics that
came through an evaluation.  Which path that is makes no difference to the resolution and its
draws. -/
theorem failures_are_counted_and_logged (disposal : Disposal) (registry : Registry)
    (store : ScenarioStore) (draws : Draws) (request : Request) (now : Instant) :
    ∃ failures, ListsFailures disposal store draws request now registry.mappings failures ∧
      ∀ (settings : MatchingSettings) (metrics : Metrics),
        let resolving := resolveUnder disposal settings registry store draws request now
        let behind := metrics.recordAll resolving.events
        let lines := resolving.events.filterMap Event.line?
        behind.matcherErrorCount "matcher_error" = metrics.matcherErrorCount "matcher_error" +
            failures.countP (fun entry => !entry.1.isPanic) ∧
          behind.matcherErrorCount "panic" = metrics.matcherErrorCount "panic" +
            failures.countP (fun entry => entry.1.isPanic) ∧
          (∀ kind, kind ≠ "matcher_error" → kind ≠ "panic" →
            behind.matcherErrorCount kind = metrics.matcherErrorCount kind) ∧
          behind = { metrics with matcherErrors := behind.matcherErrors } ∧
          lines = (failures.flatMap fun entry =>
            let mapping := entry.1.mapping
            let quiet := (Text.asciiLower settings.adminPathPrefix).toList <+:
              (Text.asciiLower request.path).toList
            match entry.1.cause with
            | .evaluation (.matcher errors) =>
                if quiet then [] else errors.map (.matcherFailed mapping.id mapping.title)
            | .evaluation (.panicked text) =>
                if quiet then [] else [.matcherPanicked mapping.id mapping.title text]
            | .unwinding text => [.resolutionFailed mapping.id text]) ∧
          (∀ line ∈ lines, line.level = "ERROR") ∧
          ∀ otherPath,
            let other := resolveUnder disposal { settings with adminPathPrefix := otherPath }
              registry store draws request now
            other.resolution = resolving.resolution ∧ other.draws = resolving.draws := by
  obtain ⟨failures, lists, events⟩ := exists_listsFailures disposal registry store draws request now
  refine ⟨failures, lists, fun settings metrics => ?_⟩
  intro resolving behind lines
  have eventsEq : resolving.events = failures.flatMap fun entry =>
      entry.1.events (request.pathStartsWith settings.adminPathPrefix) := events settings
  have linesEq : lines = failures.flatMap fun entry =>
      entry.1.lines (request.pathStartsWith settings.adminPathPrefix) := by
    rw [← filterMap_line?_flatMap, ← eventsEq]
  have counted : ∀ kind, behind.matcherErrorCount kind = metrics.matcherErrorCount kind +
      (resolving.events.flatMap Event.failureKinds).count kind :=
    metrics.matcherErrorCount_recordAll _
  rw [eventsEq] at counted
  refine ⟨?failed, ?panicked, ?others, ?metrics, ?lines, ?levels, fun otherPath => ⟨rfl, rfl⟩⟩
  case failed => rw [counted, count_matcher_error]
  case panicked => rw [counted, count_panic]
  case others =>
    intro kind notFailed notPanicked
    rw [counted, count_of_other_kind failures _ notFailed notPanicked, Nat.add_zero]
  case metrics =>
    exact Metrics.recordAll_eq_of_forall (fun event => eq_of_mem_events_resolveUnder) metrics
  case lines =>
    rw [linesEq]
    exact congrArg (fun each => List.flatMap each failures)
      (funext fun entry => entry.1.lines_pathStartsWith request settings.adminPathPrefix)
  case levels =>
    rw [linesEq]
    intro line member
    obtain ⟨entry, -, listed⟩ := List.mem_flatMap.mp member
    exact entry.1.level_of_mem_lines listed

/-- A mapping with two errors is counted once and has two lines; one without conditions has none. -/
example :
    let failing := { Mapping.new (.ofNat 1)
        { RequestMatcher.empty with
          custom := [⟨"first", fun _ _ => .failed (.failed "first" "no")⟩,
            ⟨"second", fun _ _ => .failed (.malformedBody "XML" "empty")⟩] } with
      title := some "Pay" }
    let panicking := Mapping.new (.ofNat 3)
      { RequestMatcher.empty with custom := [⟨"third", fun _ _ => .panicked (some "boom")⟩] }
    let events := (resolveAt default ⟨[failing, Mapping.new (.ofNat 2) .empty, panicking]⟩ .empty
      default (Request.new "GET" "/a") .epoch).events
    events.filterMap Event.line? =
        [.matcherFailed (.ofNat 1) (some "Pay") (.failed "first" "no"),
          .matcherFailed (.ofNat 1) (some "Pay") (.malformedBody "XML" "empty"),
          .matcherPanicked (.ofNat 3) none "boom"] ∧
      (Metrics.zero.recordAll events).matcherErrors = [("matcher_error", 1), ("panic", 1)] :=
  ⟨rfl, rfl⟩

/-- A mapping with an error and a panic has no line for the error.  Where throwing away what its
panic leaves panics in turn, it has a line for a request to the administration. -/
theorem panicking_mapping_hides_error_and_reports_to_administration :
    let mapping := Mapping.new (.ofNat 1)
      { RequestMatcher.empty with
        custom := [⟨"first", fun _ _ => .failed (.failed "first" "no")⟩,
          ⟨"second", fun _ _ => .panicked none⟩] }
    let lines := fun (disposal : Disposal) (path : String) =>
      (resolveUnder disposal default ⟨[mapping]⟩ .empty default (Request.new "GET" path)
        .epoch).events.filterMap Event.line?
    mapping.checks.filterMap (fun check => check.error? (Request.new "GET" "/a") none) =
        [.failed "first" "no"] ∧
      lines (fun _ => none) "/a" = [.matcherPanicked (.ofNat 1) none "unknown panic"] ∧
      lines (fun _ => some (some "again")) "/__admin/a" = [.resolutionFailed (.ofNat 1) "again"] :=
  ⟨rfl, rfl, rfl⟩

end Understudy
