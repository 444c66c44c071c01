import Understudy.Proofs.Matching.Evaluation

/-!
# The outcomes of an evaluation

Which outcome an evaluation has, told by the verdicts of the conditions in the order in which they
are evaluated.  The first panic is reported, whatever failed before it.  Where nothing panics all
failures are reported in order, and where nothing fails either there is a result, with the name
and the score of every condition.
-/

namespace Understudy

/-! ## One condition -/

namespace Check

variable (check : Check) (request : Request) (gating : Option String)

/-- The condition fails on the request. -/
def Fails : Prop :=
  ∃ error, check.judge request gating = .failed error

/-- The error with which the condition fails, if it does. -/
def error? : Option MatcherError :=
  match check.judge request gating with
  | .failed error => some error
  | _ => none

/-- The condition gives a score, and the detail holds its name, the score moved into the range from
zero to one, and no error. -/
def GivesDetail (detail : Detail) : Prop :=
  ∃ score, check.judge request gating = .scored score ∧
    detail = ⟨check.name, score.clamp, none⟩

variable {check request gating}

theorem isSome_error?_iff : (check.error? request gating).isSome ↔ check.Fails request gating := by
  unfold error? Fails
  cases check.judge request gating <;> simp

theorem panic?_eq_some_iff {text : Option String} :
    Mapping.panic? (check.name, check.judge request gating) = some text ↔
      check.judge request gating = .panicked text := by
  cases check.judge request gating <;> simp [Mapping.panic?]

theorem bind_detail?_error :
    (Mapping.detail? (check.name, check.judge request gating)).bind Detail.error =
      check.error? request gating := by
  unfold error?
  cases check.judge request gating <;> rfl

end Check

/-! ## All conditions -/

namespace Mapping

variable {mapping : Mapping} {request : Request} {gating : Option String}

theorem findSome?_panic?_eq_some_iff {text : Option String} :
    (mapping.verdicts request gating).findSome? panic? = some text ↔
      ∃ before check after, mapping.checks = before ++ check :: after ∧
        (∀ earlier ∈ before, ¬earlier.Panics request gating) ∧
        check.judge request gating = .panicked text := by
  rw [verdicts, List.findSome?_map, List.findSome?_eq_some_iff]
  simp only [Function.comp_apply, Check.panic?_eq_some_iff, panic?_eq_none_iff]
  constructor
  · rintro ⟨before, check, after, split, panicked, calm⟩
    exact ⟨before, check, after, split, calm, panicked⟩
  · rintro ⟨before, check, after, split, calm, panicked⟩
    exact ⟨before, check, after, split, panicked, calm⟩

/-- The errors in the outcomes of all verdicts are those of the conditions. -/
theorem errors_filterMap_detail? :
    (MatchResult.mk ((mapping.verdicts request gating).filterMap detail?)).errors =
      mapping.checks.filterMap fun check => check.error? request gating := by
  rw [MatchResult.errors, verdicts, List.filterMap_filterMap, List.filterMap_map]
  simp only [Function.comp_def, Check.bind_detail?_error]

theorem hasErrors_filterMap_detail?_iff :
    (MatchResult.mk ((mapping.verdicts request gating).filterMap detail?)).hasErrors = true ↔
      ∃ check ∈ mapping.checks, check.Fails request gating := by
  rw [MatchResult.hasErrors, errors_filterMap_detail?]
  simp [← Check.isSome_error?_iff, Option.isSome_iff_ne_none]

/-- Details are paired with conditions exactly if all of these give a score and the details are
their outcomes. -/
theorem forall₂_givesDetail_iff {checks : List Check} {details : List Detail} :
    List.Forall₂ (fun check detail => check.GivesDetail request gating detail) checks details ↔
      (∀ check ∈ checks, ∃ score, check.judge request gating = .scored score) ∧
        details = (checks.map fun check =>
          (check.name, check.judge request gating)).filterMap detail? := by
  induction checks generalizing details with
  | nil => simp
  | cons check rest inductionHypothesis =>
      rw [List.forall₂_cons_left_iff, List.forall_mem_cons]
      constructor
      · rintro ⟨_, _, ⟨score, judged, rfl⟩, paired, rfl⟩
        obtain ⟨scored, rfl⟩ := inductionHypothesis.mp paired
        exact ⟨⟨⟨score, judged⟩, scored⟩, by simp [judged, detail?]⟩
      · rintro ⟨⟨⟨score, judged⟩, scored⟩, rfl⟩
        refine ⟨_, _, ⟨score, judged, rfl⟩, inductionHypothesis.mpr ⟨scored, rfl⟩, ?_⟩
        simp [judged, detail?]

/-! ## The three outcomes -/

theorem evaluate_eq_panicked_iff {text : String} :
    mapping.evaluate request gating = .error (.panicked text) ↔
      ∃ left, (mapping.verdicts request gating).findSome? panic? = some left ∧
        text = left.getD unknownPanic := by
  rw [evaluate_eq]
  cases (mapping.verdicts request gating).findSome? panic? with
  | some left => simp [eq_comm]
  | none =>
      simp only [reduceCtorEq, false_and, exists_false, iff_false]
      split <;> exact nofun

theorem evaluate_eq_matcher_iff {errors : List MatcherError} :
    mapping.evaluate request gating = .error (.matcher errors) ↔
      (mapping.verdicts request gating).findSome? panic? = none ∧
        (∃ check ∈ mapping.checks, check.Fails request gating) ∧
        errors = mapping.checks.filterMap fun check => check.error? request gating := by
  rw [evaluate_eq, ← hasErrors_filterMap_detail?_iff, ← errors_filterMap_detail?]
  cases (mapping.verdicts request gating).findSome? panic? with
  | some left => simp
  | none =>
      simp only [true_and]
      split
      next failed => simp [failed, eq_comm]
      next clean => simp [clean]

theorem evaluate_eq_ok_iff_forall₂ {result : MatchResult} :
    mapping.evaluate request gating = .ok result ↔
      List.Forall₂ (fun check detail => check.GivesDetail request gating detail) mapping.checks
        result.details := by
  rw [forall₂_givesDetail_iff]
  constructor
  · intro evaluated
    obtain ⟨-, detailsEq, -⟩ := evaluate_eq_ok_iff.mp evaluated
    refine ⟨fun check member => ?_, detailsEq⟩
    obtain ⟨score, judged, -⟩ := exists_scored_of_evaluate_eq_ok evaluated member
    exact ⟨score, judged⟩
  · rintro ⟨scored, detailsEq⟩
    rw [evaluate_of_forall_scored scored, verdicts, ← detailsEq]

/-- An evaluation goes through the conditions in a fixed order, each with the verdict of its own part
of the mapping, the state of the scenario last.  It reports the text of the first panic, if there is
one; the errors of all failures in order, if there is one and nothing panics; and otherwise, for
every condition in order, its name and its score moved into the range from zero to one. -/
theorem evaluation_tells_first_panic_or_all_errors_or_all_scores (mapping : Mapping)
    (request : Request) (gating : Option String) :
    (mapping.checks.map (fun check => (check.name, check.judge request gating)) =
      mapping.matcher.clientIp.toList.map
          (fun value => ("client_ip", Verdict.scored (value.score request.clientIp))) ++
        mapping.matcher.path.toList.map
          (fun value => ("path", Verdict.scored (value.score (some request.path)))) ++
        mapping.matcher.method.toList.map
          (fun method => ("method", Verdict.scored (method.score request))) ++
        mapping.matcher.parameters.map
          (fun field => ("param", Verdict.scored (field.scoreParameter request))) ++
        mapping.matcher.cookies.map
          (fun cookie => ("cookie", Verdict.scored (cookie.score request))) ++
        mapping.matcher.headers.map
          (fun field => ("header", Verdict.scored (field.scoreHeader request))) ++
        mapping.matcher.body.toList.map (fun body => ("body", body.judge request.body)) ++
        mapping.matcher.custom.map (fun check => (check.name, check.judge request gating)) ++
        mapping.scenario.toList.map (fun _ => ("scenario_state",
          Verdict.scored
            (Score.ofBool (Matching.stateSatisfied mapping.requiredState gating))))) ∧
    (∀ text, mapping.evaluate request gating = .error (.panicked text) ↔
      ∃ before check after left, mapping.checks = before ++ check :: after ∧
        (∀ earlier ∈ before, ¬earlier.Panics request gating) ∧
        check.judge request gating = .panicked left ∧ text = left.getD "unknown panic") ∧
    (∀ errors, mapping.evaluate request gating = .error (.matcher errors) ↔
      (∀ check ∈ mapping.checks, ¬check.Panics request gating) ∧
        (∃ check ∈ mapping.checks, check.Fails request gating) ∧
        errors = mapping.checks.filterMap fun check => check.error? request gating) ∧
    ∀ result, mapping.evaluate request gating = .ok result ↔
      List.Forall₂ (fun check detail => check.GivesDetail request gating detail) mapping.checks
        result.details := by
  refine ⟨?order, fun text => ?panicked, fun errors => ?failed, fun _ => evaluate_eq_ok_iff_forall₂⟩
  case order =>
    simp only [checks, RequestMatcher.checks, RequestMatcher.scoring, RequestMatcher.stateCheck,
      List.map_append, List.map_map, Function.comp_def]
  case panicked =>
    rw [evaluate_eq_panicked_iff]
    constructor
    · rintro ⟨left, found, textEq⟩
      obtain ⟨before, check, after, split, calm, panicked⟩ := findSome?_panic?_eq_some_iff.mp found
      exact ⟨before, check, after, left, split, calm, panicked, textEq⟩
    · rintro ⟨before, check, after, left, split, calm, panicked, textEq⟩
      exact ⟨left, findSome?_panic?_eq_some_iff.mpr ⟨before, check, after, split, calm, panicked⟩,
        textEq⟩
  case failed => rw [evaluate_eq_matcher_iff, findSome?_panic?_eq_none_iff]

end Mapping

end Understudy
