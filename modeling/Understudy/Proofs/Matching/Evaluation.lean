import Understudy.Mapping
import Understudy.Proofs.Score.Deficit

/-!
# Evaluations

What the result of an evaluation says.  There is a result exactly if no condition fails or panics,
and it holds the score of each condition.  It is perfect exactly if every condition is met in full,
and the mean score of a perfect result is that of a full match as long as a double can count its
conditions.
-/

namespace Understudy

namespace MatchResult

/-- The result of conditions that all give a full match. -/
def full (names : List String) : MatchResult :=
  ⟨names.map fun name => ⟨name, Score.perfect, none⟩⟩

theorem isPerfect_iff {result : MatchResult} :
    result.isPerfect = true ↔ ∀ score ∈ result.scores, score = Score.perfect := by
  rw [isPerfect, List.all_eq_true, scores, List.forall_mem_map]
  constructor
  · exact fun perfect detail member => eq_one_of_beq_one (perfect detail member)
  · intro full detail member
    rw [full detail member]
    decide

theorem scores_eq_replicate {result : MatchResult} (perfect : result.isPerfect = true) :
    result.scores = List.replicate result.count Score.perfect := by
  rw [List.eq_replicate_iff]
  exact ⟨List.length_map .., isPerfect_iff.mp perfect⟩

theorem isPerfect_full (names : List String) : (full names).isPerfect = true := by
  rw [isPerfect_iff, scores, full, List.map_map, List.forall_mem_map]
  exact fun _ _ => rfl

theorem count_full (names : List String) : (full names).count = names.length :=
  List.length_map ..

/-- The mean score of a perfect result. -/
theorem average_of_isPerfect {result : MatchResult} (perfect : result.isPerfect = true)
    (positive : 0 < result.count) (bounded : result.count < 2 ^ 53) :
    result.average = Score.perfect := by
  rw [average, scores_eq_replicate perfect, Score.average_replicate_perfect positive bounded]

end MatchResult

/-- The request meets the condition in full. -/
def Check.IsMet (check : Check) (request : Request) (gating : Option String) : Prop :=
  ∃ score, check.judge request gating = .scored score ∧ score.clamp = Score.perfect

theorem Check.isMet_iff_of_scored {check : Check} {request : Request} {gating : Option String}
    {score : Score} (judged : check.judge request gating = .scored score) :
    check.IsMet request gating ↔ score.clamp = Score.perfect := by
  constructor
  · rintro ⟨other, otherJudged, clamped⟩
    rw [judged] at otherJudged
    cases otherJudged
    exact clamped
  · exact fun clamped => ⟨score, judged, clamped⟩

@[simp]
theorem Score.clamp_ofBool (matched : Bool) : (ofBool matched).clamp = ofBool matched := by
  cases matched with
  | false => decide
  | true => decide

/-- A condition that holds or does not is met in full if it holds. -/
theorem Score.clamp_ofBool_eq_perfect_iff (matched : Bool) :
    (ofBool matched).clamp = perfect ↔ matched = true := by
  cases matched with
  | false => decide
  | true => decide

/-- The condition panics on the request. -/
def Check.Panics (check : Check) (request : Request) (gating : Option String) : Prop :=
  ∃ text, check.judge request gating = .panicked text

/-- The condition fails or panics on the request. -/
def Check.Misbehaves (check : Check) (request : Request) (gating : Option String) : Prop :=
  (∃ error, check.judge request gating = .failed error) ∨
    ∃ text, check.judge request gating = .panicked text

namespace Mapping

/-- The panic of a verdict, if it is one. -/
def panic? : String × Verdict → Option (Option String)
  | (_, .panicked text) => some text
  | _ => none

/-- The outcome of a verdict that is no panic. -/
def detail? : String × Verdict → Option Detail
  | (name, .scored score) => some ⟨name, score.clamp, none⟩
  | (name, .failed error) => some ⟨name, Score.mismatch, some error⟩
  | (_, .panicked _) => none

/-- Recording goes on up to the first panic, which leaves nothing; without one it lists the
outcomes of all verdicts behind those already there. -/
theorem foldlM_record (verdicts : List (String × Verdict)) (result : MatchResult) :
    verdicts.foldlM MatchResult.record result =
      match verdicts.findSome? panic? with
      | some text => .error text
      | none => .ok ⟨result.details ++ verdicts.filterMap detail?⟩ := by
  induction verdicts generalizing result with
  | nil => simp [pure, Except.pure]
  | cons verdict rest inductionHypothesis =>
      rcases verdict with ⟨name, verdict⟩
      rw [List.foldlM_cons]
      cases verdict with
      | scored score =>
          refine (inductionHypothesis _).trans ?_
          simp [panic?, detail?, List.findSome?_cons]
      | failed error =>
          refine (inductionHypothesis _).trans ?_
          simp [panic?, detail?, List.findSome?_cons]
      | panicked text => rfl

theorem collect_eq (verdicts : List (String × Verdict)) :
    collect verdicts =
      match verdicts.findSome? panic? with
      | some text => .error text
      | none => .ok ⟨verdicts.filterMap detail?⟩ :=
  foldlM_record verdicts ⟨[]⟩

/-- Verdicts without a panic have one outcome each. -/
theorem length_filterMap_detail? {verdicts : List (String × Verdict)}
    (calm : verdicts.findSome? panic? = none) :
    (verdicts.filterMap detail?).length = verdicts.length := by
  rw [List.findSome?_eq_none_iff] at calm
  induction verdicts with
  | nil => rfl
  | cons verdict rest inductionHypothesis =>
      have behind := inductionHypothesis fun other member => calm other (.tail _ member)
      rcases verdict with ⟨name, verdict⟩
      cases verdict with
      | scored score => simpa [detail?] using behind
      | failed error => simpa [detail?] using behind
      | panicked text => exact absurd (calm _ List.mem_cons_self) nofun

variable {mapping : Mapping} {request : Request} {gating : Option String} {result : MatchResult}

theorem panic?_eq_none_iff {check : Check} :
    panic? (check.name, check.judge request gating) = none ↔ ¬check.Panics request gating := by
  unfold Check.Panics
  cases check.judge request gating <;> simp [panic?]

theorem findSome?_panic?_eq_none_iff :
    (mapping.verdicts request gating).findSome? panic? = none ↔
      ∀ check ∈ mapping.checks, ¬check.Panics request gating := by
  rw [verdicts, List.findSome?_map, List.findSome?_eq_none_iff]
  simp only [Function.comp_apply, panic?_eq_none_iff]

/-- Conditions of which none panics have a result, which lists the outcomes of all of them. -/
theorem matchRequest_of_forall_not_panics
    (calm : ∀ check ∈ mapping.checks, ¬check.Panics request gating) :
    mapping.matchRequest request gating =
      .ok ⟨(mapping.verdicts request gating).filterMap detail?⟩ := by
  rw [matchRequest, collect_eq, findSome?_panic?_eq_none_iff.mpr calm]

/-- The three outcomes of an evaluation, told by its verdicts. -/
theorem evaluate_eq :
    mapping.evaluate request gating =
      match (mapping.verdicts request gating).findSome? panic? with
      | some text => .error (.panicked (text.getD unknownPanic))
      | none =>
          let result := MatchResult.mk ((mapping.verdicts request gating).filterMap detail?)
          if result.hasErrors then .error (.matcher result.errors) else .ok result := by
  rw [evaluate, matchRequest, collect_eq]
  cases (mapping.verdicts request gating).findSome? panic? with
  | some text => rfl
  | none => rfl

/-- A result lists the outcomes of verdicts without a panic and without a failure. -/
theorem evaluate_eq_ok_iff :
    mapping.evaluate request gating = .ok result ↔
      (mapping.verdicts request gating).findSome? panic? = none ∧
        result.details = (mapping.verdicts request gating).filterMap detail? ∧
          result.hasErrors = false := by
  rcases result with ⟨details⟩
  rw [evaluate_eq]
  cases calm : (mapping.verdicts request gating).findSome? panic? with
  | some text => simp
  | none =>
      constructor
      · intro evaluated
        simp only at evaluated
        split at evaluated
        · cases evaluated
        next clean =>
          cases evaluated
          exact ⟨rfl, rfl, by simpa using clean⟩
      · rintro ⟨-, detailsEq, clean⟩
        obtain rfl : details = (mapping.verdicts request gating).filterMap detail? := detailsEq
        exact if_neg (by rw [clean]; exact Bool.false_ne_true)

/-- A result has one outcome for each condition. -/
theorem count_of_evaluate_eq_ok (evaluated : mapping.evaluate request gating = .ok result) :
    result.count = mapping.checks.length := by
  obtain ⟨calm, details, -⟩ := evaluate_eq_ok_iff.mp evaluated
  rw [MatchResult.count, details, length_filterMap_detail? calm, verdicts, List.length_map]

/-- Where an evaluation has a result, every condition has given a score, and the result holds it. -/
theorem exists_scored_of_evaluate_eq_ok
    (evaluated : mapping.evaluate request gating = .ok result) {check : Check}
    (member : check ∈ mapping.checks) :
    ∃ score, check.judge request gating = .scored score ∧
      ⟨check.name, score.clamp, none⟩ ∈ result.details := by
  obtain ⟨calm, detailsEq, clean⟩ := evaluate_eq_ok_iff.mp evaluated
  have verdict : (check.name, check.judge request gating) ∈ mapping.verdicts request gating :=
    List.mem_map_of_mem member
  cases judged : check.judge request gating with
  | scored score =>
      refine ⟨score, rfl, ?_⟩
      rw [detailsEq, List.mem_filterMap]
      exact ⟨_, verdict, by rw [judged]; rfl⟩
  | failed error =>
      have listed : error ∈ result.errors := by
        rw [MatchResult.errors, List.mem_filterMap]
        refine ⟨⟨check.name, Score.mismatch, some error⟩, ?_, rfl⟩
        rw [detailsEq, List.mem_filterMap]
        exact ⟨_, verdict, by rw [judged]; rfl⟩
      have none : result.errors = [] := by simpa [MatchResult.hasErrors] using clean
      rw [none] at listed
      cases listed
  | panicked text =>
      have quiet := List.findSome?_eq_none_iff.mp calm _ verdict
      rw [judged] at quiet
      cases quiet

/-- All scores of a result are at most one. -/
theorem within_of_mem_scores (evaluated : mapping.evaluate request gating = .ok result)
    {score : Score} (member : score ∈ result.scores) : Within unitsPerOne score := by
  obtain ⟨-, detailsEq, -⟩ := evaluate_eq_ok_iff.mp evaluated
  obtain ⟨detail, detailMember, rfl⟩ := List.mem_map.mp member
  rw [detailsEq, List.mem_filterMap] at detailMember
  obtain ⟨⟨name, verdict⟩, -, outcome⟩ := detailMember
  cases verdict with
  | scored raw =>
      cases outcome
      exact Score.within_clamp raw
  | failed error =>
      cases outcome
      exact Score.within_mismatch unitsPerOne
  | panicked text => cases outcome

/-- The mean of a result with a score that misses one clearly stands before a full match. -/
theorem place_average_lt_of_missesClearly (evaluated : mapping.evaluate request gating = .ok result)
    {score : Score} (member : score ∈ result.scores)
    (misses : Score.MissesClearly result.count score) (bounded : result.count < 2 ^ 53)
    (positive : 0 < result.average) :
    Score.place result.average < Score.place Score.perfect := by
  have each : ∀ score ∈ result.scores, Within unitsPerOne score :=
    fun score member => within_of_mem_scores evaluated member
  have lengthEq : result.scores.length = result.count := List.length_map ..
  rw [← lengthEq] at misses bounded
  exact Score.place_average_lt each member misses bounded positive

/-- The mean of a result that has a mismatch stands before a full match. -/
theorem place_average_lt (evaluated : mapping.evaluate request gating = .ok result)
    (mismatched : Score.mismatch ∈ result.scores) (bounded : result.count < 2 ^ 53)
    (positive : 0 < result.average) :
    Score.place result.average < Score.place Score.perfect :=
  place_average_lt_of_missesClearly evaluated mismatched (Score.missesClearly_mismatch _) bounded
    positive

/-- The mean of a result does not stand behind a full match. -/
theorem place_average_le (evaluated : mapping.evaluate request gating = .ok result)
    (bounded : result.count < 2 ^ 53) (positive : 0 < result.average) :
    Score.place result.average ≤ Score.place Score.perfect := by
  have each : ∀ score ∈ result.scores, Within unitsPerOne score :=
    fun score member => within_of_mem_scores evaluated member
  have lengthEq : result.scores.length = result.count := List.length_map ..
  rw [← lengthEq] at bounded
  exact Score.place_average_le each bounded positive

/-- A mapping with a condition that misbehaves has no result. -/
theorem evaluate_ne_ok_of_misbehaves {check : Check} (member : check ∈ mapping.checks)
    (misbehaves : check.Misbehaves request gating) :
    mapping.evaluate request gating ≠ .ok result := by
  intro evaluated
  obtain ⟨score, judged, -⟩ := exists_scored_of_evaluate_eq_ok evaluated member
  rcases misbehaves with ⟨error, failed⟩ | ⟨text, panicked⟩
  · rw [judged] at failed
    cases failed
  · rw [judged] at panicked
    cases panicked

/-- Where the result of an evaluation is perfect, the request meets every condition in full. -/
theorem isMet_of_evaluate_eq_ok (evaluated : mapping.evaluate request gating = .ok result)
    (perfect : result.isPerfect = true) {check : Check} (member : check ∈ mapping.checks) :
    check.IsMet request gating := by
  obtain ⟨score, judged, detail⟩ := exists_scored_of_evaluate_eq_ok evaluated member
  exact ⟨score, judged, MatchResult.isPerfect_iff.mp perfect _ (List.mem_map_of_mem detail)⟩

/-- A mapping whose conditions all give a score has a result, which lists the scores. -/
theorem evaluate_of_forall_scored
    (scored : ∀ check ∈ mapping.checks, ∃ score, check.judge request gating = .scored score) :
    mapping.evaluate request gating =
      .ok ⟨(mapping.verdicts request gating).filterMap detail?⟩ := by
  have calm : ∀ check ∈ mapping.checks, ¬check.Panics request gating := by
    rintro check member ⟨text, panicked⟩
    obtain ⟨score, judged⟩ := scored check member
    rw [judged] at panicked
    cases panicked
  have clean : ((mapping.verdicts request gating).filterMap detail?).filterMap Detail.error =
      [] := by
    rw [List.filterMap_eq_nil_iff]
    intro detail member
    obtain ⟨verdict, verdictMember, outcome⟩ := List.mem_filterMap.mp member
    obtain ⟨check, checkMember, rfl⟩ := List.mem_map.mp verdictMember
    obtain ⟨score, judged⟩ := scored check checkMember
    rw [judged] at outcome
    cases outcome
    rfl
  refine evaluate_eq_ok_iff.mpr ⟨findSome?_panic?_eq_none_iff.mpr calm, rfl, ?_⟩
  rw [MatchResult.hasErrors, MatchResult.errors, clean]
  rfl

/-- A mapping whose conditions are all met in full evaluates to a perfect result. -/
theorem evaluate_of_forall_isMet (met : ∀ check ∈ mapping.checks, check.IsMet request gating) :
    mapping.evaluate request gating = .ok (.full (mapping.checks.map Check.name)) := by
  have details : (mapping.verdicts request gating).filterMap detail? =
      (MatchResult.full (mapping.checks.map Check.name)).details := by
    rw [verdicts, List.filterMap_map, MatchResult.full, List.map_map,
      List.filterMap_eq_map_iff_forall_eq_some]
    intro check member
    obtain ⟨score, judged, clamped⟩ := met check member
    simp [detail?, judged, clamped]
  rw [evaluate_of_forall_scored fun check member => (met check member).imp fun _ => And.left,
    details]

/-- The request meets all conditions of the mapping in full. -/
def MatchesPerfectly (mapping : Mapping) (request : Request) (gating : Option String) : Prop :=
  ∃ result, mapping.evaluate request gating = .ok result ∧ result.isPerfect = true

theorem matchesPerfectly_iff :
    mapping.MatchesPerfectly request gating ↔
      ∀ check ∈ mapping.checks, check.IsMet request gating := by
  constructor
  · rintro ⟨result, evaluated, perfect⟩ check member
    exact isMet_of_evaluate_eq_ok evaluated perfect member
  · intro met
    exact ⟨_, evaluate_of_forall_isMet met, MatchResult.isPerfect_full _⟩

end Mapping

end Understudy
