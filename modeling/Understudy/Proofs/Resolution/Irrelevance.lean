import Understudy.Proofs.Matching.Evaluation
import Understudy.Proofs.Ranking.Thinning
import Understudy.Proofs.Resolution.Winner

/-!
# Irrelevant mappings

Mappings that have no influence on a resolution.  A mapping for which no draw is made leaves the
draws of all others as they are, and the order of the others does not depend on it; so the
resolution can only miss it where it is itself the answer or the closest match.  A mapping with a
condition that fails or panics is neither.
-/

namespace Understudy

/-- A condition of the mapping fails or panics on the request. -/
def Mapping.Misbehaves (mapping : Mapping) (store : ScenarioStore) (request : Request) : Prop :=
  ∃ check ∈ mapping.checks, check.Misbehaves request (gatingState store mapping)

section

variable {store : ScenarioStore} {request : Request} {now : Instant}
variable {mayDrop : Mapping → Prop} {mappings kept : List Mapping}

/-! ## Candidates without some mappings -/

theorem sampleOne_snd_of_no_draw {mapping : Mapping} (noDraw : mapping.takesDraw now = false)
    (draws : Draws) : (sampleOne now mapping draws).2 = draws := by
  rw [sampleOne_snd, List.countP_singleton, noDraw]
  rfl

/-- Leaving out mappings for which no draw is made changes neither the draws nor who else takes
part. -/
theorem Thins.sample (thins : Thins mayDrop mappings kept)
    (noDraw : ∀ mapping, mayDrop mapping → mapping.takesDraw now = false) (draws : Draws) :
    Thins mayDrop (sample now mappings draws).1 (Understudy.sample now kept draws).1 ∧
      (Understudy.sample now kept draws).2 = (Understudy.sample now mappings draws).2 := by
  induction thins generalizing draws with
  | nil => exact ⟨.nil, rfl⟩
  | keep mapping _ inductionHypothesis =>
      obtain ⟨thinned, behind⟩ := inductionHypothesis (sampleOne now mapping draws).2
      refine ⟨?_, behind⟩
      simp only [Understudy.sample]
      split
      · exact .keep mapping thinned
      · exact thinned
  | @drop mapping _ _ dropped _ inductionHypothesis =>
      obtain ⟨thinned, behind⟩ := inductionHypothesis draws
      simp only [Understudy.sample, sampleOne_snd_of_no_draw (noDraw mapping dropped)]
      refine ⟨?_, behind⟩
      split
      · exact .drop dropped thinned
      · exact thinned

/-- The candidates without some mappings are the others. -/
theorem Thins.candidates (thins : Thins mayDrop mappings kept)
    (noDraw : ∀ mapping, mayDrop mapping → mapping.takesDraw now = false) (draws : Draws) :
    Thins (fun candidate : Candidate => mayDrop candidate.mapping)
      ((Understudy.sample now mappings draws).1.filterMap (candidate? store request))
      ((Understudy.sample now kept draws).1.filterMap (candidate? store request)) := by
  apply (thins.sample noDraw draws).1.filterMap
  intro mapping candidate dropped found
  obtain ⟨same, -⟩ := candidate?_eq_some_iff.mp found
  rwa [same]

/-- Who contends without some mappings for which no draw is made contends beside them. -/
theorem Thins.exists_contends (thins : Thins mayDrop mappings kept)
    (noDraw : ∀ mapping, mayDrop mapping → mapping.takesDraw now = false) {draws : Draws}
    {position : Nat} {candidate : Candidate}
    (contends : Contends store draws request now kept position candidate) :
    ∃ place, Contends store draws request now mappings place candidate := by
  induction thins generalizing draws position with
  | nil => exact ⟨position, contends⟩
  | keep mapping _ inductionHypothesis =>
      cases position with
      | zero => exact ⟨0, contends_zero_iff.mpr (contends_zero_iff.mp contends)⟩
      | succ position =>
          obtain ⟨place, later⟩ := inductionHypothesis (contends_succ_iff.mp contends)
          exact ⟨place + 1, contends_succ_iff.mpr later⟩
  | @drop mapping _ _ dropped _ inductionHypothesis =>
      obtain ⟨place, later⟩ := inductionHypothesis contends
      refine ⟨place + 1, contends_succ_iff.mpr ?_⟩
      rwa [sampleOne_snd_of_no_draw (noDraw mapping dropped)]

/-- The first of the ranked candidates stays the same without others. -/
theorem Thins.head?_sortCandidates {κ : Type*} [LinearOrder κ]
    {order : Candidate → Candidate → Ordering} {key : Candidate → κ} (orders : OrdersBy order key)
    (test : Candidate → Bool) {mayDrop : Candidate → Prop} {candidates kept : List Candidate}
    (thins : Thins mayDrop candidates kept)
    (remains : ∀ winner, (sortCandidates order (candidates.filter test)).head? = some winner →
      ¬mayDrop winner) :
    (sortCandidates order (kept.filter test)).head? =
      (sortCandidates order (candidates.filter test)).head? := by
  simp only [sortCandidates, orders.isLE_eq_precedesBy] at remains ⊢
  exact (thins.filter test).head?_mergeSort_eq remains

end

theorem Resolution.eq_of_answers_eq {first second : Resolution}
    (matched : first.matched = second.matched) (closest : first.closest = second.closest) :
    first = second := by
  rcases first with ⟨firstMatched, firstClosest⟩
  rcases second with ⟨secondMatched, secondClosest⟩
  exact (Resolution.mk.injEq _ _ _ _).mpr ⟨matched, closest⟩

section

variable (settings : MatchingSettings) (store : ScenarioStore) (draws : Draws)
variable (request : Request) (now : Instant) {mayDrop : Mapping → Prop}
variable {mappings kept : List Mapping}

theorem closest_of_thins (thins : Thins mayDrop mappings kept)
    (noDraw : ∀ mapping, mayDrop mapping → mapping.takesDraw now = false)
    (remains : ∀ winner, (resolveAt settings ⟨mappings⟩ store draws request
      now).resolution.closest = some winner → ¬mayDrop winner.mapping) :
    (resolveAt settings ⟨kept⟩ store draws request now).resolution.closest =
      (resolveAt settings ⟨mappings⟩ store draws request now).resolution.closest :=
  (thins.candidates noDraw draws).head?_sortCandidates Candidate.ordersBy_closestKey
    Candidate.canBeClosest remains

theorem matched_of_thins (thins : Thins mayDrop mappings kept)
    (noDraw : ∀ mapping, mayDrop mapping → mapping.takesDraw now = false)
    (remains : ∀ winner, (resolveAt settings ⟨mappings⟩ store draws request
      now).resolution.matched = some winner → ¬mayDrop winner.mapping) :
    (resolveAt settings ⟨kept⟩ store draws request now).resolution.matched =
      (resolveAt settings ⟨mappings⟩ store draws request now).resolution.matched := by
  cases mode : settings.allowPartial with
  | false =>
      rw [matched_of_strict _ _ _ _ _ mode] at remains ⊢
      rw [matched_of_strict _ _ _ _ _ mode]
      exact (thins.candidates noDraw draws).head?_sortCandidates Candidate.ordersBy_perfectKey
        (fun candidate => candidate.result.isPerfect) remains
  | true =>
      rw [matched_of_permissive _ _ _ _ _ mode] at remains ⊢
      rw [matched_of_permissive _ _ _ _ _ mode]
      exact closest_of_thins settings store draws request now thins noDraw remains

/-! ## Misbehaving mappings -/

/-- A mapping with a condition that fails or panics does not contend. -/
theorem not_misbehaves_of_contends {store : ScenarioStore} {draws : Draws} {request : Request}
    {now : Instant} {position : Nat} {candidate : Candidate}
    (contends : Contends store draws request now mappings position candidate) :
    ¬candidate.mapping.Misbehaves store request := by
  rintro ⟨check, member, misbehaves⟩
  exact Mapping.evaluate_ne_ok_of_misbehaves member misbehaves contends.evaluated

theorem not_misbehaves_of_matched (registry : Registry) {winner : Candidate}
    (matched : (resolveAt settings registry store draws request now).resolution.matched =
      some winner) : ¬winner.mapping.Misbehaves store request := by
  obtain ⟨position, contends⟩ := exists_contends_of_matched _ _ _ _ _ _ matched
  exact not_misbehaves_of_contends contends

theorem not_misbehaves_of_closest (registry : Registry) {winner : Candidate}
    (closest : (resolveAt settings registry store draws request now).resolution.closest =
      some winner) : ¬winner.mapping.Misbehaves store request := by
  obtain ⟨position, contends⟩ := exists_contends_of_closest _ _ _ _ _ _ closest
  exact not_misbehaves_of_contends contends

end

/-- A mapping for which no draw is made can be deleted, at whatever position: if it is not the
answer the answer stays the same, and if it is not the closest match that stays the same.  A
mapping with a condition that fails or panics is neither, so that all such mappings for which no
draw is made can be deleted at once. -/
theorem irrelevant_mappings_change_nothing (settings : MatchingSettings) (store : ScenarioStore)
    (draws : Draws) (request : Request) (now : Instant) :
    (∀ before mapping after, mapping.takesDraw now = false →
      ((∀ winner, (resolveAt settings ⟨before ++ mapping :: after⟩ store draws request
            now).resolution.matched = some winner → winner.mapping ≠ mapping) →
        (resolveAt settings ⟨before ++ after⟩ store draws request now).resolution.matched =
          (resolveAt settings ⟨before ++ mapping :: after⟩ store draws request
            now).resolution.matched) ∧
      ((∀ winner, (resolveAt settings ⟨before ++ mapping :: after⟩ store draws request
            now).resolution.closest = some winner → winner.mapping ≠ mapping) →
        (resolveAt settings ⟨before ++ after⟩ store draws request now).resolution.closest =
          (resolveAt settings ⟨before ++ mapping :: after⟩ store draws request
            now).resolution.closest) ∧
      (resolveAt settings ⟨before ++ after⟩ store draws request now).draws =
        (resolveAt settings ⟨before ++ mapping :: after⟩ store draws request now).draws) ∧
    (∀ registry winner,
      (resolveAt settings registry store draws request now).resolution.matched = some winner ∨
          (resolveAt settings registry store draws request now).resolution.closest =
            some winner →
        ¬winner.mapping.Misbehaves store request) ∧
    ∀ (mappings : List Mapping) (test : Mapping → Bool),
      (∀ mapping ∈ mappings, test mapping = false →
        mapping.takesDraw now = false ∧ mapping.Misbehaves store request) →
      (resolveAt settings ⟨mappings.filter test⟩ store draws request now).resolution =
          (resolveAt settings ⟨mappings⟩ store draws request now).resolution ∧
        (resolveAt settings ⟨mappings.filter test⟩ store draws request now).draws =
          (resolveAt settings ⟨mappings⟩ store draws request now).draws := by
  refine ⟨?_, ?_, ?_⟩
  · intro before mapping after noDraw
    have thins : Thins (fun other => other = mapping) (before ++ mapping :: after)
        (before ++ after) := by
      apply Thins.erase
      rfl
    have noDraws : ∀ other, other = mapping → other.takesDraw now = false := by
      rintro other rfl
      exact noDraw
    exact ⟨matched_of_thins settings store draws request now thins noDraws,
      closest_of_thins settings store draws request now thins noDraws,
      (thins.sample noDraws draws).2⟩
  · rintro registry winner (matched | closest)
    · exact not_misbehaves_of_matched settings store draws request now registry matched
    · exact not_misbehaves_of_closest settings store draws request now registry closest
  · intro mappings test dropped
    have thins := Thins.filter_self dropped
    have noDraws : ∀ mapping : Mapping,
        mapping.takesDraw now = false ∧ mapping.Misbehaves store request →
          mapping.takesDraw now = false := fun mapping => And.left
    have matchedEq := matched_of_thins settings store draws request now thins noDraws
      fun winner matched both =>
        not_misbehaves_of_matched settings store draws request now ⟨mappings⟩ matched both.2
    have closestEq := closest_of_thins settings store draws request now thins noDraws
      fun winner closest both =>
        not_misbehaves_of_closest settings store draws request now ⟨mappings⟩ closest both.2
    exact ⟨Resolution.eq_of_answers_eq matchedEq closestEq, (thins.sample noDraws draws).2⟩

/-- A mapping with a condition that panics on every request. -/
def Mapping.panicking : Mapping :=
  Mapping.new (.ofNat 1)
    { RequestMatcher.empty with custom := [⟨"custom", fun _ _ => .panicked none⟩] }

/-- Without the mapping that panics the other one is still resolved in the same way. -/
theorem panicking_mapping_changes_nothing :
    (Mapping.panicking.takesDraw .epoch = false ∧
        Mapping.panicking.Misbehaves .empty (Request.new "GET" "/")) ∧
      (resolveAt default ⟨[Mapping.new (.ofNat 2) .empty]⟩ .empty default (Request.new "GET" "/")
          .epoch).resolution =
        (resolveAt default ⟨[.panicking, Mapping.new (.ofNat 2) .empty]⟩ .empty default
          (Request.new "GET" "/") .epoch).resolution := by
  have irrelevant : Mapping.panicking.takesDraw .epoch = false ∧
      Mapping.panicking.Misbehaves .empty (Request.new "GET" "/") :=
    ⟨rfl, ⟨"custom", fun _ _ => .panicked none⟩, List.mem_singleton_self _, .inr ⟨none, rfl⟩⟩
  refine ⟨irrelevant, ?_⟩
  -- the test keeps the mappings without a condition of their own kind
  refine ((irrelevant_mappings_change_nothing default .empty default (Request.new "GET" "/")
    .epoch).2.2 [.panicking, Mapping.new (.ofNat 2) .empty]
      (fun mapping => mapping.matcher.custom.isEmpty) ?_).1
  intro mapping member fails
  rcases List.mem_cons.mp member with rfl | inRest
  · exact irrelevant
  · rw [List.mem_singleton.mp inRest] at fails
    cases fails

end Understudy
