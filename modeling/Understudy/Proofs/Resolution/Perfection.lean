import Understudy.Proofs.Resolution.Winner

/-!
# Perfect matches beside the closest match

The closest match goes by the mean score, and the mean is rounded.  So beside a perfect contender
the closest match has the mean of a full match, but it need not be perfect: each of its scores may
miss a full one by so little that rounding the sum hides it.  Where every contender that is not
perfect has a score that misses one clearly, the closest match is perfect.
-/

namespace Understudy

/-! ## Two mappings with fixed scores -/

/-- A mapping with conditions on the path and the method and some that give fixed scores. -/
def Mapping.scoring (id : Nat) (scores : List Score) : Mapping :=
  Mapping.new (.ofNat id)
    { RequestMatcher.empty with
      path := some (.exact "/a")
      method := some (.of ["GET"])
      custom := scores.map fun score => ⟨"scored", fun _ _ => .scored score⟩ }

/-- The result for a request that meets the conditions on the path and the method. -/
def MatchResult.scoring (scores : List Score) : MatchResult :=
  ⟨⟨"path", 1, none⟩ :: ⟨"method", 1, none⟩ ::
    scores.map fun score => ⟨"scored", score.clamp, none⟩⟩

theorem Mapping.evaluate_scoring (id : Nat) (scores : List Score) (gating : Option String) :
    (Mapping.scoring id scores).evaluate (Request.new "GET" "/a") gating =
      .ok (.scoring scores) := by
  have path : (Matching.ValueMatcher.exact "/a").score (some "/a") = 1 := by rfl
  have method : (Matching.MethodMatcher.of ["GET"]).score (Request.new "GET" "/a") = 1 := by rfl
  have verdicts : (Mapping.scoring id scores).verdicts (Request.new "GET" "/a") gating =
      ("path", .scored ((Matching.ValueMatcher.exact "/a").score (some "/a"))) ::
        ("method", .scored ((Matching.MethodMatcher.of ["GET"]).score (Request.new "GET" "/a"))) ::
          scores.map fun score => ("scored", .scored score) := by
    simp only [Mapping.verdicts, Mapping.checks, Mapping.scoring, Mapping.new,
      RequestMatcher.checks, RequestMatcher.empty, RequestMatcher.scoring, Option.toList,
      List.map_nil, List.map_cons, List.nil_append, List.append_nil, List.cons_append,
      List.map_map, Function.comp_def]
    rfl
  have clamped : (1 : Score).clamp = 1 := by decide
  rw [evaluate_eq_ok_iff, verdicts, path, method]
  refine ⟨?_, ?_, ?_⟩
  · simp [List.findSome?_cons, Mapping.panic?]
  · simp [MatchResult.scoring, Mapping.detail?, List.filterMap_map, clamped, Function.comp_def]
  · simp [MatchResult.scoring, MatchResult.hasErrors, MatchResult.errors, List.filterMap_map]

/-- Of two mappings each can contend in its place with its own result. -/
theorem eq_of_contends_pair {store : ScenarioStore} {draws : Draws} {request : Request}
    {now : Instant} {first second : Mapping} {firstResult secondResult : MatchResult}
    (firstEvaluated : first.evaluate request (gatingState store first) = .ok firstResult)
    (secondEvaluated : second.evaluate request (gatingState store second) = .ok secondResult)
    {position : Nat} {candidate : Candidate}
    (contends : Contends store draws request now [first, second] position candidate) :
    position = 0 ∧ candidate = ⟨first, firstResult⟩ ∨
      position = 1 ∧ candidate = ⟨second, secondResult⟩ := by
  rcases candidate with ⟨owner, result⟩
  obtain ⟨registered, -, -, evaluated⟩ := contends
  match position with
  | 0 =>
      obtain rfl : first = owner := Option.some.inj registered
      exact .inl ⟨rfl, congrArg _ (Except.ok.inj (evaluated.symm.trans firstEvaluated))⟩
  | 1 =>
      obtain rfl : second = owner := Option.some.inj registered
      exact .inr ⟨rfl, congrArg _ (Except.ok.inj (evaluated.symm.trans secondEvaluated))⟩
  | _ + 2 => cases registered

/-! ## Beside a perfect contender -/

section

variable {registry : Registry} {store : ScenarioStore}
variable {draws : Draws} {request : Request} {now : Instant} {position : Nat}
variable {candidate winner : Candidate}

/-- Who leads beside a perfect contender has the mean score of a full match. -/
theorem Leads.average_eq_perfect
    (leads : Leads store draws request now registry.mappings Candidate.closestKey
      Candidate.CanBeClosest winner)
    (contends : Contends store draws request now registry.mappings position candidate)
    (perfect : candidate.result.isPerfect = true) (positive : 0 < candidate.result.count)
    (bounded : candidate.result.count < 2 ^ 53) (winnerBounded : winner.result.count < 2 ^ 53) :
    winner.result.average = Score.perfect := by
  have keyLe := leads.key_le contends (Candidate.canBeClosest_of_isPerfect perfect positive bounded)
  have above := Candidate.place_average_le keyLe
  rw [MatchResult.average_of_isPerfect perfect positive bounded] at above
  obtain ⟨place, placed, admitted, -⟩ := leads
  have below := Mapping.place_average_le placed.evaluated winnerBounded admitted.1
  exact Score.place_injective (le_antisymm below above)

/-- Of two candidates with the same mean the one with the lower key has no more conditions. -/
theorem Candidate.count_le {winner other : Candidate}
    (averageEq : winner.result.average = other.result.average)
    (keyLe : winner.closestKey ≤ other.closestKey) : winner.result.count ≤ other.result.count := by
  rw [closestKey, closestKey, averageEq, Prod.Lex.toLex_le_toLex] at keyLe
  rcases keyLe with less | ⟨-, rest⟩
  · exact absurd less (lt_irrefl _)
  · exact Prod.Lex.monotone_fst _ _ rest

end

/-- A score of the candidate misses one so far that rounding cannot hide it. -/
def Candidate.MissesClearly (candidate : Candidate) : Prop :=
  ∃ score ∈ candidate.result.scores, score.MissesClearly candidate.result.count

/-- Beside a perfect contender with conditions the closest match, which the permissive mode answers
with, has the mean score of a full match.  It is perfect, or it has no more conditions and none of
its scores misses one clearly.  So it is perfect where each contender that is not perfect misses
clearly. -/
theorem closest_match_beside_perfect_contender (settings : MatchingSettings) {registry : Registry}
    {store : ScenarioStore} {draws : Draws} {request : Request} {now : Instant}
    (bounded : ∀ position contender,
      Contends store draws request now registry.mappings position contender →
        contender.result.count < 2 ^ 53)
    {position : Nat} {candidate : Candidate}
    (contends : Contends store draws request now registry.mappings position candidate)
    (perfect : candidate.result.isPerfect = true) (positive : 0 < candidate.result.count) :
    ∃ winner,
      (resolveAt settings registry store draws request now).resolution.closest = some winner ∧
      (resolveAt { settings with allowPartial := true } registry store draws request
        now).resolution.matched = some winner ∧
      winner.result.average = Score.perfect ∧
      (winner.result.isPerfect = true ∨
        winner.mapping.isAdmin = false ∧ winner.result.count ≤ candidate.result.count ∧
          ¬winner.MissesClearly) ∧
      ((∀ position contender,
          Contends store draws request now registry.mappings position contender →
            contender.result.isPerfect = true ∨ contender.MissesClearly) →
        winner.result.isPerfect = true) := by
  have candidateBounded := bounded position candidate contends
  have canBeClosest := Candidate.canBeClosest_of_isPerfect perfect positive candidateBounded
  obtain ⟨winner, closest⟩ := Option.isSome_iff_exists.mp <|
    (closest_isSome_iff settings registry store draws request now).mpr
      ⟨position, candidate, contends, canBeClosest⟩
  have leads := (closest_eq_some_iff settings registry store draws request now winner).mp closest
  have ⟨place, placed, admitted, _⟩ := leads
  have averageEq := leads.average_eq_perfect contends perfect positive candidateBounded
    (bounded place winner placed)
  have alternatives : winner.result.isPerfect = true ∨
      winner.mapping.isAdmin = false ∧ winner.result.count ≤ candidate.result.count ∧
        ¬winner.MissesClearly := by
    cases winnerPerfect : winner.result.isPerfect with
    | true => exact .inl rfl
    | false =>
        right
        refine ⟨?_, ?_, ?_⟩
        · exact admitted.2.resolve_right (by rw [winnerPerfect]; exact Bool.false_ne_true)
        · apply Candidate.count_le _ (leads.key_le contends canBeClosest)
          rw [averageEq, MatchResult.average_of_isPerfect perfect positive candidateBounded]
        · rintro ⟨score, member, misses⟩
          have below := Mapping.place_average_lt_of_missesClearly placed.evaluated member misses
            (bounded place winner placed) admitted.1
          rw [averageEq] at below
          exact absurd below (lt_irrefl _)
  refine ⟨winner, closest, ?_, averageEq, alternatives, ?_⟩
  · exact (matched_of_permissive registry store draws request now rfl).trans closest
  · intro clear
    rcases alternatives with winnerPerfect | ⟨-, -, unclear⟩
    · exact winnerPerfect
    · exact (clear place winner placed).resolve_right unclear

/-- Beside a mapping that matches perfectly one with a mismatch is not the closest match. -/
theorem perfect_mapping_is_closest_beside_mismatch :
    let whole := Mapping.scoring 1 [1]
    let mismatched := Mapping.scoring 2 [0]
    let request := Request.new "GET" "/a"
    ((∀ position contender,
        Contends .empty default request .epoch [whole, mismatched] position contender →
          contender.result.count < 2 ^ 53) ∧
      Contends .empty default request .epoch [whole, mismatched] 0 ⟨whole, .scoring [1]⟩ ∧
      (MatchResult.scoring [1]).isPerfect = true ∧ 0 < (MatchResult.scoring [1]).count) ∧
      ∃ winner,
        (resolveAt default ⟨[whole, mismatched]⟩ .empty default request .epoch).resolution.closest =
            some winner ∧
          winner.result.isPerfect = true := by
  intro whole mismatched request
  have wholeResult : whole.evaluate request (gatingState .empty whole) = .ok (.scoring [1]) :=
    Mapping.evaluate_scoring 1 [1] none
  have mismatchedResult : mismatched.evaluate request (gatingState .empty mismatched) =
      .ok (.scoring [0]) := Mapping.evaluate_scoring 2 [0] none
  have contends : Contends .empty default request .epoch [whole, mismatched] 0
      ⟨whole, .scoring [1]⟩ := ⟨rfl, rfl, nofun, wholeResult⟩
  have perfect : (MatchResult.scoring [1]).isPerfect = true := by decide
  have bounded : ∀ position contender,
      Contends .empty default request .epoch [whole, mismatched] position contender →
        contender.result.count < 2 ^ 53 := by
    intro position contender other
    rcases eq_of_contends_pair wholeResult mismatchedResult other with ⟨-, rfl⟩ | ⟨-, rfl⟩
    · exact (by decide : 3 < 2 ^ 53)
    · exact (by decide : 3 < 2 ^ 53)
  have clear : ∀ position contender,
      Contends .empty default request .epoch [whole, mismatched] position contender →
        contender.result.isPerfect = true ∨ contender.MissesClearly := by
    intro position contender other
    rcases eq_of_contends_pair wholeResult mismatchedResult other with ⟨-, rfl⟩ | ⟨-, rfl⟩
    · exact .inl perfect
    · exact .inr ⟨Score.clamp 0, by simp [MatchResult.scoring, MatchResult.scores],
        Score.missesClearly_mismatch _⟩
  obtain ⟨winner, closest, -, -, -, whenClear⟩ :=
    closest_match_beside_perfect_contender default bounded contends perfect (by decide)
  exact ⟨⟨bounded, contends, perfect, by decide⟩, winner, closest, whenClear clear⟩

/-- Of three scores the last one misses one by so little that the mean is one, and so the mapping
with fewer conditions is preferred to the one that matches perfectly. -/
theorem rounded_mean_passes_over_perfect_match :
    let whole := Mapping.scoring 1 [1, 1]
    let almost := Mapping.scoring 2 [0.9999999999999998]
    let request := Request.new "GET" "/a"
    let resolution := (resolveAt ⟨true, "/__admin"⟩ ⟨[whole, almost]⟩ .empty default request
      .epoch).resolution
    Contends .empty default request .epoch [whole, almost] 0 ⟨whole, .scoring [1, 1]⟩ ∧
      (MatchResult.scoring [1, 1]).isPerfect = true ∧
      (MatchResult.scoring [0.9999999999999998]).isPerfect = false ∧
      resolution.closest = some ⟨almost, .scoring [0.9999999999999998]⟩ ∧
      resolution.matched = some ⟨almost, .scoring [0.9999999999999998]⟩ := by
  intro whole almost request resolution
  have wholeResult : whole.evaluate request (gatingState .empty whole) = .ok (.scoring [1, 1]) :=
    Mapping.evaluate_scoring 1 [1, 1] none
  have almostResult : almost.evaluate request (gatingState .empty almost) =
      .ok (.scoring [0.9999999999999998]) := Mapping.evaluate_scoring 2 [0.9999999999999998] none
  have wholeContends : Contends .empty default request .epoch [whole, almost] 0
      ⟨whole, .scoring [1, 1]⟩ := ⟨rfl, rfl, nofun, wholeResult⟩
  have almostContends : Contends .empty default request .epoch [whole, almost] 1
      ⟨almost, .scoring [0.9999999999999998]⟩ := ⟨rfl, rfl, nofun, almostResult⟩
  have average : (MatchResult.scoring [0.9999999999999998]).average = 1 := by decide
  have otherAverage : (MatchResult.scoring [1, 1]).average = 1 := by decide
  have scores : 0 < (MatchResult.scoring [0.9999999999999998]).average := by
    rw [average]
    decide
  -- both means are one, and three conditions are fewer than four
  have preferred : Candidate.closestKey ⟨almost, .scoring [0.9999999999999998]⟩ <
      Candidate.closestKey ⟨whole, .scoring [1, 1]⟩ := by
    refine Prod.Lex.toLex_lt_toLex.mpr (.inr ⟨?_, ?_⟩)
    · exact congrArg (fun mean => OrderDual.toDual (Score.place mean))
        (average.trans otherAverage.symm)
    · exact Prod.Lex.toLex_lt_toLex.mpr (.inl (by decide))
  have closest : resolution.closest = some ⟨almost, .scoring [0.9999999999999998]⟩ := by
    refine (closest_eq_some_iff _ _ _ _ _ _ _).mpr ⟨1, almostContends, ⟨scores, .inl rfl⟩, ?_⟩
    intro place other contends _
    rcases eq_of_contends_pair wholeResult almostResult contends with ⟨rfl, rfl⟩ | ⟨rfl, rfl⟩
    · exact Prod.Lex.toLex_le_toLex.mpr (.inl preferred)
    · exact le_refl _
  have matched : resolution.matched = resolution.closest := matched_of_permissive _ _ _ _ _ rfl
  exact ⟨wholeContends, by decide, by decide, closest, matched.trans closest⟩

end Understudy
