import Understudy.Proofs.Matching.Evaluation
import Understudy.Proofs.Ranking.Stability

/-!
# Ranking without scores

What the ranking of perfect candidates comes to.  The mean of a perfect result is a full match, and
no match where there is no condition, so that it tells no more than whether there are conditions.
The ranking is the stable sort by a key that looks at no score, and at one priority a mapping
without conditions stands behind all that have some.
-/

namespace Understudy

open OrderDual

namespace MatchResult

/-- The mean of a perfect result tells whether it has conditions. -/
theorem average_eq_ite_of_isPerfect {result : MatchResult} (perfect : result.isPerfect = true)
    (bounded : result.count < 2 ^ 53) :
    result.average = if result.count = 0 then Score.mismatch else Score.perfect := by
  by_cases none : result.count = 0
  · have noScores : result.scores = [] := by
      rw [scores_eq_replicate perfect, none, List.replicate_zero]
    rw [if_pos none, average, noScores]
    rfl
  · rw [if_neg none, average_of_isPerfect perfect (Nat.pos_of_ne_zero none) bounded]

end MatchResult

namespace Candidate

/-- The place of the mean of a perfect candidate. -/
theorem place_average_of_isPerfect {candidate : Candidate}
    (perfect : candidate.result.isPerfect = true) (bounded : candidate.result.count < 2 ^ 53) :
    Score.place candidate.result.average =
      bif decide (candidate.result.count = 0) then Score.place Score.mismatch
      else Score.place Score.perfect := by
  rw [MatchResult.average_eq_ite_of_isPerfect perfect bounded, Bool.cond_decide,
    apply_ite Score.place]

/-- Every condition of the candidate scored one. -/
def MatchesInFull (candidate : Candidate) : Prop :=
  ∀ score ∈ candidate.result.scores, score = Score.perfect

instance (candidate : Candidate) : Decidable candidate.MatchesInFull :=
  inferInstanceAs (Decidable (∀ score ∈ candidate.result.scores, score = Score.perfect))

/-- A key of perfect matches without a score: priority, conditions before none, number of
conditions, probability from high to low, and last update from late to early. -/
def unscoredKey (candidate : Candidate) : ℤ ×ₗ Bool ×ₗ ℕ ×ₗ WithTop ℤᵒᵈ ×ₗ ℤᵒᵈ :=
  toLex (candidate.mapping.priority,
    toLex (decide (candidate.result.count = 0),
      toLex (candidate.result.count,
        toLex (candidate.probabilityKey,
          toDual candidate.mapping.updatedAt.place))))

section

variable {first second : Candidate} (firstPerfect : first.result.isPerfect = true)
variable (secondPerfect : second.result.isPerfect = true)
variable (firstBounded : first.result.count < 2 ^ 53) (secondBounded : second.result.count < 2 ^ 53)
include firstPerfect secondPerfect firstBounded secondBounded

/-- Means of perfect results differ only where one of them has conditions and the other has none. -/
theorem average_eq_iff :
    first.result.average = second.result.average ↔
      (first.result.count = 0 ↔ second.result.count = 0) := by
  have apart : Score.mismatch ≠ Score.perfect := by decide
  rw [MatchResult.average_eq_ite_of_isPerfect firstPerfect firstBounded,
    MatchResult.average_eq_ite_of_isPerfect secondPerfect secondBounded]
  by_cases firstNone : first.result.count = 0
  · by_cases secondNone : second.result.count = 0
    · simp [firstNone, secondNone]
    · simp [firstNone, secondNone, apart]
  · by_cases secondNone : second.result.count = 0
    · simp [firstNone, secondNone, apart.symm]
    · simp [firstNone, secondNone]

/-- Both keys compare perfect candidates in the same way. -/
theorem perfectKey_le_iff_unscoredKey_le :
    first.perfectKey ≤ second.perfectKey ↔ first.unscoredKey ≤ second.unscoredKey := by
  have less : Score.place Score.mismatch < Score.place Score.perfect := by decide
  have conditionsFirst : ¬true < false := by decide
  have firstPlace := place_average_of_isPerfect firstPerfect firstBounded
  have secondPlace := place_average_of_isPerfect secondPerfect secondBounded
  rw [perfectKey, perfectKey, unscoredKey, unscoredKey, firstPlace, secondPlace]
  -- the rest of the keys is the same, so it is enough to compare the second components
  generalize decide (first.result.count = 0) = firstNone
  generalize decide (second.result.count = 0) = secondNone
  cases firstNone with
  | false =>
      cases secondNone with
      | false => simp [Prod.Lex.toLex_le_toLex]
      | true => simp [Prod.Lex.toLex_le_toLex, less]
  | true =>
      cases secondNone with
      | false => simp [Prod.Lex.toLex_le_toLex, less.not_gt, less.ne, conditionsFirst]
      | true => simp [Prod.Lex.toLex_le_toLex]

end

end Candidate

/-- The order of the key keeps candidates without conditions behind those of their priority that
have some. -/
theorem Candidate.count_eq_zero_of_unscoredKey_le {first second : Candidate}
    (keyLe : first.unscoredKey ≤ second.unscoredKey)
    (priority : first.mapping.priority = second.mapping.priority)
    (none : first.result.count = 0) : second.result.count = 0 := by
  rw [unscoredKey, unscoredKey, Prod.Lex.toLex_le_toLex] at keyLe
  rcases keyLe with less | ⟨-, behind⟩
  · exact absurd less priority.not_lt
  · have emptiness := Prod.Lex.monotone_fst _ _ behind
    exact of_decide_eq_true (emptiness (decide_eq_true none))

theorem stablySorts_rankPerfect (candidates : List Candidate) :
    StablySorts Candidate.perfectKey
      (candidates.filter fun candidate => candidate.result.isPerfect) (rankPerfect candidates) := by
  rw [rankPerfect, sortCandidates, Candidate.ordersBy_perfectKey.isLE_eq_precedesBy]
  exact stablySorts_mergeSort _ _

/-- Without any score in its key the ranking is the same stable sort. -/
theorem stablySorts_unscoredKey_rankPerfect {candidates : List Candidate}
    (bounded : ∀ candidate ∈ candidates, candidate.result.count < 2 ^ 53) :
    StablySorts Candidate.unscoredKey
      (candidates.filter fun candidate => candidate.MatchesInFull) (rankPerfect candidates) := by
  have tests : ∀ candidate ∈ candidates,
      candidate.result.isPerfect = decide candidate.MatchesInFull := by
    intro candidate _
    rw [Bool.eq_iff_iff, MatchResult.isPerfect_iff, decide_eq_true_iff]
    rfl
  rw [← List.filter_congr tests]
  refine (stablySorts_rankPerfect candidates).of_le_iff ?_
  intro first firstMember second secondMember
  obtain ⟨firstListed, firstPerfect⟩ := List.mem_filter.mp firstMember
  obtain ⟨secondListed, secondPerfect⟩ := List.mem_filter.mp secondMember
  exact Candidate.perfectKey_le_iff_unscoredKey_le firstPerfect secondPerfect
    (bounded first firstListed) (bounded second secondListed)

/-- The ranking of perfect candidates lists exactly those all of whose scores are one, in the one
stable order of the key without a score.  Their means differ only where one of two has conditions
and the other has none, and at one priority no candidate without conditions stands before one that
has some. -/
theorem perfect_ranking_looks_at_no_score {candidates : List Candidate}
    (bounded : ∀ candidate ∈ candidates, candidate.result.count < 2 ^ 53) :
    (∀ ranking,
      StablySorts Candidate.unscoredKey
          (candidates.filter fun candidate => candidate.MatchesInFull) ranking ↔
        ranking = rankPerfect candidates) ∧
    (∀ first ∈ rankPerfect candidates, ∀ second ∈ rankPerfect candidates,
      first.result.average = second.result.average ↔
        (first.result.count = 0 ↔ second.result.count = 0)) ∧
    (rankPerfect candidates).Pairwise fun earlier later =>
      earlier.mapping.priority = later.mapping.priority → earlier.result.count = 0 →
        later.result.count = 0 := by
  have sorts := stablySorts_unscoredKey_rankPerfect bounded
  have listed : ∀ candidate ∈ rankPerfect candidates,
      candidate.result.isPerfect = true ∧ candidate.result.count < 2 ^ 53 := by
    intro candidate member
    obtain ⟨given, full⟩ := List.mem_filter.mp (sorts.perm.subset member)
    exact ⟨MatchResult.isPerfect_iff.mpr (of_decide_eq_true full), bounded candidate given⟩
  refine ⟨fun ranking => ?_, ?_, ?_⟩
  · constructor
    · exact fun otherSorts => otherSorts.unique sorts
    · rintro rfl
      exact sorts
  · intro first firstMember second secondMember
    obtain ⟨firstPerfect, firstBounded⟩ := listed first firstMember
    obtain ⟨secondPerfect, secondBounded⟩ := listed second secondMember
    exact Candidate.average_eq_iff firstPerfect secondPerfect firstBounded secondBounded
  · exact sorts.ascending.imp Candidate.count_eq_zero_of_unscoredKey_le

/-- Of three candidates the one that missed a condition is left out, and the one without
conditions, which was given first, comes last. -/
theorem bare_candidate_ranks_behind_conditions :
    let bare : Candidate := ⟨Mapping.new (.ofNat 1) .empty, ⟨[]⟩⟩
    let missed : Candidate := ⟨Mapping.new (.ofNat 2) .empty, .ofScores "given" [1, 0]⟩
    let full : Candidate := ⟨Mapping.new (.ofNat 3) .empty, .ofScores "given" [1, 1]⟩
    (∀ candidate ∈ [bare, missed, full], candidate.result.count < 2 ^ 53) ∧
      [full, bare] = rankPerfect [bare, missed, full] := by
  intro bare missed full
  have bounded : ∀ candidate ∈ [bare, missed, full], candidate.result.count < 2 ^ 53 := by
    intro candidate member
    simp only [List.mem_cons, List.not_mem_nil, or_false] at member
    rcases member with rfl | rfl | rfl <;> decide
  have admitted : [bare, missed, full].filter (fun candidate => candidate.MatchesInFull) =
      [bare, full] := rfl
  have less : full.unscoredKey < bare.unscoredKey := by decide
  refine ⟨bounded, ((perfect_ranking_looks_at_no_score bounded).1 _).mp ?_⟩
  rw [admitted]
  refine ⟨List.Perm.swap bare full [], List.pairwise_pair.mpr less.le, fun value => ?_⟩
  by_cases here : full.unscoredKey = value
  · have notThere : bare.unscoredKey ≠ value := fun there => less.ne (here.trans there.symm)
    simp [here, notThere]
  · simp [List.filter_cons, here]

end Understudy
