import Understudy.Pattern
import Understudy.Proofs.Score.Tally

/-!
# Fields with several values

A pattern is met by a field if one of its values meets it, and by a field without values if their
absence does.  Each pattern counts as a full match or as none, so the score of a field tells how
many of its patterns are met: all of them, one of them, or their share.  Neither the order of the
patterns nor that of the values matters, nor how often a value is there.
-/

namespace Understudy

namespace Pattern

/-- The pattern is met by one of the values, or by their absence if there are none. -/
def IsMetBy (pattern : Pattern) (values : List String) : Prop :=
  (values = [] ∧ pattern.accepts none = true) ∨
    ∃ value ∈ values, pattern.accepts (some value) = true

instance (pattern : Pattern) (values : List String) : Decidable (pattern.IsMetBy values) :=
  inferInstanceAs (Decidable (_ ∨ _))

/-- For each pattern whether it is met. -/
def outcomes (patterns : List Pattern) (values : List String) : List Bool :=
  patterns.map fun pattern => decide (pattern.IsMetBy values)

variable {pattern : Pattern} {patterns : List Pattern} {values : List String}

theorem isMetBy_nil_iff : pattern.IsMetBy [] ↔ pattern.accepts none = true := by
  simp [IsMetBy]

theorem isMetBy_iff_of_ne_nil (nonempty : values ≠ []) :
    pattern.IsMetBy values ↔ ∃ value ∈ values, pattern.accepts (some value) = true := by
  simp [IsMetBy, nonempty]

/-- Only which values there are counts. -/
theorem isMetBy_congr {others : List String} (same : ∀ value, value ∈ others ↔ value ∈ values) :
    pattern.IsMetBy others ↔ pattern.IsMetBy values := by
  simp only [IsMetBy, List.eq_nil_iff_forall_not_mem, same]

/-! ## Outcomes -/

theorem outcomes_ne_nil (nonempty : patterns ≠ []) (values : List String) :
    outcomes patterns values ≠ [] :=
  mt List.map_eq_nil_iff.mp nonempty

@[simp]
theorem length_outcomes (patterns : List Pattern) (values : List String) :
    (outcomes patterns values).length = patterns.length :=
  List.length_map _

theorem count_outcomes (patterns : List Pattern) (values : List String) :
    (outcomes patterns values).count true =
      patterns.countP fun pattern => pattern.IsMetBy values := by
  simp [outcomes, List.count, List.countP_map, Function.comp_def]

theorem forall_mem_outcomes_iff :
    (∀ outcome ∈ outcomes patterns values, outcome = true) ↔
      ∀ pattern ∈ patterns, pattern.IsMetBy values := by
  simp [outcomes]

theorem exists_mem_outcomes_iff :
    (∃ outcome ∈ outcomes patterns values, outcome = true) ↔
      ∃ pattern ∈ patterns, pattern.IsMetBy values := by
  simp [outcomes]

theorem outcomes_perm {reordered : List Pattern} {others : List String}
    (perm : reordered.Perm patterns) (same : ∀ value, value ∈ others ↔ value ∈ values) :
    (outcomes reordered others).Perm (outcomes patterns values) := by
  have alike : outcomes reordered others = outcomes reordered values :=
    List.map_congr_left fun pattern _ => decide_eq_decide.mpr (isMetBy_congr same)
  rw [alike]
  exact perm.map _

/-! ## Scores -/

/-- The best score of a pattern tells whether one of the values meets it. -/
theorem foldl_max_score (pattern : Pattern) (values : List String) :
    (values.map fun value => pattern.score (some value)).foldl Score.max Score.mismatch =
      Score.ofBool (values.any fun value => pattern.accepts (some value)) := by
  have best := Score.foldl_max_ofBool false (values.map fun value => pattern.accepts (some value))
  rw [List.map_map, List.any_map, Bool.false_or] at best
  exact best

/-- The score of a field joins the outcomes of its patterns. -/
theorem scoreValues_eq_aggregate (operator : Operator) (patterns : List Pattern)
    (values : List String) :
    scoreValues operator patterns values =
      operator.aggregate ((outcomes patterns values).map Score.ofBool) := by
  rw [scoreValues, outcomes, List.map_map]
  split
  next none =>
    obtain rfl := List.isEmpty_iff.mp none
    congr 1
    refine List.map_congr_left fun pattern _ => congrArg Score.ofBool ?_
    rw [Bool.eq_iff_iff, decide_eq_true_iff, isMetBy_nil_iff]
  next some =>
    rw [List.isEmpty_iff] at some
    congr 1
    refine List.map_congr_left fun pattern _ => (foldl_max_score pattern values).trans ?_
    refine congrArg Score.ofBool ?_
    rw [Bool.eq_iff_iff, List.any_eq_true, decide_eq_true_iff, isMetBy_iff_of_ne_nil some]

theorem scoreValues_and (nonempty : patterns ≠ []) (values : List String) :
    scoreValues .and patterns values =
      Score.ofBool (decide (∀ pattern ∈ patterns, pattern.IsMetBy values)) := by
  rw [scoreValues_eq_aggregate, Operator.aggregate_and_ofBool (outcomes_ne_nil nonempty values)]
  congr 1
  rw [Bool.eq_iff_iff, List.all_eq_true, decide_eq_true_iff]
  exact forall_mem_outcomes_iff

theorem scoreValues_or (patterns : List Pattern) (values : List String) :
    scoreValues .or patterns values =
      Score.ofBool (decide (∃ pattern ∈ patterns, pattern.IsMetBy values)) := by
  rw [scoreValues_eq_aggregate, Operator.aggregate_or_ofBool]
  congr 1
  rw [Bool.eq_iff_iff, List.any_eq_true, decide_eq_true_iff]
  exact exists_mem_outcomes_iff

theorem scoreValues_average (patterns : List Pattern) (values : List String) :
    scoreValues .average patterns values =
      Score.average ((outcomes patterns values).map Score.ofBool) := by
  rw [scoreValues_eq_aggregate, Operator.aggregate_average]

/-- The mean is the share of the patterns that are met. -/
theorem scoreValues_average_eq_div (nonempty : patterns ≠ []) (values : List String) :
    scoreValues .average patterns values =
      Float.ofNat (counted (patterns.countP fun pattern => pattern.IsMetBy values)) /
        Float.ofNat patterns.length := by
  rw [scoreValues_average, Score.average_ofBool (outcomes_ne_nil nonempty values), count_outcomes,
    length_outcomes]

/-- A field meets its patterns in full in the mean if each of them is met. -/
theorem clamp_scoreValues_average_iff (nonempty : patterns ≠ [])
    (bounded : patterns.length < 2 ^ 53) (values : List String) :
    (scoreValues .average patterns values).clamp = Score.perfect ↔
      ∀ pattern ∈ patterns, pattern.IsMetBy values := by
  rw [scoreValues_average, Score.clamp_average_ofBool_eq_perfect_iff
    (outcomes_ne_nil nonempty values) (by rwa [length_outcomes]), forall_mem_outcomes_iff]

/-- Neither the order of the patterns nor how the values are listed makes a difference. -/
theorem scoreValues_congr (operator : Operator) {reordered : List Pattern} {others : List String}
    (perm : reordered.Perm patterns) (same : ∀ value, value ∈ others ↔ value ∈ values) :
    scoreValues operator reordered others = scoreValues operator patterns values := by
  rw [scoreValues_eq_aggregate, scoreValues_eq_aggregate]
  exact Operator.aggregate_ofBool_of_perm (outcomes_perm perm same) operator

end Pattern

open Pattern

/-- The score of a field under `and` is full exactly if all its patterns are met, and under `or`
exactly if one is.  The mean is the share of those that are met, counted as far as a double counts
one by one.  Of fewer than `2 ^ 53` patterns all are counted; then the mean is full exactly if the
score under `and` is, and above zero exactly if the score under `or` is full.  No score depends on
the order of the patterns, nor on the order or the repetition of values. -/
theorem field_score_tells_met_patterns {patterns : List Pattern} (nonempty : patterns ≠ [])
    (values : List String) :
    (scoreValues .and patterns values =
      if ∀ pattern ∈ patterns, pattern.IsMetBy values then 1 else 0) ∧
    (scoreValues .or patterns values =
      if ∃ pattern ∈ patterns, pattern.IsMetBy values then 1 else 0) ∧
    (scoreValues .average patterns values =
      Float.ofNat (counted (patterns.countP fun pattern => pattern.IsMetBy values)) /
        Float.ofNat patterns.length) ∧
    (patterns.length < 2 ^ 53 →
      scoreValues .average patterns values =
        Float.ofNat (patterns.countP fun pattern => pattern.IsMetBy values) /
          Float.ofNat patterns.length ∧
      (scoreValues .average patterns values = 1 ↔ scoreValues .and patterns values = 1) ∧
      (0 < scoreValues .average patterns values ↔ scoreValues .or patterns values = 1)) ∧
    ∀ (operator : Operator) (reordered : List Pattern) (others : List String),
      reordered.Perm patterns → (∀ value, value ∈ others ↔ value ∈ values) →
        scoreValues operator reordered others = scoreValues operator patterns values := by
  have full : ∀ matched, Score.ofBool matched = 1 ↔ matched = true := by decide
  have outcomesNonempty := outcomes_ne_nil nonempty values
  refine ⟨?_, ?_, scoreValues_average_eq_div nonempty values, fun bounded => ⟨?_, ?_, ?_⟩,
    fun operator _ _ => scoreValues_congr operator⟩
  · rw [scoreValues_and nonempty, Score.ofBool]
    simp only [decide_eq_true_eq]
    rfl
  · rw [scoreValues_or, Score.ofBool]
    simp only [decide_eq_true_eq]
    rfl
  · have metLe : patterns.countP (fun pattern => pattern.IsMetBy values) ≤ patterns.length :=
      List.countP_le_length
    rw [scoreValues_average_eq_div nonempty, counted_of_le (by omega)]
  · rw [scoreValues_and nonempty, full, decide_eq_true_iff, scoreValues_average,
      ← forall_mem_outcomes_iff]
    exact Score.average_ofBool_eq_perfect_iff outcomesNonempty (by rwa [length_outcomes])
  · rw [scoreValues_or, full, decide_eq_true_iff, scoreValues_average, ← exists_mem_outcomes_iff]
    exact Score.zero_lt_average_ofBool_iff outcomesNonempty (by rwa [length_outcomes])

theorem two_of_three_patterns_are_met :
    [Pattern.exact "new", ⟨.startsWith "SA", true⟩, ⟨.present false, false⟩] ≠ [] ∧
      scoreValues .average
        [Pattern.exact "new", ⟨.startsWith "SA", true⟩, ⟨.present false, false⟩]
        ["sale", "new", "new"] = Float.ofNat 2 / Float.ofNat 3 := by
  have nonempty : [Pattern.exact "new", ⟨.startsWith "SA", true⟩, ⟨.present false, false⟩] ≠ [] :=
    List.cons_ne_nil _ _
  have share := (field_score_tells_met_patterns nonempty ["sale", "new", "new"]).2.2.2.1 (by decide)
  have met : [Pattern.exact "new", ⟨.startsWith "SA", true⟩, ⟨.present false, false⟩].countP
      (fun pattern => pattern.IsMetBy ["sale", "new", "new"]) = 2 := by decide +kernel
  rw [met] at share
  exact ⟨nonempty, share.1⟩

end Understudy
