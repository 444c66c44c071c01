import Understudy.Proofs.Score.Mean

/-!
# Scores that miss one clearly

Rounding can hide that a score is less than one: the sum of scores, and with it their mean, comes
out as if it were a full match.  It cannot hide what is as much as the steps between the doubles
below the least power of two that is at least the number of scores.  A bound that is one such step
less than a natural number has 53 significant bits, so that no sum crosses it.  In particular the
mean of all-or-nothing scores is a full match only if all of them are.
-/

namespace Understudy

namespace Score

/-- The units between the doubles below the least power of two that is at least the count. -/
def stepBelow (count : Nat) : Nat :=
  2 ^ (Nat.clog 2 count + (onePower - 53))

/-- The score is less than one by so much that rounding a sum of so many scores cannot hide it. -/
def MissesClearly (count : Nat) (score : Score) : Prop :=
  Within (unitsPerOne - stepBelow count) score

theorem missesClearly_mismatch (count : Nat) : MissesClearly count mismatch :=
  within_mismatch _

theorem clog_le_of_lt {count : Nat} (bounded : count < 2 ^ 53) : Nat.clog 2 count ≤ 53 :=
  Nat.clog_le_of_le_pow (Nat.le_of_lt bounded)

/-- So many steps are as much as the count. -/
theorem count_mul_le_stepBelow (count : Nat) :
    count * 2 ^ (onePower - 53) ≤ stepBelow count := by
  rw [stepBelow, Nat.pow_add]
  exact Nat.mul_le_mul_right _ (Nat.le_pow_clog (by decide) count)

theorem unitsPerOne_eq_stepBelow {count : Nat} (bounded : count < 2 ^ 53) :
    unitsPerOne = 2 ^ (53 - Nat.clog 2 count) * stepBelow count := by
  have clogLe := clog_le_of_lt bounded
  have powerEq := onePower_eq
  rw [unitsPerOne, stepBelow, ← Nat.pow_add]
  congr 1
  omega

theorem stepBelow_le {count : Nat} (bounded : count < 2 ^ 53) : stepBelow count ≤ unitsPerOne := by
  rw [unitsPerOne_eq_stepBelow bounded]
  exact Nat.le_mul_of_pos_left _ (Nat.two_pow_pos _)

/-- Up to the count a number less one step has at most 53 significant bits. -/
theorem mul_unitsPerOne_sub_stepBelow {count number : Nat} (bounded : count < 2 ^ 53)
    (le : number ≤ count) :
    ∃ significand < 2 ^ 53, number * unitsPerOne - stepBelow count =
      significand * 2 ^ (Nat.clog 2 count + (onePower - 53)) := by
  refine ⟨number * 2 ^ (53 - Nat.clog 2 count) - 1, ?_, ?_⟩
  · have scaled : number * 2 ^ (53 - Nat.clog 2 count) ≤ 2 ^ 53 :=
      calc
        number * 2 ^ (53 - Nat.clog 2 count) ≤
            2 ^ Nat.clog 2 count * 2 ^ (53 - Nat.clog 2 count) :=
          Nat.mul_le_mul_right _ (Nat.le_trans le (Nat.le_pow_clog (by decide) count))
        _ = 2 ^ 53 := by
          rw [← Nat.pow_add, Nat.add_sub_cancel' (clog_le_of_lt bounded)]
    omega
  · rw [unitsPerOne_eq_stepBelow bounded, Nat.sub_mul, Nat.one_mul, Nat.mul_assoc]
    rfl

/-- Rounding a sum does not hide that it is less than a number by one step. -/
theorem within_add_of_stepBelow {first second : Float} {one other count number : Nat}
    (bounded : count < 2 ^ 53) (le : number ≤ count)
    (sum : one + other ≤ number * unitsPerOne - stepBelow count) (firstWithin : Within one first)
    (secondWithin : Within other second) :
    Within (number * unitsPerOne - stepBelow count) (first + second) := by
  obtain ⟨significand, small, limitEq⟩ := mul_unitsPerOne_sub_stepBelow bounded le
  rw [limitEq] at sum ⊢
  refine within_add small ?_ sum firstWithin secondWithin
  have clogLe := clog_le_of_lt bounded
  have powerEq := onePower_eq
  omega

/-- A sum with a score that misses one clearly is less than the number of scores by one step. -/
theorem within_total_of_missesClearly {scores : List Score} {score : Score}
    (each : ∀ score ∈ scores, Within unitsPerOne score) (member : score ∈ scores)
    (misses : MissesClearly scores.length score) (bounded : scores.length < 2 ^ 53) :
    Within (scores.length * unitsPerOne - stepBelow scores.length) (total scores) := by
  generalize countEq : scores.length = count at misses bounded ⊢
  obtain ⟨before, after, rfl⟩ := List.append_of_mem member
  rw [List.length_append, List.length_cons] at countEq
  obtain ⟨eachBefore, -, eachAfter⟩ := List.forall_mem_append.mp each |>.imp_right
    List.forall_mem_cons.mp
  have stepLe := stepBelow_le bounded
  have start : Within (0 * unitsPerOne) (-0.0) := .inr trivial
  have beforeWithin := within_foldl_add eachBefore (by omega) start
  rw [Nat.zero_add] at beforeWithin
  have missed : Within ((before.length + 1) * unitsPerOne - stepBelow count)
      (before.foldl (fun sum score => sum + score) (-0.0) + score) := by
    refine within_add_of_stepBelow bounded (by omega) ?_ beforeWithin misses
    rw [Nat.succ_mul]
    omega
  have behind := within_foldl (fun number => number * unitsPerOne - stepBelow count) ?_ eachAfter
    missed
  · have lengths : before.length + 1 + after.length = count := by omega
    rw [lengths] at behind
    rwa [total, List.foldl_append, List.foldl_cons]
  · intro number sum other least less sumWithin otherWithin
    refine within_add_of_stepBelow bounded (by omega) ?_ sumWithin otherWithin
    have positive : unitsPerOne ≤ number * unitsPerOne := Nat.le_mul_of_pos_left _ (by omega)
    rw [Nat.succ_mul]
    omega

/-- The mean of scores of which one misses one clearly is less than one. -/
theorem within_average_of_missesClearly {scores : List Score} {score : Score}
    (each : ∀ score ∈ scores, Within unitsPerOne score) (member : score ∈ scores)
    (misses : MissesClearly scores.length score) (bounded : scores.length < 2 ^ 53) :
    Within unitsBelowOne (average scores) := by
  have positive := List.length_pos_of_mem member
  have sum := within_total_of_missesClearly each member misses bounded
  have below : scores.length * unitsPerOne - stepBelow scores.length ≤
      unitsBelowOne * scores.length := by
    have steps := count_mul_le_stepBelow scores.length
    rw [unitsBelowOne, Nat.sub_mul, Nat.sub_mul, Nat.one_mul, ← unitsPerOne_eq, Nat.mul_comm,
      Nat.mul_comm (2 ^ _)]
    omega
  rw [average, if_neg (by simpa using List.ne_nil_of_mem member)]
  exact within_div (by decide) (Nat.le_refl _) (Nat.le_of_lt unitsBelowOne_lt) positive bounded
    (sum.mono below)

/-- A mean above zero of scores of which one misses one clearly stands before a full match. -/
theorem place_average_lt {scores : List Score} {score : Score}
    (each : ∀ score ∈ scores, Within unitsPerOne score) (member : score ∈ scores)
    (misses : MissesClearly scores.length score) (bounded : scores.length < 2 ^ 53)
    (aboveZero : 0 < average scores) : place (average scores) < place perfect := by
  rcases within_average_of_missesClearly each member misses bounded with isNaN | atMost
  · rw [isNaN_eq_false_of_pos aboveZero] at isNaN
    cases isNaN
  · exact place_lt_of_atMost atMost

theorem not_within_perfect : ¬Within unitsBelowOne perfect := by
  rintro (isNaN | atMost)
  · exact absurd isNaN (by decide)
  · exact Int.lt_irrefl _ (place_lt_of_atMost atMost)

theorem within_ofBool (matched : Bool) : Within unitsPerOne (ofBool matched) := by
  cases matched with
  | false => exact within_mismatch unitsPerOne
  | true => exact .inr atMost_unpack_one

/-- The mean of all-or-nothing scores is a full match exactly if all of them are. -/
theorem clamp_average_ofBool_eq_perfect_iff {outcomes : List Bool} (nonempty : outcomes ≠ [])
    (bounded : outcomes.length < 2 ^ 53) :
    (average (outcomes.map ofBool)).clamp = perfect ↔ ∀ outcome ∈ outcomes, outcome = true := by
  constructor
  · intro full
    by_contra notAll
    have missed : false ∈ outcomes := by simpa using notAll
    have each : ∀ score ∈ outcomes.map ofBool, Within unitsPerOne score :=
      List.forall_mem_map.mpr fun outcome _ => within_ofBool outcome
    have below := within_average_of_missesClearly each (List.mem_map_of_mem missed)
      (missesClearly_mismatch _) (by rwa [List.length_map])
    rw [clamp_of_within (below.mono (Nat.le_of_lt unitsBelowOne_lt))] at full
    exact not_within_perfect (full ▸ below)
  · intro all
    have scores : outcomes.map ofBool = List.replicate outcomes.length perfect := by
      rw [List.eq_replicate_of_mem all, List.map_replicate, List.length_replicate]
      rfl
    rw [scores, average_replicate_perfect (List.length_pos_iff.mpr nonempty) bounded]
    exact clamp_of_within (within_ofBool true)

end Score

end Understudy
