import Understudy.Proofs.Score.Deficit

/-!
# All-or-nothing scores

Scores that are a full match or none are told by how many of them are full.  Their sum is that
number, counted up to `2 ^ 53`, where a double stops counting; so their mean is the quotient of two
numbers, a full match exactly if all of them are, and above zero exactly if one of them is.  No
operator looks at their order.
-/

namespace Understudy

open Float.Model Float.Model.UnpackedFloat

/-! ## Sums -/

theorem naturalDouble_add_zero {number : Nat} (positive : 0 < number) (bounded : number < 2 ^ 53) :
    naturalDouble number positive + 0 = naturalDouble number positive := by
  change Float.ofModel (Float.Model.pack (UnpackedFloat.add Format.binary64
    (naturalDouble number positive).toModel.unpack (0 : Float).toModel.unpack)) = _
  rw [unpack_naturalDouble positive bounded]
  rfl

theorem ofNat_add_zero {number : Nat} (bounded : number ≤ 2 ^ 53) :
    Float.ofNat number + 0 = Float.ofNat number := by
  rcases Nat.eq_zero_or_pos number with rfl | positive
  · decide
  · rcases Nat.eq_or_lt_of_le bounded with rfl | less
    · decide
    · rw [ofNat_eq_naturalDouble positive less, naturalDouble_add_zero positive less]

theorem ofNat_add_one {number : Nat} (bounded : number < 2 ^ 53) :
    Float.ofNat number + 1 = Float.ofNat (number + 1) := by
  rcases Nat.eq_zero_or_pos number with rfl | positive
  · decide
  · rcases Nat.eq_or_lt_of_le (Nat.succ_le_of_lt bounded) with last | less
    · obtain rfl : number = 2 ^ 53 - 1 := by omega
      decide
    · rw [ofNat_eq_naturalDouble positive bounded, ofNat_eq_naturalDouble (Nat.succ_pos _) less,
        ← naturalDouble_one, naturalDouble_add_one positive less]

/-- The number as far as a double counts one by one. -/
def counted (number : Nat) : Nat := min number (2 ^ 53)

theorem counted_of_le {number : Nat} (bounded : number ≤ 2 ^ 53) : counted number = number :=
  Nat.min_eq_left bounded

/-- A sum counts a full match as far as it can, and does not change by a mismatch. -/
theorem ofNat_counted_add_ofBool (count : Nat) (matched : Bool) :
    Float.ofNat (counted count) + Score.ofBool matched =
      Float.ofNat (counted (count + matched.toNat)) := by
  cases matched with
  | false => exact ofNat_add_zero (Nat.min_le_right _ _)
  | true =>
      rcases Nat.lt_or_ge count (2 ^ 53) with less | greater
      · have next : counted (count + 1) = count + 1 := counted_of_le (Nat.succ_le_of_lt less)
        rw [counted_of_le (Nat.le_of_lt less), Bool.toNat_true, next]
        exact ofNat_add_one less
      · rw [counted, counted, Nat.min_eq_right greater,
          Nat.min_eq_right (Nat.le_add_right_of_le greater)]
        decide

namespace Score

/-- The sum of all-or-nothing scores is the number of full ones. -/
theorem total_ofBool {outcomes : List Bool} (nonempty : outcomes ≠ []) :
    total (outcomes.map ofBool) = Float.ofNat (counted (outcomes.count true)) := by
  induction outcomes using List.reverseRecOn with
  | nil => exact absurd rfl nonempty
  | append_singleton front outcome inductionHypothesis =>
      have counted : (front ++ [outcome]).count true = front.count true + outcome.toNat := by
        rw [List.count_append]
        cases outcome <;> rfl
      rw [List.map_append, List.map_singleton, total_append_singleton, counted]
      -- the sum starts from the negative zero, so the first score is a case of its own
      cases front with
      | nil => cases outcome <;> decide
      | cons first rest =>
          rw [inductionHypothesis (List.cons_ne_nil _ _), ofNat_counted_add_ofBool]

/-- The mean of all-or-nothing scores is the share of the full ones. -/
theorem average_ofBool {outcomes : List Bool} (nonempty : outcomes ≠ []) :
    average (outcomes.map ofBool) =
      Float.ofNat (counted (outcomes.count true)) / Float.ofNat outcomes.length := by
  rw [average, if_neg (by simpa using nonempty), total_ofBool nonempty, List.length_map]

end Score

/-! ## Quotients -/

/-- Full significands are divided to 53 more bits. -/
theorem divCore_full {mantissa divisor : Nat} {exponent divisorExponent : Int}
    (lower : 2 ^ 52 ≤ mantissa) (upper : mantissa < 2 ^ 53) (divisorLower : 2 ^ 52 ≤ divisor)
    (divisorUpper : divisor < 2 ^ 53) (least : -1021 ≤ exponent - divisorExponent) :
    divCore Format.binary64 mantissa exponent divisor divisorExponent =
      (mantissa * 2 ^ 53 / divisor, exponent - divisorExponent - 53,
        accuracyOfFraction (mantissa * 2 ^ 53 % divisor) divisor) := by
  have log : mantissa.log2 = 52 := (Nat.log2_eq_iff (by omega)).mpr ⟨lower, upper⟩
  have divisorLog : divisor.log2 = 52 :=
    (Nat.log2_eq_iff (by omega)).mpr ⟨divisorLower, divisorUpper⟩
  have target : min (exponent - divisorExponent) (Format.binary64.targetExponent
      (totalExponent mantissa exponent - totalExponent divisor divisorExponent)) =
        exponent - divisorExponent - 53 := by
    simp only [totalExponent, log, divisorLog, Format.targetExponent, Format.minExponent,
      Format.mantissaBits]
    omega
  have shift : (exponent - divisorExponent - (exponent - divisorExponent - 53)).toNat = 53 := by
    omega
  simp only [divCore, target, shift, Nat.shiftLeft_eq]

/-- The quotient of two positive numbers is positive. -/
theorem zero_lt_naturalDouble_div {number divisor : Nat} (positive : 0 < number)
    (bounded : number < 2 ^ 53) (divisorPositive : 0 < divisor)
    (divisorBounded : divisor < 2 ^ 53) :
    0 < naturalDouble number positive / naturalDouble divisor divisorPositive := by
  obtain ⟨lower, upper⟩ := significand_bounds positive bounded
  obtain ⟨divisorLower, divisorUpper⟩ := significand_bounds divisorPositive divisorBounded
  have exponentLe : naturalExponent number ≤ 52 := Nat.sub_le _ _
  have divisorExponentLe : naturalExponent divisor ≤ 52 := Nat.sub_le _ _
  generalize mantissaEq : number * 2 ^ naturalExponent number = mantissa at lower upper
  generalize scaledEq : divisor * 2 ^ naturalExponent divisor = scaled at divisorLower divisorUpper
  generalize exponentEq :
    -(naturalExponent number : Int) - -(naturalExponent divisor : Int) = exponent
  have quotientLower : 2 ^ 52 ≤ mantissa * 2 ^ 53 / scaled := by
    rw [Nat.le_div_iff_mul_le (by omega)]
    exact Nat.mul_le_mul lower (Nat.le_of_lt divisorUpper)
  have quotientLog : (mantissa * 2 ^ 53 / scaled).log2 < 106 := by
    refine (Nat.log2_lt (by omega)).mpr (Nat.lt_of_le_of_lt (Nat.div_le_self _ _) ?_)
    omega
  have least : -1074 ≤ exponent - 53 := by omega
  have greatest : exponent - 53 + (mantissa * 2 ^ 53 / scaled).log2 ≤ 1022 := by omega
  obtain ⟨rounded, shifted, roundedPositive, unpacked⟩ :=
    exists_unpack_pack_roundWithAccuracy .positive quotientLower least greatest
      (accuracyOfFraction (mantissa * 2 ^ 53 % scaled) scaled)
  rw [lt_iff_unpack]
  change UnpackedFloat.lt _ (unpack Format.binary64 (pack Format.binary64 (UnpackedFloat.div
    Format.binary64 (naturalDouble number positive).toModel.unpack
    (naturalDouble divisor divisorPositive).toModel.unpack))) = true
  rw [unpack_naturalDouble positive bounded, unpack_naturalDouble divisorPositive divisorBounded]
  have divided := divCore_full lower upper divisorLower divisorUpper
    (exponentEq ▸ (by omega : -1021 ≤ exponent))
  simp only [unpackedNatural, mantissaEq, scaledEq, UnpackedFloat.div, divided, exponentEq]
  change UnpackedFloat.lt _ (unpack _ (pack _ (roundWithAccuracy _ .positive _ _ _))) = true
  rw [unpacked]
  rfl

theorem zero_div_naturalDouble {divisor : Nat} (positive : 0 < divisor)
    (bounded : divisor < 2 ^ 53) : 0 / naturalDouble divisor positive = 0 := by
  change Float.ofModel (Float.Model.pack (UnpackedFloat.div Format.binary64
    (0 : Float).toModel.unpack (naturalDouble divisor positive).toModel.unpack)) = _
  rw [unpack_naturalDouble positive bounded]
  rfl

/-! ## Means -/

namespace Score

variable {outcomes : List Bool} (nonempty : outcomes ≠ []) (bounded : outcomes.length < 2 ^ 53)

include nonempty bounded

theorem average_ofBool_eq_perfect_iff :
    average (outcomes.map ofBool) = perfect ↔ ∀ outcome ∈ outcomes, outcome = true := by
  have within : Within unitsPerOne (average (outcomes.map ofBool)) :=
    within_average (List.forall_mem_map.mpr fun outcome _ => within_ofBool outcome)
      (by rwa [List.length_map])
  rw [← clamp_average_ofBool_eq_perfect_iff nonempty bounded, clamp_of_within within]

theorem zero_lt_average_ofBool_iff :
    0 < average (outcomes.map ofBool) ↔ ∃ outcome ∈ outcomes, outcome = true := by
  have lengthPositive : 0 < outcomes.length := List.length_pos_iff.mpr nonempty
  have countLe : outcomes.count true ≤ outcomes.length := List.count_le_length
  rw [exists_eq_right, ← List.count_pos_iff, average_ofBool nonempty, counted_of_le (by omega),
    ofNat_eq_naturalDouble lengthPositive bounded]
  rcases Nat.eq_zero_or_pos (outcomes.count true) with none | some
  · have zero : Float.ofNat 0 = 0 := by decide
    rw [none, zero, zero_div_naturalDouble lengthPositive bounded]
    decide
  · rw [ofNat_eq_naturalDouble some (by omega)]
    exact iff_of_true (zero_lt_naturalDouble_div _ (by omega) _ bounded) some

end Score

/-! ## Operators -/

namespace Score

theorem min_ofBool (first second : Bool) :
    min (ofBool first) (ofBool second) = ofBool (first && second) := by
  cases first <;> cases second <;> decide

/-- The worst of all-or-nothing scores is a full match if all of them are. -/
theorem foldl_min_ofBool (start : Bool) (outcomes : List Bool) :
    (outcomes.map ofBool).foldl min (ofBool start) = ofBool (start && outcomes.all id) := by
  induction outcomes generalizing start with
  | nil => simp
  | cons outcome rest inductionHypothesis =>
      rw [List.map_cons, List.foldl_cons, min_ofBool, inductionHypothesis, List.all_cons, id,
        Bool.and_assoc]

end Score

namespace Operator

open Score

theorem aggregate_or_ofBool (outcomes : List Bool) :
    or.aggregate (outcomes.map ofBool) = ofBool (outcomes.any id) := by
  rw [aggregate]
  split
  next none =>
    obtain rfl := List.map_eq_nil_iff.mp (List.isEmpty_iff.mp none)
    rfl
  next => exact (foldl_max_ofBool false outcomes).trans (by rw [Bool.false_or])

theorem aggregate_or_singleton_ofBool (matched : Bool) :
    or.aggregate [ofBool matched] = ofBool matched := by
  simpa using aggregate_or_ofBool [matched]

theorem aggregate_and_ofBool {outcomes : List Bool} (nonempty : outcomes ≠ []) :
    and.aggregate (outcomes.map ofBool) = ofBool (outcomes.all id) := by
  rw [aggregate, if_neg (by simpa using nonempty)]
  exact (foldl_min_ofBool true outcomes).trans (by rw [Bool.true_and])

/-- No scores have a mean as well: that of no match. -/
theorem aggregate_average (scores : List Score) :
    average.aggregate scores = Score.average scores := by
  cases scores with
  | nil => rfl
  | cons score rest => rfl

/-- The order of all-or-nothing scores is nothing to an operator. -/
theorem aggregate_ofBool_of_perm {outcomes others : List Bool} (perm : outcomes.Perm others)
    (operator : Operator) :
    operator.aggregate (outcomes.map ofBool) = operator.aggregate (others.map ofBool) := by
  by_cases nonempty : outcomes = []
  · subst nonempty
    rw [perm.nil_eq]
  · have othersNonempty : others ≠ [] := fun none =>
      nonempty (List.perm_nil.mp (none ▸ perm))
    cases operator with
    | or => rw [aggregate_or_ofBool, aggregate_or_ofBool, perm.any_eq]
    | and =>
        rw [aggregate_and_ofBool nonempty, aggregate_and_ofBool othersNonempty, perm.all_eq]
    | average =>
        rw [aggregate_average, aggregate_average, average_ofBool nonempty,
          average_ofBool othersNonempty, perm.count_eq, perm.length_eq]

end Operator

end Understudy
