import Understudy.Proofs.Double.Rounding
import Understudy.Score

/-!
# Counting in doubles

Sums and means of full matches.  A double counts exactly up to `2 ^ 53`, so as long as fewer
scores are added, the sum of `n` full matches is the double of `n` and their mean is a full match.
The doubles are followed in their unpacked form, a significand of 53 bits and a power of two.
-/

namespace Understudy

open Float.Model Float.Model.UnpackedFloat

/-! ## Natural numbers as unpacked doubles -/

/-- The power of two that fills the significand of a natural number up to 53 bits. -/
def naturalExponent (number : Nat) : Nat := 52 - number.log2

/-- A positive natural number as an unpacked double. -/
def unpackedNatural (number : Nat) (positive : 0 < number) : UnpackedFloat :=
  .finite .positive (number * 2 ^ naturalExponent number) (-(naturalExponent number : Int))
    (Nat.mul_pos positive (Nat.two_pow_pos _))

/-! ## Rounding natural numbers -/

theorem targetExponent_natural {number : Nat} (positive : 0 < number)
    (bounded : number < 2 ^ 53) (power : Nat) :
    Format.binary64.targetExponent
        (totalExponent (number * 2 ^ power) (-(power : Int))) =
      -(naturalExponent number : Int) := by
  have logBound : number.log2 < 53 := (Nat.log2_lt (Nat.ne_of_gt positive)).mpr bounded
  simp only [Format.targetExponent, totalExponent, log2_mul_two_pow positive, naturalExponent,
    Format.minExponent, Format.mantissaBits]
  omega

theorem shiftToTargetExponent_natural {number : Nat} (positive : 0 < number)
    (bounded : number < 2 ^ 53) (extra : Nat) :
    shiftToTargetExponent Format.binary64 (number * 2 ^ (naturalExponent number + extra))
        (-((naturalExponent number + extra : Nat) : Int)) .exact =
      (ExtendedMantissa.ofMantissaAndAccuracy (number * 2 ^ naturalExponent number) .exact,
        -(naturalExponent number : Int)) := by
  simp only [shiftToTargetExponent, targetExponent_natural positive bounded, shiftToExponent]
  have shift : (-(naturalExponent number : Int) -
      -((naturalExponent number + extra : Nat) : Int)).toNat = extra := by omega
  rw [shift, Nat.pow_add, ← Nat.mul_assoc, shiftRight_exact]
  congr 1
  omega

/-- Rounding leaves a natural number as it is, with any number of zeros behind its significand. -/
theorem roundWithAccuracy_natural {number : Nat} (positive : 0 < number)
    (bounded : number < 2 ^ 53) (extra : Nat) :
    roundWithAccuracy Format.binary64 .positive
        (number * 2 ^ (naturalExponent number + extra))
        (-((naturalExponent number + extra : Nat) : Int)) .exact =
      unpackedNatural number positive := by
  have second := shiftToTargetExponent_natural positive bounded 0
  rw [Nat.add_zero] at second
  have nonzero : number * 2 ^ naturalExponent number ≠ 0 :=
    Nat.ne_of_gt (Nat.mul_pos positive (Nat.two_pow_pos _))
  unfold roundWithAccuracy
  simp only [shiftToTargetExponent_natural positive bounded]
  change (if h : _ then _ else _) = _
  simp only [ExtendedMantissa.roundedMantissa, ExtendedMantissa.accuracy,
    ExtendedMantissa.ofMantissaAndAccuracy, Accuracy.roundToNearestEven, second]
  rw [dif_neg nonzero]
  rfl

theorem round_natural {number : Nat} (positive : 0 < number) (bounded : number < 2 ^ 53)
    (power : Nat) :
    UnpackedFloat.round Format.binary64 .positive (number * 2 ^ power) (-(power : Int)) =
      unpackedNatural number positive := by
  simp only [UnpackedFloat.round, targetExponent_natural positive bounded, decreaseExponent,
    Nat.shiftLeft_eq]
  rcases Nat.le_total power (naturalExponent number) with less | greater
  · have shift : (-(power : Int) - -(naturalExponent number : Int)).toNat =
        naturalExponent number - power := by omega
    rw [shift, Nat.mul_assoc, ← Nat.pow_add, Nat.add_sub_cancel' less]
    have exponent : -(power : Int) - ((naturalExponent number - power : Nat) : Int) =
        -((naturalExponent number + 0 : Nat) : Int) := by omega
    rw [exponent]
    exact roundWithAccuracy_natural positive bounded 0
  · obtain ⟨extra, rfl⟩ := Nat.exists_eq_add_of_le greater
    have shift : (-((naturalExponent number + extra : Nat) : Int) -
        -(naturalExponent number : Int)).toNat = 0 := by omega
    rw [shift, Nat.pow_zero, Nat.mul_one, Int.natCast_zero, Int.sub_zero]
    exact roundWithAccuracy_natural positive bounded extra

theorem significand_bounds {number : Nat} (positive : 0 < number) (bounded : number < 2 ^ 53) :
    2 ^ 52 ≤ number * 2 ^ naturalExponent number ∧
      number * 2 ^ naturalExponent number < 2 ^ 53 := by
  have logBound : number.log2 < 53 := (Nat.log2_lt (Nat.ne_of_gt positive)).mpr bounded
  have log : (number * 2 ^ naturalExponent number).log2 = 52 := by
    rw [log2_mul_two_pow positive, naturalExponent]
    omega
  exact (Nat.log2_eq_iff (Nat.ne_of_gt (Nat.mul_pos positive (Nat.two_pow_pos _)))).mp log

/-! ## Packing natural numbers -/

/-- A positive natural number as a double. -/
def naturalDouble (number : Nat) (positive : 0 < number) : Float :=
  .ofModel (Float.Model.pack (unpackedNatural number positive))

theorem unpack_naturalDouble {number : Nat} (positive : 0 < number) (bounded : number < 2 ^ 53) :
    (naturalDouble number positive).toModel.unpack = unpackedNatural number positive := by
  obtain ⟨lower, upper⟩ := significand_bounds positive bounded
  exact unpack_pack_normal _ lower upper (by simp only [naturalExponent]; omega) (by omega) _

theorem naturalDouble_one : naturalDouble 1 Nat.one_pos = 1 := by
  decide

/-! ## Arithmetic of natural doubles -/

theorem toFloat_eq_naturalDouble {number : Nat} (positive : 0 < number)
    (bounded : number < 2 ^ 53) :
    number.toUInt64.toFloat = naturalDouble number positive := by
  have word : number.toUInt64.toNat = number := by
    simp
    omega
  have rounded := round_natural positive bounded 0
  simp only [Nat.pow_zero, Nat.mul_one, Int.natCast_zero, Int.neg_zero] at rounded
  have compared : compare (number : Int) 0 = .gt :=
    Int.compare_eq_gt.mpr (by omega)
  simp only [UInt64.toFloat, Float.Model.ofUInt64, UnpackedFloat.ofUInt64, word,
    UnpackedFloat.ofNat, UnpackedFloat.ofInt, UnpackedFloat.normalize, compared,
    Int.toNat_natCast, rounded, naturalDouble]

theorem naturalDouble_mul_one {number : Nat} (positive : 0 < number) (bounded : number < 2 ^ 53) :
    naturalDouble number positive * naturalDouble 1 Nat.one_pos =
      naturalDouble number positive := by
  change Float.ofModel (Float.Model.pack (UnpackedFloat.mul Format.binary64
    (naturalDouble number positive).toModel.unpack
    (naturalDouble 1 Nat.one_pos).toModel.unpack)) = _
  rw [unpack_naturalDouble positive bounded, unpack_naturalDouble Nat.one_pos (by decide)]
  simp only [unpackedNatural, UnpackedFloat.mul]
  have rounded := roundWithAccuracy_natural positive bounded 52
  have mantissa : number * 2 ^ naturalExponent number * (1 * 2 ^ naturalExponent 1) =
      number * 2 ^ (naturalExponent number + 52) := by
    rw [Nat.one_mul, Nat.mul_assoc, ← Nat.pow_add]
    rfl
  have exponent : -(naturalExponent number : Int) + -(naturalExponent 1 : Int) =
      -((naturalExponent number + 52 : Nat) : Int) := by
    have : naturalExponent 1 = 52 := by decide
    omega
  rw [mantissa, exponent]
  change Float.ofModel (Float.Model.pack (roundWithAccuracy Format.binary64 .positive _ _ _)) = _
  rw [rounded]
  rfl

theorem ofNat_eq_naturalDouble {number : Nat} (positive : 0 < number)
    (bounded : number < 2 ^ 53) :
    Float.ofNat number = naturalDouble number positive := by
  have inTable : 0 < Float.exactlyRepresentablePowersOfTen.size := by decide
  have power : Float.exactlyRepresentablePowersOfTen[0] = naturalDouble 1 Nat.one_pos := rfl
  have fast : number < 2 ^ 53 ∧ 0 ≤ 22 := ⟨bounded, by decide⟩
  simp only [Float.ofNat, OfScientific.ofScientific, Float.ofScientific]
  rw [dif_pos fast]
  simp only [Bool.false_eq_true, if_false, power, toFloat_eq_naturalDouble positive bounded]
  exact naturalDouble_mul_one positive bounded

theorem naturalDouble_add_one {number : Nat} (positive : 0 < number)
    (bounded : number + 1 < 2 ^ 53) :
    naturalDouble number positive + naturalDouble 1 Nat.one_pos =
      naturalDouble (number + 1) (Nat.succ_pos number) := by
  change Float.ofModel (Float.Model.pack (UnpackedFloat.add Format.binary64
    (naturalDouble number positive).toModel.unpack
    (naturalDouble 1 Nat.one_pos).toModel.unpack)) = _
  rw [unpack_naturalDouble positive (by omega), unpack_naturalDouble Nat.one_pos (by decide)]
  have one : naturalExponent 1 = 52 := by decide
  have least : naturalExponent number ≤ 52 := Nat.sub_le _ _
  have smaller : min (-(naturalExponent number : Int)) (-(52 : Nat) : Int) = -(52 : Nat) := by omega
  have shift : (-(naturalExponent number : Int) - -(52 : Nat)).toNat =
      52 - naturalExponent number := by omega
  have sum : number * 2 ^ naturalExponent number * 2 ^ (52 - naturalExponent number) +
      1 * 2 ^ 52 = (number + 1) * 2 ^ 52 := by
    rw [Nat.mul_assoc, ← Nat.pow_add, Nat.add_sub_cancel' least, Nat.add_mul]
  have compared : compare (((number + 1) * 2 ^ 52 : Nat) : Int) 0 = .gt :=
    Int.compare_eq_gt.mpr (by omega)
  simp only [unpackedNatural, UnpackedFloat.add, one, smaller, decreaseExponent, shift,
    Nat.shiftLeft_eq, Sign.apply, ← Int.natCast_add, Int.sub_self, Int.toNat_zero, Nat.pow_zero,
    Nat.mul_one, sum, UnpackedFloat.normalize, compared, Int.toNat_natCast,
    round_natural (Nat.succ_pos number) bounded 52, naturalDouble]

theorem naturalDouble_div_self {number : Nat} (positive : 0 < number) (bounded : number < 2 ^ 53) :
    naturalDouble number positive / naturalDouble number positive =
      naturalDouble 1 Nat.one_pos := by
  change Float.ofModel (Float.Model.pack (UnpackedFloat.div Format.binary64
    (naturalDouble number positive).toModel.unpack
    (naturalDouble number positive).toModel.unpack)) = _
  rw [unpack_naturalDouble positive bounded]
  have significandPos : 0 < number * 2 ^ naturalExponent number :=
    Nat.mul_pos positive (Nat.two_pow_pos _)
  have target : min (0 : Int) (Format.binary64.targetExponent 0) = -53 := by decide
  have rounded : roundWithAccuracy Format.binary64 (Sign.positive / Sign.positive) (2 ^ 53) (-53)
      .exact = unpackedNatural 1 Nat.one_pos :=
    roundWithAccuracy_natural Nat.one_pos (by decide) 1
  have shift : ((0 : Int) - -53).toNat = 53 := by decide
  simp only [unpackedNatural, UnpackedFloat.div, divCore, Int.sub_self, target, shift,
    Nat.shiftLeft_eq, Nat.mul_div_cancel_left _ significandPos, Nat.mul_mod_right,
    accuracyOfFraction, if_true]
  rw [rounded]
  rfl

/-! ## Sums and means of full matches -/

namespace Score

/-- The better of two all-or-nothing scores. -/
theorem max_ofBool (first second : Bool) :
    max (ofBool first) (ofBool second) = ofBool (first || second) := by
  cases first <;> cases second <;> decide

/-- The best of all-or-nothing scores is a full match if one of them is. -/
theorem foldl_max_ofBool (start : Bool) (outcomes : List Bool) :
    (outcomes.map ofBool).foldl max (ofBool start) = ofBool (start || outcomes.any id) := by
  induction outcomes generalizing start with
  | nil => simp
  | cons outcome rest inductionHypothesis =>
      rw [List.map_cons, List.foldl_cons, max_ofBool, inductionHypothesis, List.any_cons, id,
        Bool.or_assoc]

theorem total_append_singleton (scores : List Score) (score : Score) :
    total (scores ++ [score]) = total scores + score := by
  rw [total, total, List.foldl_append, List.foldl_cons, List.foldl_nil]

/-- The sum of full matches counts them. -/
theorem total_replicate_perfect {count : Nat} (positive : 0 < count) (bounded : count < 2 ^ 53) :
    total (List.replicate count perfect) = naturalDouble count positive := by
  induction count with
  | zero => exact absurd positive (Nat.lt_irrefl 0)
  | succ count inductionHypothesis =>
      rw [List.replicate_succ', total_append_singleton]
      -- the sum starts from the negative zero, so the first score is a case of its own
      rcases Nat.eq_zero_or_pos count with rfl | previous
      · have first : total [] + perfect = naturalDouble 1 Nat.one_pos := by decide
        exact first
      · rw [inductionHypothesis previous (by omega)]
        exact naturalDouble_add_one previous bounded

/-- The mean of full matches is a full match. -/
theorem average_replicate_perfect {count : Nat} (positive : 0 < count)
    (bounded : count < 2 ^ 53) : average (List.replicate count perfect) = perfect := by
  have nonempty : (List.replicate count perfect).isEmpty = false := by
    rw [List.isEmpty_replicate, decide_eq_false_iff_not]
    exact Nat.ne_of_gt positive
  rw [average, nonempty, if_neg Bool.false_ne_true, List.length_replicate,
    total_replicate_perfect positive bounded, ofNat_eq_naturalDouble positive bounded,
    naturalDouble_div_self positive bounded]
  exact naturalDouble_one

end Score

end Understudy
