import Understudy.Decimal.Scaled
import Understudy.Proofs.Double.Rounding

/-!
# Scaled significands are numbers

The arithmetic that reads a decimal never gives a NaN.  Rounding and packing give none, and a
product or quotient gives none when it starts from a number and the other side is finite and not
zero.  All powers of ten are: those beyond the exact ones are rounded products, and rounding leaves
a significand of 53 bits.
-/

namespace Understudy

open Float.Model Float.Model.UnpackedFloat

/-! ## Arithmetic -/

theorem isNaN_neg {value : Float} (number : value.isNaN = false) : (-value).isNaN = false := by
  replace number : value.toModel.unpack.isNaN = false := number
  suffices negated : value.toModel.unpack.neg.isNaN = false from isNaN_unpack_pack negated
  cases unpacked : value.toModel.unpack with
  | notANumber => rw [unpacked] at number; cases number
  | infinity sign => rfl
  | zero sign => rfl
  | finite sign mantissa exponent positive => rfl

theorem isNaN_toFloat (word : UInt64) : word.toFloat.isNaN = false :=
  isNaN_unpack_pack (isNaN_normalize _ _ _ _)

theorem isNaN_mul {value factor : Float} (number : value.isNaN = false)
    {sign : Sign} {mantissa : Nat} {exponent : Int} {positive : 0 < mantissa}
    (factorEq : factor.toModel.unpack = .finite sign mantissa exponent positive) :
    (value * factor).isNaN = false := by
  replace number : value.toModel.unpack.isNaN = false := number
  suffices product : (UnpackedFloat.mul Format.binary64 value.toModel.unpack
      factor.toModel.unpack).isNaN = false from isNaN_unpack_pack product
  rw [factorEq]
  cases unpacked : value.toModel.unpack with
  | notANumber => rw [unpacked] at number; cases number
  | infinity valueSign => rfl
  | zero valueSign => rfl
  | finite valueSign valueMantissa valueExponent valuePositive =>
      exact isNaN_roundWithAccuracy ..

theorem isNaN_div {value divisor : Float} (number : value.isNaN = false)
    {sign : Sign} {mantissa : Nat} {exponent : Int} {positive : 0 < mantissa}
    (divisorEq : divisor.toModel.unpack = .finite sign mantissa exponent positive) :
    (value / divisor).isNaN = false := by
  replace number : value.toModel.unpack.isNaN = false := number
  suffices quotient : (UnpackedFloat.div Format.binary64 value.toModel.unpack
      divisor.toModel.unpack).isNaN = false from isNaN_unpack_pack quotient
  rw [divisorEq]
  cases unpacked : value.toModel.unpack with
  | notANumber => rw [unpacked] at number; cases number
  | infinity valueSign => rfl
  | zero valueSign => rfl
  | finite valueSign valueMantissa valueExponent valuePositive =>
      exact isNaN_roundWithAccuracy ..

/-! ## Powers of ten -/

/-- A finite double that is not zero unpacks to a significand and an exponent. -/
theorem exists_unpack_eq_finite {value : Float} (finite : value.isFinite = true)
    (nonzero : (value == 0) = false) :
    ∃ sign mantissa exponent positive,
      value.toModel.unpack = .finite sign mantissa exponent positive := by
  replace finite : value.toModel.unpack.isFinite = true := finite
  replace nonzero : UnpackedFloat.beq value.toModel.unpack (0 : Float).toModel.unpack = false :=
    nonzero
  have zero : (0 : Float).toModel.unpack = .zero .positive := rfl
  rw [zero] at nonzero
  cases unpacked : value.toModel.unpack with
  | notANumber => rw [unpacked] at finite; cases finite
  | infinity sign => rw [unpacked] at finite; cases finite
  | zero sign => rw [unpacked] at nonzero; cases nonzero
  | finite sign mantissa exponent positive => exact ⟨sign, mantissa, exponent, positive, rfl⟩

namespace Decimal

/-- A power of ten beyond the exact ones is the rounded product of two finite doubles. -/
theorem unpack_powerOfTen {exponent : Nat} (inexact : 22 < exponent) (bounded : exponent < 308) :
    (powerOfTen exponent).toModel.unpack =
      unpack Format.binary64 (pack Format.binary64 (roundWithAccuracy Format.binary64
        (.positive * .positive) (1 <<< 53 * 10 ^ exponent) (-53 + 0) .exact)) := by
  have slow : ¬(1 < 2 ^ 53 ∧ exponent ≤ 22) := fun fast => absurd fast.2 (Nat.not_le.mpr inexact)
  have product : UnpackedFloat.ofScientific Format.binary64 1 (exponent : Int) =
      roundWithAccuracy Format.binary64 (.positive * .positive) (1 <<< 53 * 10 ^ exponent)
        (-53 + 0) .exact := by
    have exponentBits : Format.binary64.exponentBits = 11 := rfl
    rw [UnpackedFloat.ofScientific, dif_neg Nat.one_ne_zero, exponentBits, if_neg (by omega),
      if_neg (by omega), if_pos (Int.natCast_nonneg exponent)]
    rfl
  rw [powerOfTen, Float.ofScientific, dif_neg slow, ← product]
  rfl

/-- Every power of ten that is used is finite and not zero. -/
theorem exists_unpack_powerOfTen {exponent : Nat} (bounded : exponent ≤ greatestPower) :
    ∃ sign mantissa power positive,
      (powerOfTen exponent).toModel.unpack = .finite sign mantissa power positive := by
  have evaluated : ∀ exponent ∈ greatestPower :: List.range 23,
      (powerOfTen exponent).isFinite = true ∧ (powerOfTen exponent == 0) = false := by
    decide +kernel
  by_cases small : exponent ∈ greatestPower :: List.range 23
  · obtain ⟨finite, nonzero⟩ := evaluated exponent small
    exact exists_unpack_eq_finite finite nonzero
  · rw [List.mem_cons, List.mem_range, not_or] at small
    have inexact : 22 < exponent := by omega
    have less : exponent < 308 := Nat.lt_of_le_of_ne bounded small.1
    have significand : 2 ^ 52 ≤ 1 <<< 53 * 10 ^ exponent := by
      have positive : 0 < 10 ^ exponent := Nat.pow_pos (by decide)
      omega
    have log : (1 <<< 53 * 10 ^ exponent).log2 < 1076 := by
      refine (Nat.log2_lt (Nat.ne_of_gt (by omega))).mpr ?_
      calc
        1 <<< 53 * 10 ^ exponent ≤ 1 <<< 53 * 10 ^ 307 :=
          Nat.mul_le_mul_left _ (Nat.pow_le_pow_right (by decide) (Nat.le_of_lt_succ less))
        _ < 2 ^ 1076 := by decide +kernel
    rw [unpack_powerOfTen inexact less]
    have least : (-1074 : Int) ≤ -53 + 0 := by decide
    exact ⟨_, exists_unpack_pack_roundWithAccuracy _ significand least (by omega) .exact⟩

theorem isNaN_of_scaleBy_eq_some {steps : Nat} {value scaled : Float} {exponent : Int}
    (number : value.isNaN = false) (scaledEq : scaleBy steps value exponent = some scaled) :
    scaled.isNaN = false := by
  fun_induction scaleBy steps value exponent with
  | case1 => cases scaledEq
  | case2 _ _ _ near =>
      obtain rfl := Option.some.inj scaledEq
      obtain ⟨_, _, _, _, unpacked⟩ := exists_unpack_powerOfTen near
      exact isNaN_mul number unpacked
  | case3 _ _ _ near =>
      obtain rfl := Option.some.inj scaledEq
      obtain ⟨_, _, _, _, unpacked⟩ := exists_unpack_powerOfTen near
      exact isNaN_div number unpacked
  | case4 =>
      obtain rfl := Option.some.inj scaledEq
      exact number
  | case5 => cases scaledEq
  | case6 =>
      obtain rfl := Option.some.inj scaledEq
      rfl
  | case7 _ _ _ _ _ _ inductionHypothesis =>
      obtain ⟨_, _, _, _, unpacked⟩ := exists_unpack_powerOfTen (Nat.le_refl greatestPower)
      exact inductionHypothesis (isNaN_div number unpacked) scaledEq

theorem isNaN_of_scaled?_eq_some {significand : Nat} {exponent : Int} {value : Float}
    (scaled : scaled? significand exponent = some value) : value.isNaN = false :=
  isNaN_of_scaleBy_eq_some (isNaN_toFloat _) scaled

end Decimal

end Understudy
