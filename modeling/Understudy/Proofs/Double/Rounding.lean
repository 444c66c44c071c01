import Mathlib

/-!
# Rounding and packing of doubles

A double is followed in its unpacked form, a significand and a power of two.  Rounding shifts the
significand to the right and takes it up to the next number at most once; it gives no NaN, and it
leaves 53 bits of a significand that has as many.  Packing keeps such a double as it is and makes no
NaN of a number.
-/

namespace Understudy

open Float.Model Float.Model.UnpackedFloat

/-! ## Shifts -/

theorem log2_mul_two_pow {number : Nat} (positive : 0 < number) (power : Nat) :
    (number * 2 ^ power).log2 = number.log2 + power := by
  have lower : 2 ^ number.log2 ≤ number := Nat.log2_self_le (Nat.ne_of_gt positive)
  have upper : number < 2 ^ (number.log2 + 1) := Nat.lt_log2_self
  rw [Nat.log2_eq_iff (Nat.ne_of_gt (Nat.mul_pos positive (Nat.two_pow_pos _)))]
  constructor
  · rw [Nat.pow_add]
    exact Nat.mul_le_mul_right _ lower
  · rw [Nat.add_right_comm, Nat.pow_add]
    exact Nat.mul_lt_mul_of_pos_right upper (Nat.two_pow_pos _)

theorem shiftRight_exact (mantissa shift : Nat) :
    ExtendedMantissa.ofMantissaAndAccuracy (mantissa * 2 ^ shift) .exact >>> shift =
      ExtendedMantissa.ofMantissaAndAccuracy mantissa .exact := by
  change shift.repeat ExtendedMantissa.shiftRightOne _ = _
  induction shift generalizing mantissa with
  | zero => simp [Nat.repeat]
  | succ shift inductionHypothesis =>
      rw [Nat.repeat, Nat.pow_succ', ← Nat.mul_assoc, inductionHypothesis]
      simp [ExtendedMantissa.shiftRightOne, ExtendedMantissa.ofMantissaAndAccuracy]

theorem mantissa_shiftRight (extended : ExtendedMantissa) (shift : Nat) :
    (extended >>> shift).mantissa = extended.mantissa / 2 ^ shift := by
  change (shift.repeat ExtendedMantissa.shiftRightOne extended).mantissa = _
  induction shift with
  | zero => rw [Nat.pow_zero, Nat.div_one, Nat.repeat]
  | succ shift inductionHypothesis =>
      rw [Nat.repeat, Nat.pow_succ, ← Nat.div_div_eq_div_mul, ← inductionHypothesis]
      rfl

theorem mantissa_ofMantissaAndAccuracy (mantissa : Nat) (accuracy : Accuracy) :
    (ExtendedMantissa.ofMantissaAndAccuracy mantissa accuracy).mantissa = mantissa := by
  rcases accuracy with _ | (_ | _ | _) <;> rfl

/-- Rounding adds at most one. -/
theorem roundedMantissa_bounds (extended : ExtendedMantissa) :
    extended.mantissa ≤ extended.roundedMantissa ∧
      extended.roundedMantissa ≤ extended.mantissa + 1 := by
  unfold ExtendedMantissa.roundedMantissa
  generalize extended.mantissa = mantissa
  rcases extended.accuracy with _ | (_ | _ | _)
  · exact ⟨Nat.le_refl _, Nat.le_succ _⟩
  · exact ⟨Nat.le_refl _, Nat.le_succ _⟩
  · change mantissa ≤ mantissa + mantissa % 2 ∧ mantissa + mantissa % 2 ≤ mantissa + 1
    omega
  · exact ⟨Nat.le_succ _, Nat.le_refl _⟩

/-! ## Rounding -/

theorem isNaN_roundWithAccuracy (spec : Format) (sign : Sign) (mantissa : Nat) (exponent : Int)
    (accuracy : Accuracy) :
    (roundWithAccuracy spec sign mantissa exponent accuracy).isNaN = false := by
  unfold roundWithAccuracy
  dsimp only
  split <;> rfl

theorem isNaN_normalize (spec : Format) (mantissa exponent : Int) (zeroSign : Sign) :
    (UnpackedFloat.normalize spec mantissa exponent zeroSign).isNaN = false := by
  unfold UnpackedFloat.normalize
  split
  · exact isNaN_roundWithAccuracy ..
  · rfl
  · exact isNaN_roundWithAccuracy ..

/-- A significand of 53 bits or more is shifted to 53 bits. -/
theorem shiftToTargetExponent_full {mantissa : Nat} (lower : 2 ^ 52 ≤ mantissa) {exponent : Int}
    (least : -1074 ≤ exponent) (accuracy : Accuracy) :
    (shiftToTargetExponent Format.binary64 mantissa exponent accuracy).1.mantissa =
        mantissa / 2 ^ (mantissa.log2 - 52) ∧
      (shiftToTargetExponent Format.binary64 mantissa exponent accuracy).2 =
        exponent + (mantissa.log2 - 52 : Nat) := by
  have log : 52 ≤ mantissa.log2 := (Nat.le_log2 (by omega)).mpr lower
  have target : (Format.binary64.targetExponent (totalExponent mantissa exponent) -
      exponent).toNat = mantissa.log2 - 52 := by
    simp only [Format.targetExponent, totalExponent, Format.minExponent, Format.mantissaBits]
    omega
  simp only [shiftToTargetExponent, shiftToExponent, target, mantissa_shiftRight,
    mantissa_ofMantissaAndAccuracy, and_self]

theorem div_two_pow_bounds {mantissa : Nat} (lower : 2 ^ 52 ≤ mantissa) :
    2 ^ 52 ≤ mantissa / 2 ^ (mantissa.log2 - 52) ∧
      mantissa / 2 ^ (mantissa.log2 - 52) < 2 ^ 53 := by
  have nonzero : mantissa ≠ 0 := by omega
  have log : 52 ≤ mantissa.log2 := (Nat.le_log2 nonzero).mpr lower
  constructor
  · rw [Nat.le_div_iff_mul_le (Nat.two_pow_pos _), ← Nat.pow_add, Nat.add_sub_cancel' log]
    exact Nat.log2_self_le nonzero
  · rw [Nat.div_lt_iff_lt_mul (Nat.two_pow_pos _), ← Nat.pow_add]
    have exponents : 53 + (mantissa.log2 - 52) = mantissa.log2 + 1 := by omega
    rw [exponents]
    exact Nat.lt_log2_self

theorem roundWithAccuracy_eq_finite {spec : Format} {sign : Sign} {mantissa : Nat}
    {exponent : Int} {accuracy : Accuracy} {first second : ExtendedMantissa × Int}
    (firstEq : shiftToTargetExponent spec mantissa exponent accuracy = first)
    (secondEq : shiftToTargetExponent spec first.1.roundedMantissa first.2 .exact = second)
    (positive : 0 < second.1.mantissa) :
    roundWithAccuracy spec sign mantissa exponent accuracy =
      .finite sign second.1.mantissa second.2 positive := by
  subst firstEq secondEq
  exact dif_neg (Nat.ne_of_gt positive)

/-- Rounding a significand of 53 bits or more leaves one of 53 bits. -/
theorem exists_roundWithAccuracy_eq_finite (sign : Sign) {mantissa : Nat}
    (lower : 2 ^ 52 ≤ mantissa) {exponent : Int} (least : -1074 ≤ exponent)
    (accuracy : Accuracy) :
    ∃ rounded shifted positive,
      roundWithAccuracy Format.binary64 sign mantissa exponent accuracy =
          .finite sign rounded shifted positive ∧
        2 ^ 52 ≤ rounded ∧ rounded < 2 ^ 53 ∧ exponent ≤ shifted ∧
        shifted ≤ exponent + mantissa.log2 - 51 := by
  have log : 52 ≤ mantissa.log2 := (Nat.le_log2 (by omega)).mpr lower
  obtain ⟨firstMantissa, firstExponent⟩ := shiftToTargetExponent_full lower least accuracy
  obtain ⟨firstLower, firstUpper⟩ := div_two_pow_bounds lower
  rw [← firstMantissa] at firstLower firstUpper
  generalize firstEq : shiftToTargetExponent Format.binary64 mantissa exponent accuracy = first
    at firstMantissa firstExponent firstLower firstUpper
  obtain ⟨up, carry⟩ := roundedMantissa_bounds first.1
  have roundedLower : 2 ^ 52 ≤ first.1.roundedMantissa := by omega
  have firstLeast : -1074 ≤ first.2 := by omega
  obtain ⟨secondMantissa, secondExponent⟩ :=
    shiftToTargetExponent_full roundedLower firstLeast .exact
  obtain ⟨secondLower, secondUpper⟩ := div_two_pow_bounds roundedLower
  rw [← secondMantissa] at secondLower secondUpper
  -- the carry of the rounding can make the significand one bit longer
  have carryLog : first.1.roundedMantissa.log2 < 54 := (Nat.log2_lt (by omega)).mpr (by omega)
  generalize secondEq : shiftToTargetExponent Format.binary64 first.1.roundedMantissa first.2
    .exact = second at secondMantissa secondExponent secondLower secondUpper
  have positive : 0 < second.1.mantissa := by omega
  exact ⟨_, _, positive, roundWithAccuracy_eq_finite firstEq secondEq positive, secondLower,
    secondUpper, by omega, by omega⟩

/-! ## Unpacking -/

theorem toNat_unpackExponent (bits : BitVec Format.binary64.numBits) :
    (unpackExponent bits).toNat = bits.toNat / 2 ^ 52 % 2 ^ 11 := by
  rw [unpackExponent_def, BitVec.extractLsb'_toNat, Nat.shiftRight_eq_div_pow]

theorem toNat_significand (mantissa : BitVec 52) :
    (1#1 ++ mantissa).toNat = 2 ^ 52 + mantissa.toNat := by
  rw [BitVec.toNat_append, ← Nat.shiftLeft_add_eq_or_of_lt mantissa.isLt, Nat.shiftLeft_eq]
  rfl

/-- A double that unpacks to a significand and an exponent has at most 53 bits, and all of them
unless its exponent is that of the least double, which none is below. -/
theorem unpack_bounds {bits : BitVec Format.binary64.numBits} {sign : Sign} {mantissa : Nat}
    {exponent : Int} {positive : 0 < mantissa}
    (unpacked : UnpackedFloat.unpack Format.binary64 bits =
      .finite sign mantissa exponent positive) :
    mantissa < 2 ^ 53 ∧ -1074 ≤ exponent ∧ (2 ^ 52 ≤ mantissa ∨ exponent = -1074) := by
  have bias : (Format.binary64.exponentBias : Int) +
      (Format.binary64.mantissaBitsWithoutImplicit : Int) = 1075 := by decide
  have mantissaBound : (unpackMantissa bits).toNat < 2 ^ 52 := (unpackMantissa bits).isLt
  unfold UnpackedFloat.unpack at unpacked
  simp only [bias] at unpacked
  split at unpacked
  · split at unpacked <;> cases unpacked
  · next notGreatest =>
      split at unpacked
      · next zero =>
          have exponentZero : (unpackExponent bits).toNat = 0 := congrArg BitVec.toNat zero
          split at unpacked
          · cases unpacked
          · injection unpacked with _ mantissaEq exponentEq
            omega
      · next nonzero =>
          have exponentPos : 0 < (unpackExponent bits).toNat :=
            Nat.pos_of_ne_zero fun zero => nonzero (BitVec.eq_of_toNat_eq zero)
          injection unpacked with _ mantissaEq exponentEq
          rw [toNat_significand] at mantissaEq
          omega

/-! ## Packing -/

/-- A word is a NaN only with the greatest exponent and a mantissa that is not zero. -/
theorem isNaN_unpack_packComponents (sign : Sign) {exponent : BitVec 11} {mantissa : BitVec 52}
    (number : exponent = -1#11 → mantissa = 0#52) :
    (unpack Format.binary64 (packComponents Format.binary64 sign exponent mantissa)).isNaN =
      false := by
  simp only [UnpackedFloat.unpack, unpackExponent_packComponents, unpackMantissa_packComponents]
  split
  · next greatest =>
      rw [if_pos (number greatest)]
      rfl
  · split
    · split <;> rfl
    · rfl

theorem isNaN_unpack_pack {value : UnpackedFloat} (number : value.isNaN = false) :
    (unpack Format.binary64 (pack Format.binary64 value)).isNaN = false := by
  cases value with
  | notANumber => cases number
  | infinity sign => exact isNaN_unpack_packComponents sign fun _ => rfl
  | zero sign => exact isNaN_unpack_packComponents sign fun _ => rfl
  | finite sign mantissa exponent positive =>
      simp only [UnpackedFloat.pack]
      generalize (exponent + (Format.binary64.exponentBias : Int) +
        (Format.binary64.mantissaBitsWithoutImplicit : Int)).toNat = biased
      split
      · exact isNaN_unpack_packComponents sign fun _ => rfl
      · next inRange =>
          split
          · refine isNaN_unpack_packComponents sign fun greatest => absurd ?_ inRange
            have last : biased % 2 ^ 11 = 2047 := congrArg BitVec.toNat greatest
            change 2 ^ 11 ≤ biased + 1
            omega
          · exact isNaN_unpack_packComponents sign nofun

/-- Packing loses nothing of a double with a full significand in the range of normal exponents. -/
theorem unpack_pack_normal {mantissa : Nat} (positive : 0 < mantissa) (lower : 2 ^ 52 ≤ mantissa)
    (upper : mantissa < 2 ^ 53) {exponent : Int} (least : -1074 ≤ exponent)
    (greatest : exponent ≤ 971) (sign : Sign) :
    unpack Format.binary64 (pack Format.binary64 (.finite sign mantissa exponent positive)) =
      .finite sign mantissa exponent positive := by
  have log : mantissa.log2 = 52 := (Nat.log2_eq_iff (Nat.ne_of_gt positive)).mpr ⟨lower, upper⟩
  obtain ⟨biased, biasedEq⟩ : ∃ biased : Nat, exponent + 1075 = biased :=
    ⟨(exponent + 1075).toNat, by omega⟩
  have biasedBounds : 1 ≤ biased ∧ biased ≤ 2046 := by omega
  have toNat :
      (exponent + (Format.binary64.exponentBias : Int) + ((52 : Nat) : Int)).toNat = biased := by
    simp only [Format.exponentBias]
    omega
  have packed : pack Format.binary64 (.finite sign mantissa exponent positive) =
      packComponents Format.binary64 sign (BitVec.ofNat 11 biased) (BitVec.ofNat 52 mantissa) := by
    simp only [UnpackedFloat.pack, toNat, log]
    rw [if_neg (by omega), if_pos (by decide)]
  have notOnes : BitVec.ofNat 11 biased ≠ -1#11 := by
    intro equal
    have := congrArg BitVec.toNat equal
    simp at this
    omega
  have notZero : BitVec.ofNat 11 biased ≠ 0#11 := by
    intro equal
    have := congrArg BitVec.toNat equal
    simp at this
    omega
  have value : (1#1 ++ BitVec.ofNat 52 mantissa).toNat = mantissa := by
    rw [toNat_significand, BitVec.toNat_ofNat]
    omega
  rw [packed]
  simp only [UnpackedFloat.unpack, unpackExponent_packComponents, unpackMantissa_packComponents,
    unpackSign_packComponents, if_neg notOnes, if_neg notZero, value]
  congr 1
  · cases sign <;> rfl
  · simp [Format.exponentBias]
    omega

/-- A rounded double that is not too large survives packing as it is. -/
theorem exists_unpack_pack_roundWithAccuracy (sign : Sign) {mantissa : Nat}
    (lower : 2 ^ 52 ≤ mantissa) {exponent : Int} (least : -1074 ≤ exponent)
    (greatest : exponent + mantissa.log2 ≤ 1022) (accuracy : Accuracy) :
    ∃ rounded shifted positive,
      unpack Format.binary64 (pack Format.binary64
          (roundWithAccuracy Format.binary64 sign mantissa exponent accuracy)) =
        .finite sign rounded shifted positive := by
  obtain ⟨rounded, shifted, positive, equal, roundedLower, roundedUpper, above, below⟩ :=
    exists_roundWithAccuracy_eq_finite sign lower least accuracy
  refine ⟨rounded, shifted, positive, ?_⟩
  rw [equal]
  exact unpack_pack_normal positive roundedLower roundedUpper (by omega) (by omega) sign

end Understudy
