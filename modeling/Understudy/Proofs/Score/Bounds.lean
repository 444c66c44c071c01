import Understudy.Proofs.Score.Counting

/-!
# Upper bounds of doubles

Sums and means of scores that are at most one.  Amounts are measured in the least positive double,
of which `2 ^ 1074` make one, so that a bound is a natural number and every double that is not
negative is a whole number of units.  Rounding does not cross a bound that is itself a double.  So
the sum of scores is at most their number, and a mean in which one score is zero stays below one.
-/

namespace Understudy

open Float.Model Float.Model.UnpackedFloat

/-- The units in which a significand with an exponent counts: least positive doubles. -/
def units (mantissa : Nat) (exponent : Int) : Nat :=
  mantissa * 2 ^ (exponent + 1074).toNat

/-- One counts this power of two of units.  It has a name so that the power is not evaluated. -/
@[irreducible]
def onePower : Nat := 1074

theorem onePower_eq : onePower = 1074 := by
  rw [onePower]

/-- The units in one. -/
def unitsPerOne : Nat := 2 ^ onePower

theorem unitsPerOne_pos : 0 < unitsPerOne :=
  Nat.two_pow_pos onePower

/-- The units of the greatest double below one. -/
def unitsBelowOne : Nat := (2 ^ 53 - 1) * 2 ^ (onePower - 53)

theorem unitsPerOne_eq : unitsPerOne = 2 ^ 53 * 2 ^ (onePower - 53) := by
  have powerEq := onePower_eq
  rw [unitsPerOne, ← Nat.pow_add]
  congr 1
  omega

theorem unitsBelowOne_lt : unitsBelowOne < unitsPerOne := by
  rw [unitsPerOne_eq, unitsBelowOne, Nat.mul_lt_mul_right (Nat.two_pow_pos _)]
  decide

/-- The double is a zero, or positive and of at most so many units. -/
def AtMost (limit : Nat) : UnpackedFloat → Prop
  | .zero _ => True
  | .finite .positive mantissa exponent _ => -1074 ≤ exponent ∧ units mantissa exponent ≤ limit
  | _ => False

theorem units_mono {mantissa greater : Nat} (le : mantissa ≤ greater) (exponent : Int) :
    units mantissa exponent ≤ units greater exponent :=
  Nat.mul_le_mul_right _ le

theorem units_one : units (2 ^ 52) (-52) = unitsPerOne := by
  have powerEq : 52 + ((-52 : Int) + 1074).toNat = onePower := by
    rw [onePower_eq]
    rfl
  rw [units, unitsPerOne, ← powerEq, Nat.pow_add]

theorem units_le_unitsPerOne {mantissa : Nat} {exponent : Int} (small : mantissa < 2 ^ 53)
    (le : exponent ≤ -53) : units mantissa exponent ≤ unitsPerOne := by
  rw [units, unitsPerOne_eq]
  apply Nat.mul_le_mul (Nat.le_of_lt small)
  apply Nat.pow_le_pow_right Nat.two_pos
  rw [onePower_eq]
  omega

theorem unitsPerOne_le_units {mantissa : Nat} {exponent : Int} (full : 2 ^ 52 ≤ mantissa)
    (le : -52 ≤ exponent) : unitsPerOne ≤ units mantissa exponent := by
  rw [← units_one]
  apply Nat.mul_le_mul full
  apply Nat.pow_le_pow_right Nat.two_pos
  omega

/-- A significand that is shifted to the right counts no more units than before. -/
theorem units_div_le (mantissa shift : Nat) {exponent : Int} (least : -1074 ≤ exponent) :
    units (mantissa / 2 ^ shift) (exponent + shift) ≤ units mantissa exponent := by
  have power : (exponent + shift + 1074).toNat = shift + (exponent + 1074).toNat := by omega
  rw [units, units, power, Nat.pow_add, ← Nat.mul_assoc]
  exact Nat.mul_le_mul_right _ (Nat.div_mul_le_self _ _)

theorem AtMost.mono {limit greater : Nat} {value : UnpackedFloat} (atMost : AtMost limit value)
    (le : limit ≤ greater) : AtMost greater value := by
  cases value with
  | notANumber => exact atMost
  | infinity sign => exact atMost
  | zero sign => trivial
  | finite sign mantissa exponent positive =>
      cases sign with
      | negative => exact atMost
      | positive => exact ⟨atMost.1, Nat.le_trans atMost.2 le⟩

/-! ## Rounding -/

/-- Rounding a shifted significand does not cross a bound on the significand. -/
theorem roundedMantissa_shiftRight_le {mantissa shift bound : Nat} {accuracy : Accuracy}
    (below : (accuracy = .exact ∧ mantissa ≤ bound * 2 ^ shift) ∨ mantissa < bound * 2 ^ shift) :
    (ExtendedMantissa.ofMantissaAndAccuracy mantissa accuracy >>> shift).roundedMantissa ≤
      bound := by
  have strict : mantissa < bound * 2 ^ shift →
      (ExtendedMantissa.ofMantissaAndAccuracy mantissa accuracy >>> shift).roundedMantissa ≤
        bound := by
    intro less
    have shifted := mantissa_shiftRight (.ofMantissaAndAccuracy mantissa accuracy) shift
    rw [mantissa_ofMantissaAndAccuracy] at shifted
    have quotient : mantissa / 2 ^ shift < bound :=
      (Nat.div_lt_iff_lt_mul (Nat.two_pow_pos shift)).mpr less
    have carry := (roundedMantissa_bounds
      (ExtendedMantissa.ofMantissaAndAccuracy mantissa accuracy >>> shift)).2
    omega
  rcases below with ⟨rfl, le⟩ | less
  · rcases Nat.lt_or_eq_of_le le with less | rfl
    · exact strict less
    · rw [shiftRight_exact]
      exact Nat.le_refl bound
  · exact strict less

/-- The power of two that a shifted significand counts in divides a bound above it that has at most
53 significant bits. -/
theorem exponent_le_of_units_le {mantissa shift significand power : Nat} {exponent : Int}
    (small : significand < 2 ^ 53) (least : -1074 ≤ exponent) (shifted : 0 < shift)
    (target : (Format.binary64.targetExponent (totalExponent mantissa exponent) -
      exponent).toNat = shift)
    (below : units mantissa exponent ≤ significand * 2 ^ power) :
    shift + (exponent + 1074).toNat ≤ power := by
  simp only [Format.targetExponent, totalExponent, Format.minExponent, Format.mantissaBits]
    at target
  have log : mantissa.log2 = shift + 52 := by omega
  have nonzero : mantissa ≠ 0 := by
    rintro rfl
    rw [Nat.log2_zero] at log
    omega
  have powers : 2 ^ (shift + 52 + (exponent + 1074).toNat) < 2 ^ (53 + power) :=
    calc
      2 ^ (shift + 52 + (exponent + 1074).toNat) =
          2 ^ mantissa.log2 * 2 ^ (exponent + 1074).toNat := by rw [log, Nat.pow_add]
      _ ≤ units mantissa exponent := Nat.mul_le_mul_right _ (Nat.log2_self_le nonzero)
      _ ≤ significand * 2 ^ power := below
      _ < 2 ^ 53 * 2 ^ power := Nat.mul_lt_mul_of_pos_right small (Nat.two_pow_pos power)
      _ = 2 ^ (53 + power) := (Nat.pow_add 2 53 power).symm
  have exponents := (Nat.pow_lt_pow_iff_right (by decide)).mp powers
  omega

/-- Rounding does not cross a bound of at most 53 significant bits. -/
theorem atMost_roundWithAccuracy {mantissa significand power : Nat} {exponent : Int}
    {accuracy : Accuracy} (small : significand < 2 ^ 53) (least : -1074 ≤ exponent)
    (below : (accuracy = .exact ∧ units mantissa exponent ≤ significand * 2 ^ power) ∨
      units (mantissa + 1) exponent ≤ significand * 2 ^ power) :
    AtMost (significand * 2 ^ power)
      (roundWithAccuracy Format.binary64 .positive mantissa exponent accuracy) := by
  generalize shiftEq : (Format.binary64.targetExponent (totalExponent mantissa exponent) -
    exponent).toNat = shift
  have floorBelow : units mantissa exponent ≤ significand * 2 ^ power := by
    rcases below with ⟨-, le⟩ | le
    · exact le
    · exact Nat.le_trans (units_mono (Nat.le_succ mantissa) exponent) le
  have rounded : units (ExtendedMantissa.ofMantissaAndAccuracy mantissa accuracy >>>
      shift).roundedMantissa (exponent + shift) ≤ significand * 2 ^ power := by
    rcases Nat.eq_zero_or_pos shift with rfl | shifted
    · rw [Int.natCast_zero, Int.add_zero]
      rcases below with ⟨rfl, le⟩ | le
      · refine Nat.le_trans (units_mono (roundedMantissa_shiftRight_le (.inl ⟨rfl, ?_⟩)) _) le
        omega
      · refine Nat.le_trans (units_mono (roundedMantissa_shiftRight_le (.inr ?_)) _) le
        omega
    · -- the bound is a multiple of the power of two in which the shifted significand counts
      obtain ⟨rest, rfl⟩ := Nat.exists_eq_add_of_le
        (exponent_le_of_units_le small least shifted shiftEq floorBelow)
      have powerEq : (exponent + shift + 1074).toNat = shift + (exponent + 1074).toNat := by omega
      have limitEq : significand * 2 ^ (shift + (exponent + 1074).toNat + rest) =
          significand * 2 ^ rest * 2 ^ shift * 2 ^ (exponent + 1074).toNat := by
        rw [Nat.add_comm _ rest, Nat.pow_add, Nat.pow_add]
        ac_rfl
      have significandLe : ∀ {other : Nat}, units other exponent ≤
          significand * 2 ^ (shift + (exponent + 1074).toNat + rest) →
            other ≤ significand * 2 ^ rest * 2 ^ shift := by
        intro other le
        rw [limitEq] at le
        exact Nat.le_of_mul_le_mul_right le (Nat.two_pow_pos _)
      have bound : (ExtendedMantissa.ofMantissaAndAccuracy mantissa accuracy >>>
          shift).roundedMantissa ≤ significand * 2 ^ rest := by
        apply roundedMantissa_shiftRight_le
        rcases below with ⟨exact, le⟩ | le
        · exact .inl ⟨exact, significandLe le⟩
        · exact .inr (significandLe le)
      apply Nat.le_trans (units_mono bound _)
      apply Nat.le_of_eq
      rw [units, powerEq, limitEq, Nat.pow_add, Nat.mul_assoc _ (2 ^ shift)]
  -- the second shift, after a carry, only takes away
  subst shiftEq
  unfold roundWithAccuracy
  simp only [shiftToTargetExponent, shiftToExponent, mantissa_shiftRight,
    mantissa_ofMantissaAndAccuracy]
  split
  · trivial
  · exact ⟨by omega, Nat.le_trans (units_div_le _ _ (by omega)) rounded⟩

/-- A sum that is rounded does not cross a bound of at most 53 significant bits. -/
theorem atMost_round {mantissa significand power : Nat} {exponent : Int}
    (small : significand < 2 ^ 53) (least : -1074 ≤ exponent)
    (below : units mantissa exponent ≤ significand * 2 ^ power) :
    AtMost (significand * 2 ^ power)
      (UnpackedFloat.round Format.binary64 .positive mantissa exponent) := by
  have target : -1074 ≤ Format.binary64.targetExponent (totalExponent mantissa exponent) := by
    simp only [Format.targetExponent, Format.minExponent, Format.mantissaBits]
    omega
  simp only [UnpackedFloat.round, decreaseExponent, Nat.shiftLeft_eq]
  generalize Format.binary64.targetExponent (totalExponent mantissa exponent) = targetExponent
    at target
  apply atMost_roundWithAccuracy small (by omega)
  refine .inl ⟨rfl, ?_⟩
  have powerEq : (exponent + 1074).toNat = (exponent - targetExponent).toNat +
      (exponent - ((exponent - targetExponent).toNat : Int) + 1074).toNat := by
    omega
  rw [units, Nat.mul_assoc, ← Nat.pow_add, ← powerEq]
  exact below

/-! ## Packing -/

theorem unpack_pack_zero (sign : Sign) :
    unpack Format.binary64 (pack Format.binary64 (.zero sign)) = .zero sign := by
  cases sign with
  | negative => rfl
  | positive => rfl

/-- Packing a significand that is not full keeps its last 52 bits and takes the least exponent. -/
theorem atMost_unpack_subnormal (mantissa : Nat) :
    AtMost mantissa (unpack Format.binary64
      (packComponents Format.binary64 .positive 0#11 (BitVec.ofNat 52 mantissa))) := by
  have notOnes : (0#11 : BitVec 11) ≠ -1#11 := by decide
  simp only [UnpackedFloat.unpack, unpackExponent_packComponents, unpackMantissa_packComponents,
    unpackSign_packComponents, if_neg notOnes, if_true]
  split
  · trivial
  · refine ⟨by decide, ?_⟩
    have power : (((0#11 : BitVec 11).toNat : Int) -
        (Format.binary64.exponentBias + Format.binary64.mantissaBitsWithoutImplicit : Int) + 1 +
          1074).toNat = 0 := by
      decide
    rw [units, power, BitVec.toNat_ofNat, Nat.pow_zero, Nat.mul_one]
    exact Nat.mod_le _ _

/-- Packing does not add to a double of at most `2 ^ 53`, which is in the range of doubles. -/
theorem atMost_unpack_pack {limit : Nat} (bounded : limit < 2 ^ 53 * unitsPerOne)
    {value : UnpackedFloat} (atMost : AtMost limit value) :
    AtMost limit (unpack Format.binary64 (pack Format.binary64 value)) := by
  cases value with
  | notANumber => cases atMost
  | infinity sign => cases atMost
  | zero sign =>
      rw [unpack_pack_zero]
      trivial
  | finite sign mantissa exponent positive =>
      cases sign with
      | negative => cases atMost
      | positive =>
          obtain ⟨least, below⟩ := atMost
          have mantissaLe : mantissa ≤ units mantissa exponent :=
            Nat.le_mul_of_pos_right _ (Nat.two_pow_pos _)
          have powerLe : 2 ^ (exponent + 1074).toNat ≤ units mantissa exponent :=
            Nat.le_mul_of_pos_left _ positive
          rw [unitsPerOne, ← Nat.pow_add] at bounded
          have powerEq := onePower_eq
          have exponentLess : (exponent + 1074).toNat < 53 + onePower :=
            (Nat.pow_lt_pow_iff_right (by decide)).mp
              (Nat.lt_of_le_of_lt (Nat.le_trans powerLe below) bounded)
          by_cases full : mantissa.log2 = 52
          · obtain ⟨lower, upper⟩ := (Nat.log2_eq_iff (Nat.ne_of_gt positive)).mp full
            rw [unpack_pack_normal positive lower upper least (by omega)]
            exact ⟨least, below⟩
          · have packed : pack Format.binary64 (.finite .positive mantissa exponent positive) =
                packComponents Format.binary64 .positive 0#11 (BitVec.ofNat 52 mantissa) := by
              have inRange : ¬2 ^ Format.binary64.exponentBits ≤ (exponent +
                  (Format.binary64.exponentBias : Int) +
                  (Format.binary64.mantissaBitsWithoutImplicit : Int)).toNat + 1 := by
                simp only [Format.exponentBias]
                omega
              have notFull : ¬mantissa.log2 + 1 = Format.binary64.mantissaBits := by
                simp only [Format.mantissaBits]
                omega
              simp only [UnpackedFloat.pack, if_neg inRange, if_neg notFull]
            rw [packed]
            exact (atMost_unpack_subnormal mantissa).mono (Nat.le_trans mantissaLe below)

/-! ## Arithmetic -/

/-- A significand that is moved to a smaller exponent counts the same units. -/
theorem units_shiftLeft (mantissa : Nat) (exponent smaller : Int) (le : smaller ≤ exponent)
    (least : -1074 ≤ smaller) :
    units (mantissa * 2 ^ (exponent - smaller).toNat) smaller = units mantissa exponent := by
  have power : (exponent + 1074).toNat = (exponent - smaller).toNat + (smaller + 1074).toNat := by
    omega
  rw [units, units, power, Nat.pow_add, Nat.mul_assoc]

theorem units_add (first second : Nat) (exponent : Int) :
    units (first + second) exponent = units first exponent + units second exponent :=
  Nat.add_mul _ _ _

theorem atMost_add_finite {first second significand power : Nat}
    {firstExponent secondExponent : Int} (small : significand < 2 ^ 53) (firstPositive : 0 < first)
    (secondPositive : 0 < second) (firstLeast : -1074 ≤ firstExponent)
    (secondLeast : -1074 ≤ secondExponent)
    (sum : units first firstExponent + units second secondExponent ≤ significand * 2 ^ power) :
    AtMost (significand * 2 ^ power) (UnpackedFloat.add Format.binary64
      (.finite .positive first firstExponent firstPositive)
      (.finite .positive second secondExponent secondPositive)) := by
  obtain ⟨smaller, smallerEq⟩ : ∃ smaller, smaller = min firstExponent secondExponent := ⟨_, rfl⟩
  have firstMoved := units_shiftLeft first firstExponent smaller (by omega) (by omega)
  have secondMoved := units_shiftLeft second secondExponent smaller (by omega) (by omega)
  rw [← firstMoved, ← secondMoved, ← units_add] at sum
  have positive : 0 < first * 2 ^ (firstExponent - smaller).toNat +
      second * 2 ^ (secondExponent - smaller).toNat :=
    Nat.add_pos_left (Nat.mul_pos firstPositive (Nat.two_pow_pos _)) _
  have compared : compare ((first * 2 ^ (firstExponent - smaller).toNat +
      second * 2 ^ (secondExponent - smaller).toNat : Nat) : Int) 0 = .gt :=
    Int.compare_eq_gt.mpr (by omega)
  simp only [UnpackedFloat.add, decreaseExponent, Nat.shiftLeft_eq, Sign.apply, ← smallerEq,
    ← Int.natCast_add, UnpackedFloat.normalize, compared, Int.toNat_natCast]
  exact atMost_round small (by omega) sum

/-- The sum of two doubles does not cross a bound of at most 53 significant bits on the sum of
their bounds. -/
theorem atMost_add {first second : UnpackedFloat} {firstLimit secondLimit significand power : Nat}
    (small : significand < 2 ^ 53) (sum : firstLimit + secondLimit ≤ significand * 2 ^ power)
    (firstAtMost : AtMost firstLimit first) (secondAtMost : AtMost secondLimit second) :
    AtMost (significand * 2 ^ power) (UnpackedFloat.add Format.binary64 first second) := by
  have firstLe : firstLimit ≤ significand * 2 ^ power := by omega
  have secondLe : secondLimit ≤ significand * 2 ^ power := by omega
  cases first with
  | notANumber => cases firstAtMost
  | infinity sign => cases firstAtMost
  | zero firstSign =>
      cases second with
      | notANumber => cases secondAtMost
      | infinity sign => cases secondAtMost
      | zero secondSign =>
          simp only [UnpackedFloat.add]
          split
          · trivial
          · trivial
      | finite sign mantissa exponent positive => exact secondAtMost.mono secondLe
  | finite firstSign firstMantissa firstExponent firstPositive =>
      cases firstSign with
      | negative => cases firstAtMost
      | positive =>
          cases second with
          | notANumber => cases secondAtMost
          | infinity sign => cases secondAtMost
          | zero sign => exact firstAtMost.mono firstLe
          | finite secondSign secondMantissa secondExponent secondPositive =>
              cases secondSign with
              | negative => cases secondAtMost
              | positive =>
                  exact atMost_add_finite small firstPositive secondPositive firstAtMost.1
                    secondAtMost.1 (Nat.le_trans (Nat.add_le_add firstAtMost.2 secondAtMost.2) sum)

/-! ## Quotients of at most one -/

/-- A dividend of at most a natural number has no greater total exponent. -/
theorem log2_add_le {mantissa divisor : Nat} {exponent : Int} (positive : 0 < mantissa)
    (least : -1074 ≤ exponent) (below : units mantissa exponent ≤ divisor * unitsPerOne) :
    mantissa.log2 + exponent ≤ divisor.log2 := by
  have powerEq := onePower_eq
  have powers : 2 ^ (mantissa.log2 + (exponent + 1074).toNat) <
      2 ^ (divisor.log2 + 1 + onePower) :=
    calc
      2 ^ (mantissa.log2 + (exponent + 1074).toNat) =
          2 ^ mantissa.log2 * 2 ^ (exponent + 1074).toNat := Nat.pow_add _ _ _
      _ ≤ units mantissa exponent :=
        Nat.mul_le_mul_right _ (Nat.log2_self_le (Nat.ne_of_gt positive))
      _ ≤ divisor * unitsPerOne := below
      _ < 2 ^ (divisor.log2 + 1) * unitsPerOne :=
        Nat.mul_lt_mul_of_pos_right Nat.lt_log2_self unitsPerOne_pos
      _ = 2 ^ (divisor.log2 + 1 + onePower) := (Nat.pow_add _ _ _).symm
  have exponents := (Nat.pow_lt_pow_iff_right (by decide)).mp powers
  omega

/-- Below a bound on finer steps than its own a number leaves room for one more of its steps. -/
theorem succ_mul_two_pow_le {quotient significand power finer : Nat} (le : finer ≤ power)
    (less : quotient * 2 ^ finer < significand * 2 ^ power) :
    (quotient + 1) * 2 ^ finer ≤ significand * 2 ^ power := by
  obtain ⟨rest, rfl⟩ := Nat.exists_eq_add_of_le le
  have limitEq : significand * 2 ^ (finer + rest) = significand * 2 ^ rest * 2 ^ finer := by
    rw [Nat.pow_add]
    ac_rfl
  rw [limitEq] at less ⊢
  exact Nat.mul_le_mul_right _ (Nat.lt_of_mul_lt_mul_right less)

/-- A quotient of natural numbers that is rounded does not cross a bound on the quotient. -/
theorem atMost_roundWithAccuracy_div {numerator denominator significand power : Nat}
    {exponent : Int} (small : significand < 2 ^ 53) (least : -1074 ≤ exponent)
    (finer : (exponent + 1074).toNat ≤ power) (positive : 0 < denominator)
    (below : units numerator exponent ≤ significand * 2 ^ power * denominator) :
    AtMost (significand * 2 ^ power)
      (roundWithAccuracy Format.binary64 .positive (numerator / denominator) exponent
        (accuracyOfFraction (numerator % denominator) denominator)) := by
  have division := Nat.div_add_mod numerator denominator
  generalize numerator / denominator = quotient at division
  apply atMost_roundWithAccuracy small least
  have scaled : units quotient exponent * denominator =
      units (denominator * quotient) exponent := by
    rw [units, units]
    ac_rfl
  rcases Nat.eq_zero_or_pos (numerator % denominator) with exact | inexact
  · left
    rw [exact, Nat.add_zero] at division
    refine ⟨by rw [exact]; rfl, ?_⟩
    apply Nat.le_of_mul_le_mul_right _ positive
    rwa [scaled, division]
  · right
    apply succ_mul_two_pow_le finer
    have less : units (denominator * quotient) exponent < units numerator exponent := by
      apply Nat.mul_lt_mul_of_pos_right _ (Nat.two_pow_pos _)
      omega
    apply Nat.lt_of_mul_lt_mul_right (a := denominator)
    rw [← scaled] at less
    exact Nat.lt_of_lt_of_le less below

theorem atMost_div_finite {mantissa divisor significand power : Nat} {exponent : Int}
    (small : significand < 2 ^ 53) (coarse : onePower - 53 ≤ power)
    (mantissaPositive : 0 < mantissa) (positive : 0 < divisor) (least : -1074 ≤ exponent)
    (bounded : significand * 2 ^ power ≤ unitsPerOne)
    (below : units mantissa exponent ≤ significand * 2 ^ power * divisor) :
    AtMost (significand * 2 ^ power) (UnpackedFloat.div Format.binary64
      (.finite .positive mantissa exponent mantissaPositive)
      (unpackedNatural divisor positive)) := by
  have inRange : units mantissa exponent ≤ divisor * unitsPerOne := by
    rw [Nat.mul_comm divisor]
    exact Nat.le_trans below (Nat.mul_le_mul_right _ bounded)
  have logs := log2_add_le mantissaPositive least inRange
  simp only [unpackedNatural, UnpackedFloat.div, divCore, Nat.shiftLeft_eq]
  generalize targetEq : min (exponent - -(naturalExponent divisor : Int))
    (Format.binary64.targetExponent (totalExponent mantissa exponent -
      totalExponent (divisor * 2 ^ naturalExponent divisor)
        (-(naturalExponent divisor : Int)))) = target
  have log := log2_mul_two_pow positive (naturalExponent divisor)
  simp only [Format.targetExponent, totalExponent, Format.minExponent, Format.mantissaBits, log]
    at targetEq
  have targetLeast : -1074 ≤ target := by omega
  have finer : (target + 1074).toNat ≤ power := by
    have powerEq := onePower_eq
    omega
  generalize shiftEq : (exponent - -(naturalExponent divisor : Int) - target).toNat = shift
  have powers : shift + (target + 1074).toNat =
      (exponent + 1074).toNat + naturalExponent divisor := by
    omega
  apply atMost_roundWithAccuracy_div small targetLeast finer
    (Nat.mul_pos positive (Nat.two_pow_pos _))
  -- the divisor is scaled by its own power of two, and so are the units of the dividend
  calc
    units (mantissa * 2 ^ shift) target =
        units mantissa exponent * 2 ^ naturalExponent divisor := by
      rw [units, Nat.mul_assoc, ← Nat.pow_add, powers, Nat.pow_add, ← Nat.mul_assoc, units]
    _ ≤ significand * 2 ^ power * divisor * 2 ^ naturalExponent divisor :=
      Nat.mul_le_mul_right _ below
    _ = significand * 2 ^ power * (divisor * 2 ^ naturalExponent divisor) := Nat.mul_assoc _ _ _

/-- The quotient by a natural number does not cross a bound of at most one and of 53 significant
bits. -/
theorem atMost_div {dividend : UnpackedFloat} {divisor significand power : Nat}
    (small : significand < 2 ^ 53) (coarse : onePower - 53 ≤ power) (positive : 0 < divisor)
    (bounded : significand * 2 ^ power ≤ unitsPerOne)
    (atMost : AtMost (significand * 2 ^ power * divisor) dividend) :
    AtMost (significand * 2 ^ power)
      (UnpackedFloat.div Format.binary64 dividend (unpackedNatural divisor positive)) := by
  cases dividend with
  | notANumber => cases atMost
  | infinity sign => cases atMost
  | zero sign => trivial
  | finite sign mantissa exponent mantissaPositive =>
      cases sign with
      | negative => cases atMost
      | positive =>
          exact atMost_div_finite small coarse mantissaPositive positive atMost.1 bounded atMost.2

end Understudy
