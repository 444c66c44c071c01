import Understudy.Proofs.Score.Bounds
import Understudy.Proofs.Score.Equality

/-!
# Means of scores

Scores are at most one, or a NaN.  Sums and quotients do not cross a bound that rounding keeps, so a
sum of scores is at most their number and their mean at most one.  A NaN spreads to the sum and to
the mean, and a mean above zero is none.
-/

namespace Understudy

open Float.Model Float.Model.UnpackedFloat

/-! ## NaN -/

theorem isNaN_iff_unpack {value : Float} :
    value.isNaN = true ↔ value.toModel.unpack = .notANumber :=
  UnpackedFloat.isNaN_iff

theorem isNaN_unpack_pack_of_eq {value : UnpackedFloat} (notANumber : value = .notANumber) :
    (unpack Format.binary64 (pack Format.binary64 value)).isNaN = true := by
  rw [notANumber]
  decide

theorem isNaN_add_left {first : Float} (isNaN : first.isNaN = true) (second : Float) :
    (first + second).isNaN = true := by
  suffices sum : UnpackedFloat.add Format.binary64 first.toModel.unpack second.toModel.unpack =
      .notANumber from isNaN_unpack_pack_of_eq sum
  rw [isNaN_iff_unpack.mp isNaN]
  cases second.toModel.unpack <;> rfl

theorem isNaN_add_right (first : Float) {second : Float} (isNaN : second.isNaN = true) :
    (first + second).isNaN = true := by
  suffices sum : UnpackedFloat.add Format.binary64 first.toModel.unpack second.toModel.unpack =
      .notANumber from isNaN_unpack_pack_of_eq sum
  rw [isNaN_iff_unpack.mp isNaN]
  cases first.toModel.unpack <;> rfl

theorem isNaN_div_left {dividend : Float} (isNaN : dividend.isNaN = true) (divisor : Float) :
    (dividend / divisor).isNaN = true := by
  suffices quotient : UnpackedFloat.div Format.binary64 dividend.toModel.unpack
      divisor.toModel.unpack = .notANumber from isNaN_unpack_pack_of_eq quotient
  rw [isNaN_iff_unpack.mp isNaN]
  cases divisor.toModel.unpack <;> rfl

theorem lt_iff_unpack {first second : Float} :
    first < second ↔ UnpackedFloat.lt first.toModel.unpack second.toModel.unpack = true := by
  change decide (first.toModel < second.toModel) = true ↔ _
  rw [decide_eq_true_iff]
  exact Iff.rfl

theorem isNaN_eq_false_of_pos {value : Float} (positive : 0 < value) : value.isNaN = false := by
  rw [Bool.eq_false_iff]
  intro isNaN
  rw [lt_iff_unpack, isNaN_iff_unpack.mp isNaN] at positive
  cases positive

theorem le_iff_unpack {first second : Float} :
    first ≤ second ↔ UnpackedFloat.le first.toModel.unpack second.toModel.unpack = true := by
  change decide (first.toModel ≤ second.toModel) = true ↔ _
  rw [decide_eq_true_iff]
  exact Iff.rfl

theorem isNaN_eq_false_of_nonneg {value : Float} (nonneg : 0 ≤ value) :
    value.isNaN = false := by
  rw [Bool.eq_false_iff]
  intro isNaN
  rw [le_iff_unpack, isNaN_iff_unpack.mp isNaN] at nonneg
  cases nonneg

/-! ## Bounds that a NaN may pass -/

/-- The double is a NaN, a zero, or positive and of at most so many units. -/
def Within (limit : Nat) (value : Float) : Prop :=
  value.isNaN = true ∨ AtMost limit value.toModel.unpack

theorem Within.mono {limit greater : Nat} {value : Float} (within : Within limit value)
    (le : limit ≤ greater) : Within greater value :=
  within.imp_right fun atMost => atMost.mono le

/-- A sum does not cross a bound of at most 53 significant bits on the sum of the bounds. -/
theorem within_add {first second : Float} {one other significand power : Nat}
    (small : significand < 2 ^ 53) (inRange : power ≤ onePower)
    (sum : one + other ≤ significand * 2 ^ power) (firstWithin : Within one first)
    (secondWithin : Within other second) :
    Within (significand * 2 ^ power) (first + second) := by
  rcases firstWithin with isNaN | firstAtMost
  · exact .inl (isNaN_add_left isNaN second)
  · rcases secondWithin with isNaN | secondAtMost
    · exact .inl (isNaN_add_right first isNaN)
    · right
      have bounded : significand * 2 ^ power < 2 ^ 53 * unitsPerOne :=
        Nat.mul_lt_mul_of_lt_of_le small (Nat.pow_le_pow_right Nat.two_pos inRange)
          unitsPerOne_pos
      exact atMost_unpack_pack bounded (atMost_add small sum firstAtMost secondAtMost)

/-- A quotient does not cross a bound of at most one and of 53 significant bits. -/
theorem within_div {dividend : Float} {divisor significand power : Nat}
    (small : significand < 2 ^ 53) (coarse : onePower - 53 ≤ power)
    (atMostOne : significand * 2 ^ power ≤ unitsPerOne) (positive : 0 < divisor)
    (bounded : divisor < 2 ^ 53) (within : Within (significand * 2 ^ power * divisor) dividend) :
    Within (significand * 2 ^ power) (dividend / Float.ofNat divisor) := by
  rcases within with isNaN | atMost
  · exact .inl (isNaN_div_left isNaN _)
  · right
    have inRange : significand * 2 ^ power < 2 ^ 53 * unitsPerOne :=
      Nat.lt_of_le_of_lt atMostOne (lt_mul_of_one_lt_left unitsPerOne_pos (by decide))
    apply atMost_unpack_pack inRange
    have divisorEq : (Float.ofNat divisor).toModel.unpack = unpackedNatural divisor positive := by
      rw [ofNat_eq_naturalDouble positive bounded, unpack_naturalDouble positive bounded]
    rw [divisorEq]
    exact atMost_div small coarse positive atMostOne atMost

/-! ## Doubles up to one -/

/-- The units of a positive word from that of one on. -/
theorem units_le_of_atMost_unpack {limit : Nat} {bits : BitVec Format.binary64.numBits}
    (least : 0x3FF0000000000000 ≤ bits.toNat) (positive : bits.toNat < 0x8000000000000000)
    (atMost : AtMost limit (UnpackedFloat.unpack Format.binary64 bits)) :
    units (2 ^ 52 + bits.toNat % 2 ^ 52) ((bits.toNat / 2 ^ 52 : Nat) - 1075) ≤ limit := by
  have bias : (Format.binary64.exponentBias : Int) +
      (Format.binary64.mantissaBitsWithoutImplicit : Int) = 1075 := by decide
  have exponentEq : (unpackExponent bits).toNat = bits.toNat / 2 ^ 52 := by
    rw [toNat_unpackExponent]
    omega
  have mantissaEq : (unpackMantissa bits).toNat = bits.toNat % 2 ^ 52 := by
    rw [unpackMantissa_def, BitVec.extractLsb'_toNat]
    rfl
  unfold UnpackedFloat.unpack at atMost
  simp only [bias] at atMost
  split at atMost
  · split at atMost
    · cases atMost
    · cases atMost
  · split at atMost
    · next zero =>
        rw [zero] at exponentEq
        have : (0 : Nat) = bits.toNat / 2 ^ 52 := exponentEq
        omega
    · cases signed : Sign.ofBitVec (unpackSign bits) with
      | negative =>
          rw [signed] at atMost
          cases atMost
      | positive =>
          rw [signed, exponentEq] at atMost
          have counted := atMost.2
          rw [toNat_significand, mantissaEq] at counted
          exact counted

/-- A greater significand or exponent than that of one counts more units. -/
theorem unitsPerOne_lt_units {mantissa : Nat} {exponent : Int} (full : 2 ^ 52 ≤ mantissa)
    (least : -52 ≤ exponent) (greater : 2 ^ 52 < mantissa ∨ -52 < exponent) :
    unitsPerOne < units mantissa exponent := by
  rw [← units_one]
  rcases greater with less | less
  · have powerLe : 2 ^ ((-52 : Int) + 1074).toNat ≤ 2 ^ (exponent + 1074).toNat :=
      Nat.pow_le_pow_right Nat.two_pos (by omega)
    exact Nat.mul_lt_mul_of_lt_of_le less powerLe (Nat.two_pow_pos _)
  · have powerLt : 2 ^ ((-52 : Int) + 1074).toNat < 2 ^ (exponent + 1074).toNat :=
      Nat.pow_lt_pow_right (by decide) (by omega)
    exact Nat.mul_lt_mul_of_le_of_lt full powerLt (Nat.lt_of_lt_of_le (Nat.two_pow_pos 52) full)

/-- A positive word from that of one on is no double below one. -/
theorem not_atMost_unpack {bits : BitVec Format.binary64.numBits}
    (least : 0x3FF0000000000000 ≤ bits.toNat) (positive : bits.toNat < 0x8000000000000000) :
    ¬AtMost unitsBelowOne (UnpackedFloat.unpack Format.binary64 bits) := by
  intro atMost
  have counted := units_le_of_atMost_unpack least positive atMost
  have above := unitsPerOne_le_units (Nat.le_add_right (2 ^ 52) (bits.toNat % 2 ^ 52))
    (by omega : (-52 : Int) ≤ (bits.toNat / 2 ^ 52 : Nat) - 1075)
  exact absurd (Nat.le_trans above counted) (Nat.not_le.mpr unitsBelowOne_lt)

/-- A positive word behind that of one is no double of at most one. -/
theorem not_atMost_unpack_of_lt {bits : BitVec Format.binary64.numBits}
    (less : 0x3FF0000000000000 < bits.toNat) (positive : bits.toNat < 0x8000000000000000) :
    ¬AtMost unitsPerOne (UnpackedFloat.unpack Format.binary64 bits) := by
  intro atMost
  have counted := units_le_of_atMost_unpack (Nat.le_of_lt less) positive atMost
  have above := unitsPerOne_lt_units (Nat.le_add_right (2 ^ 52) (bits.toNat % 2 ^ 52))
    (by omega : (-52 : Int) ≤ (bits.toNat / 2 ^ 52 : Nat) - 1075) (by omega)
  exact absurd counted (Nat.not_le.mpr above)

theorem place_perfect : Score.place Score.perfect = 0x3FF0000000000000 := by
  decide

/-- A double of fewer units than one stands before one in the order of all doubles. -/
theorem place_lt_of_atMost {value : Float} (atMost : AtMost unitsBelowOne value.toModel.unpack) :
    Score.place value < Score.place Score.perfect := by
  rw [place_perfect, ← Int.not_le]
  intro behind
  dsimp only [Score.place] at behind
  split at behind
  · next positive => exact not_atMost_unpack (Int.ofNat_le.mp behind) positive atMost
  · omega

/-- A double of at most the units of one does not stand behind one. -/
theorem place_le_of_atMost {value : Float} (atMost : AtMost unitsPerOne value.toModel.unpack) :
    Score.place value ≤ Score.place Score.perfect := by
  rw [place_perfect, ← Int.not_lt]
  intro behind
  dsimp only [Score.place] at behind
  split at behind
  · next positive => exact not_atMost_unpack_of_lt (Int.ofNat_lt.mp behind) positive atMost
  · omega

/-! ## Doubles from zero to one -/

theorem unpackedNatural_one :
    unpackedNatural 1 Nat.one_pos = .finite .positive (2 ^ 52) (-52) (Nat.two_pow_pos 52) :=
  rfl

theorem atMost_unpack_one : AtMost unitsPerOne (1 : Float).toModel.unpack := by
  rw [unpack_one, unpackedNatural_one]
  exact ⟨by decide, Nat.le_of_eq units_one⟩

/-- A positive double has at most the units of one exactly if it is not above one. -/
theorem units_le_unitsPerOne_iff {mantissa : Nat} {exponent : Int} {positive : 0 < mantissa}
    (small : mantissa < 2 ^ 53) (full : 2 ^ 52 ≤ mantissa ∨ exponent = -1074) :
    units mantissa exponent ≤ unitsPerOne ↔
      ¬UnpackedFloat.lt (unpackedNatural 1 Nat.one_pos)
        (.finite .positive mantissa exponent positive) = true := by
  have ordered : UnpackedFloat.lt (unpackedNatural 1 Nat.one_pos)
      (.finite .positive mantissa exponent positive) = true ↔
        (compare (-52) exponent).then (compare (2 ^ 52) mantissa) = .lt := by
    rw [unpackedNatural_one]
    simp only [UnpackedFloat.lt, UnpackedFloat.compare, beq_iff_eq, Option.some.injEq]
  rw [ordered]
  rcases Int.lt_trichotomy exponent (-52) with smaller | rfl | greater
  · rw [Int.compare_eq_gt.mpr smaller]
    exact iff_of_true (units_le_unitsPerOne small (by omega)) nofun
  · rw [Int.compare_eq_eq.mpr rfl, Ordering.then, Nat.compare_eq_lt, Nat.not_lt, ← units_one]
    exact Nat.mul_le_mul_right_iff (Nat.two_pow_pos _)
  · rw [Int.compare_eq_lt.mpr greater]
    have normal : 2 ^ 52 ≤ mantissa := by omega
    have above := unitsPerOne_lt_units normal (Int.le_of_lt greater) (.inr greater)
    exact iff_of_false (Nat.not_le.mpr above) (not_not_intro rfl)

/-- A double is at most one, or a NaN, exactly if it is not below zero and not above one. -/
theorem within_unitsPerOne_iff {value : Float} :
    Within unitsPerOne value ↔ ¬value < 0 ∧ ¬1 < value := by
  have zero : (0 : Float).toModel.unpack = .zero .positive := rfl
  rw [Within, isNaN_iff_unpack, lt_iff_unpack, lt_iff_unpack, zero, unpack_one]
  cases unpacked : value.toModel.unpack with
  | notANumber => exact iff_of_true (.inl rfl) ⟨nofun, nofun⟩
  | infinity sign =>
      refine iff_of_false nofun ?_
      cases sign with
      | negative => exact fun outside => outside.1 rfl
      | positive => exact fun outside => outside.2 rfl
  | zero sign => exact iff_of_true (.inr trivial) ⟨by cases sign <;> nofun, by cases sign <;> nofun⟩
  | finite sign mantissa exponent positive =>
      cases sign with
      | negative => exact iff_of_false nofun fun outside => outside.1 rfl
      | positive =>
          obtain ⟨small, least, full⟩ := unpack_bounds unpacked
          rw [← units_le_unitsPerOne_iff small full]
          constructor
          · rintro (notANumber | atMost)
            · cases notANumber
            · exact ⟨nofun, atMost.2⟩
          · exact fun inside => .inr ⟨least, inside.2⟩

/-! ## Scores -/

namespace Score

theorem within_mismatch (limit : Nat) : Within limit mismatch :=
  .inr trivial

/-- A score that is moved into the range from zero to one is at most one. -/
theorem within_clamp (score : Score) : Within unitsPerOne score.clamp := by
  unfold clamp
  split
  · exact within_mismatch unitsPerOne
  · next notBelow =>
      split
      · exact .inr atMost_unpack_one
      · next notAbove => exact within_unitsPerOne_iff.mpr ⟨notBelow, notAbove⟩

/-- A score of at most one stays where it is. -/
theorem clamp_of_within {score : Score} (within : Within unitsPerOne score) :
    score.clamp = score := by
  obtain ⟨notBelow, notAbove⟩ := within_unitsPerOne_iff.mp within
  exact (if_neg notBelow).trans (if_neg notAbove)

/-- A sum keeps a bound that grows by one with each score. -/
theorem within_foldl (limit : Nat → Nat) {scores : List Score} {start : Float} {number : Nat}
    (grows : ∀ count sum score, number ≤ count → count < number + scores.length →
      Within (limit count) sum → Within unitsPerOne score →
        Within (limit (count + 1)) (sum + score))
    (each : ∀ score ∈ scores, Within unitsPerOne score) (within : Within (limit number) start) :
    Within (limit (number + scores.length))
      (scores.foldl (fun sum score => sum + score) start) := by
  induction scores generalizing start number with
  | nil => exact within
  | cons score rest inductionHypothesis =>
      obtain ⟨first, others⟩ := List.forall_mem_cons.mp each
      rw [List.length_cons] at grows ⊢
      have sum := grows number start score (Nat.le_refl _) (by omega) within first
      have behind := inductionHypothesis
        (fun count sum score le less => grows count sum score (by omega) (by omega)) others sum
      rwa [Nat.add_right_comm, Nat.add_assoc] at behind

/-- A sum grows by at most the number of scores. -/
theorem within_foldl_add {scores : List Score} {start : Float} {number : Nat}
    (each : ∀ score ∈ scores, Within unitsPerOne score)
    (bounded : number + scores.length < 2 ^ 53) (within : Within (number * unitsPerOne) start) :
    Within ((number + scores.length) * unitsPerOne)
      (scores.foldl (fun sum score => sum + score) start) := by
  refine within_foldl (fun count => count * unitsPerOne) ?_ each within
  intro count sum score _ less sumWithin scoreWithin
  exact within_add (by omega) (Nat.le_refl _) (Nat.le_of_eq (Nat.succ_mul _ _).symm) sumWithin
    scoreWithin

theorem within_total {scores : List Score} (each : ∀ score ∈ scores, Within unitsPerOne score)
    (bounded : scores.length < 2 ^ 53) :
    Within (scores.length * unitsPerOne) (total scores) := by
  have start : Within (0 * unitsPerOne) (-0.0) := .inr trivial
  have sum := within_foldl_add each (by omega) start
  rwa [Nat.zero_add] at sum

/-- A mean is at most one. -/
theorem within_average {scores : List Score} (each : ∀ score ∈ scores, Within unitsPerOne score)
    (bounded : scores.length < 2 ^ 53) : Within unitsPerOne (average scores) := by
  rw [average]
  split
  · exact within_mismatch unitsPerOne
  · next nonempty =>
      have positive : 0 < scores.length := List.length_pos_iff.mpr (by simpa using nonempty)
      have sum := within_total each bounded
      rw [Nat.mul_comm, ← Nat.one_mul unitsPerOne] at sum
      rw [← Nat.one_mul unitsPerOne]
      exact within_div (by decide) (Nat.sub_le _ _) (Nat.le_of_eq (Nat.one_mul _)) positive bounded
        sum

/-- A mean above zero does not stand behind a full match. -/
theorem place_average_le {scores : List Score} (each : ∀ score ∈ scores, Within unitsPerOne score)
    (bounded : scores.length < 2 ^ 53) (aboveZero : 0 < average scores) :
    place (average scores) ≤ place perfect := by
  rcases within_average each bounded with isNaN | atMost
  · rw [isNaN_eq_false_of_pos aboveZero] at isNaN
    cases isNaN
  · exact place_le_of_atMost atMost

end Score

end Understudy
