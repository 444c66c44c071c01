import Understudy.Proofs.Score.Counting

/-!
# Equal doubles

What the comparison `==` of doubles says of numbers and of one.  It is equality, except that a NaN
differs from everything and that the two zeros agree.  The bits of a double decide its place in the
order of all doubles, different patterns of bits have different places, and so have different
doubles.
-/

namespace Understudy

open Float.Model Float.Model.UnpackedFloat

/-- A double that is a number equals itself. -/
theorem beq_self_of_isNaN_eq_false {value : Float} (number : value.isNaN = false) :
    (value == value) = true := by
  rw [Float.beq_self_iff]
  rintro rfl
  exact absurd number (by decide)

theorem unpack_one : (1 : Float).toModel.unpack = unpackedNatural 1 Nat.one_pos := by
  rw [← naturalDouble_one]
  exact unpack_naturalDouble Nat.one_pos (by decide)

/-- The only double that equals one is one. -/
theorem eq_one_of_beq_one {value : Float} (equal : (value == 1) = true) : value = 1 := by
  obtain ⟨-, -, same | ⟨-, zero⟩ | ⟨-, zero⟩⟩ := Float.beq_iff_ne_nan_and_eq.mp equal
  · exact same
  · exact absurd (congrArg Float.toBits zero) (by decide)
  · exact absurd (congrArg Float.toBits zero) (by decide)

/-! ## Places -/

namespace Score

/-- The place of a double with these bits in the order of all doubles, whichever NaN they are. -/
def placeOfBits (bits : UInt64) : Int :=
  if bits.toNat < 0x8000000000000000 then bits.toNat else 0x7FFFFFFFFFFFFFFF - bits.toNat

theorem place_eq_placeOfBits (score : Score) : place score = placeOfBits score.toBits :=
  rfl

theorem placeOfBits_ge (bits : UInt64) : -(2 ^ 63) ≤ placeOfBits bits := by
  have bound := bits.toNat_lt
  simp only [placeOfBits]
  split <;> omega

/-- Every pattern of bits has its own place. -/
theorem placeOfBits_injective : Function.Injective placeOfBits := by
  intro first second placeEq
  have firstBound := first.toNat_lt
  have secondBound := second.toNat_lt
  apply UInt64.toNat_inj.mp
  simp only [placeOfBits] at placeEq
  split at placeEq <;> split at placeEq <;> omega

theorem place_ge (score : Score) : -(2 ^ 63) ≤ place score := by
  rw [place_eq_placeOfBits]
  exact placeOfBits_ge score.toBits

/-- Every double has its own place. -/
theorem place_injective : Function.Injective place := by
  rintro ⟨⟨firstBits, _⟩⟩ ⟨⟨secondBits, _⟩⟩ placeEq
  obtain rfl : firstBits = secondBits := placeOfBits_injective placeEq
  rfl

end Score

end Understudy
