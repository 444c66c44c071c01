/-!
# Scaled significands

The double for a 64-bit significand and a power of ten, computed in double arithmetic: the
significand is rounded to a double and then multiplied or divided by powers of ten.  A result
beyond the greatest double is refused; one below the least becomes zero.
-/

namespace Understudy.Decimal

/-- The greatest power of ten that a double can hold. -/
def greatestPower : Nat := 308

/-- The double nearest to a power of ten. -/
def powerOfTen (exponent : Nat) : Float :=
  Float.ofScientific 1 false exponent

/-- The value scaled by a power of ten, divided by the greatest power at most `steps` times
first. -/
def scaleBy : Nat → Float → Int → Option Float
  | steps, value, exponent =>
      if exponent.natAbs ≤ greatestPower then
        if 0 ≤ exponent then
          let scaled := value * powerOfTen exponent.natAbs
          if scaled.isInf then none else some scaled
        else some (value / powerOfTen exponent.natAbs)
      else if value == 0 then some value
      else if 0 ≤ exponent then none
      else
        match steps with
        | 0 => some 0
        | steps + 1 => scaleBy steps (value / powerOfTen greatestPower) (exponent + greatestPower)

/-- The double `significand · 10 ^ exponent`; a 64-bit significand is zero after three
divisions by the greatest power. -/
def scaled? (significand : Nat) (exponent : Int) : Option Float :=
  scaleBy 3 (UInt64.ofNat significand).toFloat exponent

end Understudy.Decimal
