/-!
# Shortest decimals

The decimal with the fewest digits that reads back as a given double, and of those the one
nearest to it.  A finite double is taken apart into `mantissa · 2 ^ exponent`; the decimals that
read back as it form an interval around it, and each grid of decimals of equal length is tested
at the two neighbours of the value in exact integer arithmetic.
-/

namespace Understudy.Decimal

/-- The magnitude `mantissa · 2 ^ exponent` of a finite double. -/
structure Magnitude where
  mantissa : Nat
  exponent : Int
  deriving Repr, DecidableEq

/-- The magnitude of a double that is neither infinite nor a NaN. -/
def Magnitude.of (value : Float) : Magnitude :=
  let bits := value.toBits.toNat
  let fraction : Nat := bits % 0x10000000000000
  let biased : Nat := bits / 0x10000000000000 % 0x800
  if biased = 0 then ⟨fraction, -1074⟩ else ⟨0x10000000000000 + fraction, (biased : Int) - 1075⟩

/-- Whether the sign bit of a double is set. -/
def isNegative (value : Float) : Bool :=
  0x8000000000000000 ≤ value.toBits.toNat

/-- The decimal `digits · 10 ^ exponent`. -/
structure Digits where
  digits : Nat
  exponent : Int
  deriving Repr, DecidableEq

/-- Numerator and denominator of `base ^ exponent`. -/
def power (base : Nat) (exponent : Int) : Nat × Nat :=
  if 0 ≤ exponent then (base.pow exponent.toNat, 1) else (1, base.pow (-exponent).toNat)

/-- The interval of rationals that round to a magnitude, as multiples of one unit
`numerator / denominator`; the ends belong to it when `closed`. -/
structure Interval where
  lower : Nat
  middle : Nat
  upper : Nat
  numerator : Nat
  denominator : Nat
  closed : Bool

/-- The interval of a non-zero magnitude; below a power of two the doubles lie twice as
dense. -/
def Interval.of (magnitude : Magnitude) : Interval :=
  let unit := power 2 (magnitude.exponent - 2)
  let isPower := magnitude.mantissa = 0x10000000000000 ∧ -1074 < magnitude.exponent
  let lowerGap := if isPower then 1 else 2
  { lower := 4 * magnitude.mantissa - lowerGap
    middle := 4 * magnitude.mantissa
    upper := 4 * magnitude.mantissa + 2
    numerator := unit.1
    denominator := unit.2
    closed := magnitude.mantissa % 2 = 0 }

/-- Whether `digits · 10 ^ exponent` lies in the interval. -/
def Interval.holds (interval : Interval) (decimal : Digits) : Bool :=
  let scale := power 10 decimal.exponent
  let point := decimal.digits * scale.1 * interval.denominator
  let lower := interval.lower * interval.numerator * scale.2
  let upper := interval.upper * interval.numerator * scale.2
  if interval.closed then lower ≤ point && point ≤ upper else lower < point && point < upper

/-- The number of decimal digits before the point of the middle, not positive for a value
below one tenth. -/
def Interval.leadingExponent (interval : Interval) : Int :=
  let value := interval.middle * interval.numerator
  if interval.denominator ≤ value then
    ((Nat.toDigits 10 (value / interval.denominator)).length : Int)
  else
    let reaches := fun zeros : Nat => interval.denominator ≤ value * Nat.pow 10 (zeros + 1)
    match (List.range 400).find? reaches with
    | some zeros => -(zeros : Int)
    | none => 0

/-- The decimal in the interval whose last digit has the weight `10 ^ exponent`, the nearer of
the two neighbours of the middle. -/
def Interval.onGrid? (interval : Interval) (exponent : Int) : Option Digits :=
  let scale := power 10 exponent
  let value := interval.middle * interval.numerator * scale.2
  let step := interval.denominator * scale.1
  let below : Digits := ⟨value / step, exponent⟩
  let above : Digits := ⟨value / step + 1, exponent⟩
  match interval.holds below, interval.holds above with
  | true, true => some (if 2 * (value % step) ≤ step then below else above)
  | true, false => some below
  | false, true => some above
  | false, false => none

/-- The digits without final zeros. -/
def Digits.normalize : Nat → Digits → Digits
  | 0, decimal => decimal
  | fuel + 1, decimal =>
      if decimal.digits ≠ 0 ∧ decimal.digits % 10 = 0 then
        Digits.normalize fuel ⟨decimal.digits / 10, decimal.exponent + 1⟩
      else decimal

/-- The shortest decimal that reads back as the magnitude of a finite double. -/
def shortest (value : Float) : Digits :=
  let magnitude := Magnitude.of value
  if magnitude.mantissa = 0 then ⟨0, 0⟩
  else
    let interval := Interval.of magnitude
    let leading := interval.leadingExponent
    let found := (List.range 17).findSome? fun count =>
      interval.onGrid? (leading - (count + 1 : Nat))
    Digits.normalize 400 (found.getD ⟨magnitude.mantissa, magnitude.exponent⟩)

end Understudy.Decimal
