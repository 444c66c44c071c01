import Understudy.Decimal.Shortest

/-!
# Decimal notation of doubles

The text of a double is its shortest decimal in a layout.  A layout says for which magnitudes
the digits are written out in place and what marks a whole number; outside that range the text
has one digit before the point and an exponent with its sign.
-/

namespace Understudy.Decimal

/-- How the digits of a double are laid out. -/
structure Layout where
  /-- Least and greatest exponent of the first digit written in place; `none` for all. -/
  inPlace : Option (Int × Int)
  /-- What follows a whole number written in place, and a zero. -/
  wholeMark : String

/-- Digits in place at every magnitude, nothing after a whole number. -/
def plain : Layout where
  inPlace := none
  wholeMark := ""

/-- Whether a first digit of that exponent is written in place. -/
def Layout.writesInPlace (layout : Layout) (exponent : Int) : Bool :=
  match layout.inPlace with
  | none => true
  | some (least, greatest) => least ≤ exponent && exponent ≤ greatest

/-- The digits written in place, with `scale` the exponent of the last one. -/
def inPlaceText (layout : Layout) (digits : List Char) (scale : Int) : List Char :=
  if 0 ≤ scale then
    digits ++ List.replicate scale.toNat '0' ++ layout.wholeMark.toList
  else
    let places := (-scale).toNat
    if digits.length ≤ places then
      ['0', '.'] ++ List.replicate (places - digits.length) '0' ++ digits
    else
      digits.take (digits.length - places) ++ '.' :: digits.drop (digits.length - places)

/-- The digits with an exponent, `leading` that of the first digit. -/
def scientificText (digits : List Char) (leading : Int) : List Char :=
  let significand :=
    match digits with
    | [] => []
    | [digit] => [digit]
    | digit :: rest => digit :: '.' :: rest
  let sign := if leading < 0 then '-' else '+'
  significand ++ 'e' :: sign :: Nat.toDigits 10 leading.natAbs

/-- The text of a finite double without its sign. -/
def magnitudeText (layout : Layout) (value : Float) : List Char :=
  let decimal := shortest value
  let digits := Nat.toDigits 10 decimal.digits
  let leading := decimal.exponent + digits.length - 1
  if layout.writesInPlace leading then inPlaceText layout digits decimal.exponent
  else scientificText digits leading

/-- The text of a double. -/
def text (layout : Layout) (value : Float) : String :=
  if value.isNaN then "NaN"
  else
    let sign := if isNegative value then ['-'] else []
    let magnitude := if value.isInf then "inf".toList else magnitudeText layout value
    String.ofList (sign ++ magnitude)

end Understudy.Decimal
