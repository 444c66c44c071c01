/-!
# Hexadecimal digits

Digits of either case, numbers of several digits, and octets as two digits each.
-/

namespace Understudy.Text

/-- The value of a digit in either case. -/
def hexValue? (c : Char) : Option Nat :=
  if '0' ≤ c ∧ c ≤ '9' then some (c.toNat - '0'.toNat)
  else if 'a' ≤ c ∧ c ≤ 'f' then some (c.toNat - 'a'.toNat + 10)
  else if 'A' ≤ c ∧ c ≤ 'F' then some (c.toNat - 'A'.toNat + 10)
  else none

/-- The number that digits write, the most significant one first. -/
def hexNumber? (digits : List Char) : Option Nat :=
  digits.foldlM (fun number digit => (number * 16 + ·) <$> hexValue? digit) 0

/-- The digit of a value below sixteen, in lower case. -/
def hexDigit (value : Nat) : Char :=
  Nat.digitChar value

/-- The digit of a value below sixteen, in upper case. -/
def hexCapital (value : Nat) : Char :=
  (Nat.digitChar value).toUpper

/-- The two digits of an octet under a choice of digits. -/
def hexPair (digit : Nat → Char) (octet : UInt8) : List Char :=
  [digit (octet.toNat / 16), digit (octet.toNat % 16)]

/-- The octets as digits in lower case. -/
def hexOfOctets (octets : ByteArray) : String :=
  String.ofList (octets.data.toList.flatMap (hexPair hexDigit))

/-- The octets that pairs of digits write. -/
def readHexPairs : List Char → Option (List UInt8)
  | [] => some []
  | [_] => none
  | high :: low :: rest => do
      let octet ← hexNumber? [high, low]
      (UInt8.ofNat octet :: ·) <$> readHexPairs rest

/-- The octets of a text of digits. -/
def octetsOfHex? (text : String) : Option ByteArray :=
  (readHexPairs text.toList).map List.toByteArray

end Understudy.Text
