/-!
# Identifiers

Numbers of 128 bits that name mappings, and their text: thirty-two hexadecimal digits in groups
of eight, four, four, four and twelve.
-/

namespace Understudy

/-- The name of a mapping. -/
structure Identifier where
  number : BitVec 128
  deriving DecidableEq, Inhabited

namespace Identifier

/-- The identifier of a natural number. -/
def ofNat (number : Nat) : Identifier :=
  ⟨BitVec.ofNat 128 number⟩

/-- The thirty-two digits, the most significant one first. -/
def digits (identifier : Identifier) : List Char :=
  (List.range 32).map fun position =>
    Nat.digitChar (identifier.number.toNat >>> (4 * (31 - position)) % 16)

/-- The text of an identifier. -/
def text (identifier : Identifier) : String :=
  let digits := identifier.digits
  "-".intercalate <|
    [(0, 8), (8, 4), (12, 4), (16, 4), (20, 12)].map fun (start, length) =>
      String.ofList ((digits.drop start).take length)

end Identifier

end Understudy
