import Understudy.Text.Hexadecimal

/-!
# Network addresses

Addresses of clients and their canonical text: dotted octets for version 4; for version 6 groups
of hexadecimal digits with the first longest run of at least two zero groups left out, and the
dotted form behind the prefix of mapped version 4 addresses.
-/

namespace Understudy.Http

/-- An address of either version; version 6 has eight groups. -/
inductive Address where
  | v4 (first second third fourth : Nat)
  | v6 (groups : List Nat)
  deriving DecidableEq, Repr

namespace Address

/-- Where the first longest run of zeros begins, its length, and the state of the run being
read: its length and the position behind it. -/
def longestZeros : Nat → Nat → Nat × Nat → List Nat → Nat × Nat
  | _, _, best, [] => best
  | position, current, best, group :: rest =>
      if group = 0 then
        let length := current + 1
        let better := if best.2 < length then (position + 1 - length, length) else best
        longestZeros (position + 1) length better rest
      else longestZeros (position + 1) 0 best rest

/-- The groups in hexadecimal with colons between them. -/
def groupText (groups : List Nat) : String :=
  ":".intercalate (groups.map fun group => String.ofList (Nat.toDigits 16 group))

/-- Four octets with dots between them. -/
def dotted (first second third fourth : Nat) : String :=
  ".".intercalate ([first, second, third, fourth].map toString)

/-- The canonical text of an address. -/
def text : Address → String
  | .v4 first second third fourth => dotted first second third fourth
  | .v6 groups =>
      match groups with
      | [0, 0, 0, 0, 0, 0xFFFF, high, low] =>
          "::ffff:" ++ dotted (high / 256) (high % 256) (low / 256) (low % 256)
      | _ =>
          let (start, length) := longestZeros 0 0 (0, 0) groups
          if 1 < length then
            groupText (groups.take start) ++ "::" ++ groupText (groups.drop (start + length))
          else groupText groups

/-- The value of a decimal octet without superfluous zeros. -/
def octet? (text : String) : Option Nat :=
  let digits := text.toList
  if digits.isEmpty || 3 < digits.length || !digits.all Char.isDigit ||
      (1 < digits.length && digits.head? == some '0') then none
  else
    let value := digits.foldl (fun value digit => value * 10 + (digit.toNat - '0'.toNat)) 0
    if value < 256 then some value else none

/-- The octets of a dotted text. -/
def octets? (text : String) : Option (Nat × Nat × Nat × Nat) :=
  match text.splitOn "." with
  | [first, second, third, fourth] => do
      return (← octet? first, ← octet? second, ← octet? third, ← octet? fourth)
  | _ => none

/-- The value of a group of one to four hexadecimal digits. -/
def group? (text : String) : Option Nat :=
  let digits := text.toList
  if digits.isEmpty || 4 < digits.length then none else Text.hexNumber? digits

/-- The groups of a part without a gap; a last dotted part stands for two groups. -/
def groups? (parts : List String) : Option (List Nat) :=
  match parts with
  | [] => some []
  | [last] =>
      match octets? last with
      | some (first, second, third, fourth) =>
          some [first * 256 + second, third * 256 + fourth]
      | none => (group? last).map fun group => [group]
  | part :: rest => do
      let group ← group? part
      let groups ← groups? rest
      return group :: groups

/-- The groups on one side of a gap. -/
def side? (text : String) : Option (List Nat) :=
  if text.isEmpty then some [] else groups? (text.splitOn ":")

/-- The address that a text denotes. -/
def parse? (text : String) : Option Address :=
  match octets? text with
  | some (first, second, third, fourth) => some (.v4 first second third fourth)
  | none =>
      match text.splitOn "::" with
      | [whole] => do
          let groups ← groups? (whole.splitOn ":")
          if groups.length = 8 then some (.v6 groups) else none
      | [front, back] => do
          let before ← side? front
          let after ← side? back
          if before.length + after.length < 8 then
            some (.v6 (before ++ List.replicate (8 - before.length - after.length) 0 ++ after))
          else none
      | _ => none

end Address

end Understudy.Http
