import Understudy.Json.Value
import Understudy.Decimal.Notation
import Understudy.Text.Hexadecimal

/-!
# Compact JSON text

The text of a value without white space.  Doubles always show that they are doubles: a whole
one ends in `.0`, and very large or small ones have an exponent.
-/

namespace Understudy.Json

/-- Doubles are written in place while the first digit stands from the fifth place behind the
point to the sixteenth before it, and a whole one ends in `.0`. -/
def decimalLayout : Decimal.Layout where
  inPlace := some (-5, 15)
  wholeMark := ".0"

/-- A character inside quotes. -/
def escape (c : Char) : List Char :=
  match c with
  | '"' => ['\\', '"']
  | '\\' => ['\\', '\\']
  | '\n' => ['\\', 'n']
  | '\r' => ['\\', 'r']
  | '\t' => ['\\', 't']
  | other =>
      if other.toNat = 8 then ['\\', 'b']
      else if other.toNat = 12 then ['\\', 'f']
      else if other.toNat < 32 then
        ['\\', 'u', '0', '0', Text.hexDigit (other.toNat / 16), Text.hexDigit (other.toNat % 16)]
      else [other]

/-- A text in quotes. -/
def quote (value : String) : List Char :=
  '"' :: value.toList.flatMap escape ++ ['"']

mutual

/-- The characters of a value. -/
def render : Json → List Char
  | .null => "null".toList
  | .boolean value => if value then "true".toList else "false".toList
  | .integer value => (toString value).toList
  | .decimal value =>
      if value.isNaN || value.isInf then "null".toList
      else (Decimal.text decimalLayout value).toList
  | .text value => quote value
  | .array items => '[' :: renderItems items ++ [']']
  | .object members => '{' :: renderMembers members ++ ['}']

/-- The characters of items with commas between them. -/
def renderItems : List Json → List Char
  | [] => []
  | [item] => render item
  | item :: items => render item ++ ',' :: renderItems items

/-- The characters of members with commas between them. -/
def renderMembers : List (String × Json) → List Char
  | [] => []
  | [(key, value)] => quote key ++ ':' :: render value
  | (key, value) :: members =>
      quote key ++ ':' :: render value ++ ',' :: renderMembers members

end

/-- The compact text of a value. -/
def compact (value : Json) : String :=
  String.ofList (render value)

end Understudy.Json
