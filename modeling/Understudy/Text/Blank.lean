/-!
# White space

The characters with the Unicode property White_Space, and the removal of them from the ends of
a text.  A trimmed text neither starts nor ends with one of them.
-/

namespace Understudy.Text

/-- A character with the property White_Space. -/
def isBlank (c : Char) : Bool :=
  let point := c.toNat
  (0x9 ≤ point && point ≤ 0xD) || point == 0x20 || point == 0x85 || point == 0xA0 ||
    point == 0x1680 || (0x2000 ≤ point && point ≤ 0x200A) || point == 0x2028 ||
    point == 0x2029 || point == 0x202F || point == 0x205F || point == 0x3000

/-- The list without the longest final run of elements that satisfy `test`. -/
def dropWhileEnd {α : Type} (test : α → Bool) (items : List α) : List α :=
  (items.reverse.dropWhile test).reverse

/-- The characters without white space at either end. -/
def trimChars (characters : List Char) : List Char :=
  dropWhileEnd isBlank (characters.dropWhile isBlank)

/-- The text without white space at either end. -/
def trim (text : String) : String :=
  String.ofList (trimChars text.toList)

/-- Whether the text holds nothing but white space. -/
def isBlankText (text : String) : Bool :=
  text.toList.all isBlank

/-- The first character that is not white space. -/
def firstVisible? (text : String) : Option Char :=
  text.toList.find? fun c => !isBlank c

@[simp]
theorem trimChars_nil : trimChars [] = [] :=
  rfl

end Understudy.Text
