import Understudy.Text.CaseTable

/-!
# Upper and lower case

Full Unicode case mapping of texts, and the mapping and comparison that know ASCII letters only.
A capital sigma becomes the final form where a cased character precedes it and none follows it,
case-ignorable characters aside.
-/

namespace Understudy.Text

/-- A character with the property Cased. -/
def isCased (c : Char) : Bool :=
  inRuns casedRuns c.toNat

/-- A character with the property Case_Ignorable. -/
def isCaseIgnorable (c : Char) : Bool :=
  inRuns caseIgnorableRuns c.toNat

/-- The character moved by the distance that `shifts` gives for it. -/
def shiftChar (shifts : List CaseShift) (c : Char) : Char :=
  Char.ofNat ((c.toNat : Int) + shiftOf shifts c.toNat).toNat

/-- The lower case of one character outside any context. -/
def lowerChar (c : Char) : List Char :=
  if c.toNat < 0x80 then [c.toLower]
  else if c = 'İ' then ['i', '\u0307']
  else [shiftChar lowerShifts c]

/-- The upper case of one character. -/
def upperChar (c : Char) : List Char :=
  if c.toNat < 0x80 then [c.toUpper]
  else
    match upperExpansions.lookup c.toNat with
    | some points => points.map Char.ofNat
    | none => [shiftChar upperShifts c]

/-- Whether the first character that is not case-ignorable is cased. -/
def startsCased (characters : List Char) : Bool :=
  match characters.dropWhile isCaseIgnorable with
  | [] => false
  | c :: _ => isCased c

/-- Lower case of the characters, where `before` holds those already passed, the last one
first. -/
def lowerAfter (before : List Char) : List Char → List Char
  | [] => []
  | c :: rest =>
      let lowered :=
        if c = 'Σ' then
          if startsCased before && !startsCased rest then ['ς'] else ['σ']
        else lowerChar c
      lowered ++ lowerAfter (c :: before) rest

/-- The lower case of a text. -/
def toLower (text : String) : String :=
  String.ofList (lowerAfter [] text.toList)

/-- The upper case of a text. -/
def toUpper (text : String) : String :=
  String.ofList (text.toList.flatMap upperChar)

/-- The text with ASCII capitals made small and all else kept. -/
def asciiLower (text : String) : String :=
  String.ofList (text.toList.map Char.toLower)

/-- Equality of characters up to the case of ASCII letters. -/
def sameLetter (first second : Char) : Bool :=
  first.toLower == second.toLower

/-- Equality of texts up to the case of ASCII letters. -/
def sameIgnoringAsciiCase (first second : String) : Bool :=
  asciiLower first == asciiLower second

end Understudy.Text
