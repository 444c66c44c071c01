/-!
# Searching and splitting

Splitting of character lists at a separator, and search for a pattern under any comparison of
single characters.  `replaceAll` replaces the leftmost occurrence, then goes on behind it.
-/

namespace Understudy.Text

/-- The pieces between the separators; there is always one more piece than separators. -/
def splitAtEach (separator : Char) : List Char → List (List Char)
  | [] => [[]]
  | c :: rest =>
      if c = separator then [] :: splitAtEach separator rest
      else
        match splitAtEach separator rest with
        | [] => [[c]]
        | piece :: pieces => (c :: piece) :: pieces

/-- The parts before and after the first separator, if there is one. -/
def splitAtFirst (separator : Char) : List Char → Option (List Char × List Char)
  | [] => none
  | c :: rest =>
      if c = separator then some ([], rest)
      else (splitAtFirst separator rest).map fun (before, after) => (c :: before, after)

/-- The pieces joined again, with the separator between them. -/
def joinWith (separator : List Char) : List (List Char) → List Char
  | [] => []
  | [piece] => piece
  | piece :: pieces => piece ++ separator ++ joinWith separator pieces

/-- Whether `pattern` occurs at the start of the characters, under the comparison `same`. -/
def startsWithBy (same : Char → Char → Bool) : List Char → List Char → Bool
  | [], _ => true
  | _ :: _, [] => false
  | wanted :: pattern, c :: rest => same wanted c && startsWithBy same pattern rest

/-- Whether `pattern` is the start of the characters. -/
def startsWith (pattern characters : List Char) : Bool :=
  pattern.isPrefixOf characters

/-- Whether `pattern` is the end of the characters. -/
def endsWith (pattern characters : List Char) : Bool :=
  pattern.isSuffixOf characters

/-- Whether `pattern` occurs anywhere in the characters. -/
def contains (pattern : List Char) : List Char → Bool
  | [] => pattern.isEmpty
  | c :: rest => startsWith pattern (c :: rest) || contains pattern rest

/-- The replacement of every occurrence of `old` once `skip` more characters of the last
occurrence have been passed. -/
def replaceFrom (same : Char → Char → Bool) (old new : List Char) :
    Nat → List Char → List Char
  | _, [] => []
  | 0, c :: rest =>
      if startsWithBy same old (c :: rest) then
        new ++ replaceFrom same old new (old.length - 1) rest
      else c :: replaceFrom same old new 0 rest
  | skip + 1, _ :: rest => replaceFrom same old new skip rest

/-- Every occurrence of `old` replaced by `new`, leftmost first and without overlaps; an empty
`old` occurs nowhere. -/
def replaceAll (same : Char → Char → Bool) (old new characters : List Char) : List Char :=
  if old.isEmpty then characters else replaceFrom same old new 0 characters

theorem splitAtEach_ne_nil (separator : Char) (characters : List Char) :
    splitAtEach separator characters ≠ [] := by
  cases characters with
  | nil => simp [splitAtEach]
  | cons c rest =>
      simp only [splitAtEach]
      split
      · simp
      · split <;> simp

end Understudy.Text
