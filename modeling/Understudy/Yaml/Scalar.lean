import Understudy.Text.Hexadecimal
import Understudy.Yaml.Cursor

/-!
# Scalars of YAML

The text of a scalar in its three forms: plain, quoted, and as an indented block.  In the first
two, blanks around a line break are dropped, a single break becomes a space and further breaks
stay.  A block keeps its lines, or folds those that are not indented further.
-/

namespace Understudy.Yaml

/-- What stands between two words of a scalar. -/
inductive Joint where
  /-- Blanks on one line. -/
  | blanks (text : List Char)
  /-- Line breaks: the first, unless it is escaped, and the others. -/
  | breaks (first : Option Char) (others : List Char)

/-- The text that a joint contributes. -/
def Joint.text : Joint → List Char
  | .blanks text => text
  | .breaks none others => others
  | .breaks (some '\n') [] => [' ']
  | .breaks (some '\n') others => others
  | .breaks (some first) others => first :: others

/-- The joint with one more blank. -/
def Joint.addBlank (blank : Char) : Joint → Joint
  | .blanks text => .blanks (text ++ [blank])
  | joint => joint

/-- The joint with one more line break. -/
def Joint.addBreak (lineBreak : Char) : Joint → Joint
  | .blanks _ => .breaks (some lineBreak) []
  | .breaks first others => .breaks first (others ++ [lineBreak])

/-- Whether a line break is part of the joint. -/
def Joint.isBroken : Joint → Bool
  | .blanks _ => false
  | .breaks _ _ => true

/-- Reads a joint.  A tab in front of the column `margin` of a later line is refused. -/
def readJoint (margin : Nat) : Nat → Joint → Cursor → Option (Joint × Cursor)
  | 0, _, _ => none
  | fuel + 1, joint, cursor =>
      match cursor.rest with
      | [] => some (joint, cursor)
      | c :: _ =>
          if isBlank c then
            if joint.isBroken && cursor.column < margin && c = '\t' then none
            else readJoint margin fuel (joint.addBlank c) (cursor.skip 1)
          else if isBreak c then
            readJoint margin fuel (joint.addBreak (keptBreak c)) cursor.breakLine
          else some (joint, cursor)

/-- A text, the place behind it, and whether it was followed by a line break. -/
structure ScalarText where
  text : List Char
  cursor : Cursor
  broken : Bool

/-! ## Plain scalars -/

/-- The next word of a plain scalar.  In a flow collection its brackets and commas end a word,
and a colon in front of one of them is refused. -/
def plainWord (inFlow : Bool) : List Char → Option (List Char)
  | [] => some []
  | c :: rest =>
      if isBlank c || isBreak c then some []
      else if c = ':' then
        if inFlow && (rest.head?.any fun next => next ∈ [',', '?', '[', ']', '{', '}']) then none
        else if atGap rest then some []
        else (plainWord inFlow rest).map (c :: ·)
      else if inFlow && c ∈ [',', '[', ']', '{', '}'] then some []
      else (plainWord inFlow rest).map (c :: ·)

/-- Reads words and joints.  The scalar ends in front of a comment, a document mark, and outside
a flow collection a line that is not indented to the margin. -/
def readPlain (inFlow : Bool) (margin : Nat) :
    Nat → (text : List Char) → Joint → Cursor → Option ScalarText
  | 0, _, _, _ => none
  | fuel + 1, text, joint, cursor =>
      if cursor.atDocumentMark || cursor.rest.head? = some '#' then
        some ⟨text, cursor, joint.isBroken⟩
      else do
        let word ← plainWord inFlow cursor.rest
        let (grown, before) :=
          if word.isEmpty then (text, joint) else (text ++ joint.text ++ word, .blanks [])
        let behind := cursor.skip word.length
        if behind.rest.isEmpty || !atGap behind.rest then
          some ⟨grown, behind, before.isBroken⟩
        else
          let (next, cursor) ← readJoint margin (behind.rest.length + 1) before behind
          if !inFlow && cursor.column < margin then some ⟨grown, cursor, next.isBroken⟩
          else readPlain inFlow margin fuel grown next cursor

/-! ## Quoted scalars -/

/-- The characters that a letter behind a backslash stands for. -/
def escapedCharacter? : Char → Option Char
  | '0' => some '\x00'
  | 'a' => some '\x07'
  | 'b' => some '\x08'
  | 't' => some '\t'
  | '\t' => some '\t'
  | 'n' => some '\n'
  | 'v' => some '\x0b'
  | 'f' => some '\x0c'
  | 'r' => some '\r'
  | 'e' => some '\x1b'
  | ' ' => some ' '
  | '"' => some '"'
  | '/' => some '/'
  | '\\' => some '\\'
  | 'N' => some '\u0085'
  | '_' => some '\u00a0'
  | 'L' => some '\u2028'
  | 'P' => some '\u2029'
  | _ => none

/-- The number of hexadecimal digits behind a letter that announces a code point. -/
def codeLength? : Char → Option Nat
  | 'x' => some 2
  | 'u' => some 4
  | 'U' => some 8
  | _ => none

/-- The character of a code point, unless it is a surrogate or beyond the last one. -/
def character? (code : Nat) : Option Char :=
  if h : code.isValidChar then some (Char.ofNatAux code h) else none

/-- The character that an escape stands for, and the characters behind it. -/
def readEscape : List Char → Option (Char × List Char)
  | [] => none
  | letter :: rest =>
      match codeLength? letter with
      | some count => do
          let digits := rest.take count
          if digits.length < count then none
          else
            let code ← Text.hexNumber? digits
            (·, rest.drop count) <$> character? code
      | none => (·, rest) <$> escapedCharacter? letter

/-- The next word of a quoted scalar and the characters behind it. -/
def quotedWord (quote : Char) : Nat → List Char → Option (List Char × List Char)
  | 0, _ => none
  | _ + 1, [] => some ([], [])
  | fuel + 1, c :: rest => do
      if isBlank c || isBreak c then some ([], c :: rest)
      else if c = quote then
        if quote = '\'' && rest.head? = some '\'' then
          let (word, behind) ← quotedWord quote fuel (rest.drop 1)
          some (c :: word, behind)
        else some ([], c :: rest)
      else if quote = '"' && c = '\\' then
        if rest.head?.any isBreak then some ([], c :: rest)
        else
          let (escaped, unread) ← readEscape rest
          let (word, behind) ← quotedWord quote fuel unread
          some (escaped :: word, behind)
      else
        let (word, behind) ← quotedWord quote fuel rest
        some (c :: word, behind)

/-- Reads words and joints up to the closing quote. -/
def readQuoted (quote : Char) : Nat → (text : List Char) → Cursor → Option ScalarText
  | 0, _, _ => none
  | fuel + 1, text, cursor =>
      if cursor.atDocumentMark then none
      else do
        let (word, unread) ← quotedWord quote (cursor.rest.length + 1) cursor.rest
        let behind := cursor.skip (cursor.rest.length - unread.length)
        let c ← unread.head?
        if c = quote then some ⟨text ++ word, behind.skip 1, false⟩
        else
          let (joint, next) ←
            if c = '\\' then
              readJoint 0 (behind.rest.length + 1) (.breaks none []) (behind.skip 1).breakLine
            else readJoint 0 (behind.rest.length + 1) (.blanks []) behind
          readQuoted quote fuel (text ++ word ++ joint.text) next

/-! ## Block scalars -/

/-- What becomes of the line breaks at the end of a block. -/
inductive Chomping where
  | strip
  | clip
  | keep
  deriving DecidableEq

/-- The chomping that a character asks for. -/
def chomping? : Char → Option Chomping
  | '+' => some .keep
  | '-' => some .strip
  | _ => none

/-- The indentation that a digit asks for. -/
def increment? (c : Char) : Option Nat :=
  if '1' ≤ c && c ≤ '9' then some (c.toNat - '0'.toNat) else none

/-- The chomping and the indentation in the head of a block, in either order, and how many
characters they take. -/
def blockHead : List Char → Chomping × Option Nat × Nat
  | first :: second :: _ =>
      match chomping? first, increment? first with
      | some chomping, _ =>
          match increment? second with
          | some increment => (chomping, some increment, 2)
          | none => (chomping, none, 1)
      | none, some increment =>
          match chomping? second with
          | some chomping => (chomping, some increment, 2)
          | none => (.clip, some increment, 1)
      | none, none => (.clip, none, 0)
  | [first] => ((chomping? first).getD .clip, increment? first, 1)
  | [] => (.clip, none, 0)

/-- The blank lines in front of a line of a block, the deepest column that was reached, and the
place of the line.  Without a known indentation all spaces are skipped; a tab in their place is
refused. -/
def blankLines (indentation : Option Nat) :
    Nat → (deepest : Nat) → (breaks : List Char) → Cursor → Option (Nat × List Char × Cursor)
  | 0, _, _, _ => none
  | fuel + 1, deepest, breaks, cursor =>
      let spaces := (cursor.rest.takeWhile (· = ' ')).length
      let inner := cursor.skip (indentation.elim spaces fun column => min spaces (column - cursor.column))
      let reached := max deepest inner.column
      let shallow := indentation.all (inner.column < ·)
      match inner.rest with
      | [] => some (reached, breaks, inner)
      | c :: _ =>
          if shallow && c = '\t' then none
          else if isBreak c then
            blankLines indentation fuel reached (breaks ++ [keptBreak c]) inner.breakLine
          else some (reached, breaks, inner)

/-- The last line break of a block that is not yet part of its text, the breaks behind it, and
whether the line in front starts with a blank. -/
structure BlockTail where
  lineBreak : List Char
  others : List Char
  indented : Bool

/-- What the tail contributes in front of another line. -/
def BlockTail.joined (folded nextIndented : Bool) (tail : BlockTail) : List Char :=
  if folded && tail.lineBreak = ['\n'] && !tail.indented && !nextIndented then
    if tail.others.isEmpty then [' '] else tail.others
  else tail.lineBreak ++ tail.others

/-- Reads the lines of a block. -/
def readLines (folded : Bool) (column : Nat) :
    Nat → (text : List Char) → BlockTail → Cursor → Option (List Char × BlockTail × Cursor)
  | 0, _, _, _ => none
  | fuel + 1, text, tail, cursor =>
      match cursor.rest with
      | [] => some (text, tail, cursor)
      | c :: _ =>
          if cursor.column ≠ column then some (text, tail, cursor)
          else do
            let line := cursor.rest.takeWhile fun c => !isBreak c
            let behind := cursor.skip line.length
            let lineBreak := (behind.rest.head?.map keptBreak).toList
            let (_, others, next) ← blankLines (some column) (behind.rest.length + 1) 0 []
              behind.breakLine
            readLines folded column fuel (text ++ tail.joined folded (isBlank c) ++ line)
              ⟨lineBreak, others, isBlank c⟩ next

/-- Reads a block from behind its indicator; `outer` is the least column of its lines. -/
def readBlock (folded : Bool) (outer : Nat) (cursor : Cursor) : Option ScalarText := do
  let (chomping, increment, count) := blockHead cursor.rest
  let behind := ((cursor.skip count).skipWhile isBlank).skipComment
  if behind.rest.head?.any fun c => !isBreak c then none
  else
    let fuel := behind.rest.length + 1
    let known := increment.map fun increment => outer - 1 + increment
    let (deepest, breaks, first) ← blankLines known fuel 0 [] behind.breakLine
    let column := known.getD (max deepest (max outer 1))
    let (text, tail, next) ← readLines folded column fuel [] ⟨[], breaks, false⟩ first
    let lastBreak := if chomping = .strip then [] else tail.lineBreak
    let trailing := if chomping = .keep then tail.others else []
    some ⟨text ++ lastBreak ++ trailing, next, true⟩

end Understudy.Yaml
