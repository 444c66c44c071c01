import Understudy.Regex.Expression
import Understudy.Text.Blank
import Understudy.Text.Hexadecimal

/-!
# Reading regular expressions

The reader of patterns: alternatives, groups, flags, counted repetitions, bracketed classes with
nesting and set operations, escapes and named sets.  There are no back-references and no
look-around.  A pattern that breaks a rule has no expression, and so has one whose written-out
size is beyond `sizeLimit` or whose nesting is deeper than `depthLimit`.
-/

namespace Understudy.Regex

/-- The settings under which a part of a pattern is read. -/
structure Flags where
  ignoreCase : Bool := false
  multiLine : Bool := false
  dotAll : Bool := false
  anyLineEnd : Bool := false
  unicode : Bool := true
  verbose : Bool := false
  deriving DecidableEq, Repr

/-- The characters behind a comment. -/
def skipComment (characters : List Char) : List Char :=
  (characters.dropWhile (· != '\n')).drop 1

/-- The characters behind white space and comments; `bound` is at least their number. -/
def skipVerboseFrom : Nat → List Char → List Char
  | 0, characters => characters
  | _ + 1, [] => []
  | bound + 1, c :: rest =>
      if Text.isBlank c then skipVerboseFrom bound rest
      else if c = '#' then skipVerboseFrom bound (skipComment rest)
      else c :: rest

/-- The characters behind what a verbose pattern ignores. -/
def Flags.skip (flags : Flags) (characters : List Char) : List Char :=
  if flags.verbose then skipVerboseFrom characters.length characters else characters

/-- The character of a code point that is none of the surrogates. -/
def scalar? (point : Nat) : Option Char :=
  if point < 0xD800 ∨ (0xDFFF < point ∧ point < 0x110000) then some (Char.ofNat point) else none

/-- The character of hexadecimal digits. -/
def hexChar? (digits : List Char) : Option Char :=
  if digits.isEmpty then none else (Text.hexNumber? digits).bind scalar?

/-- What one escape or character means. -/
inductive Atom where
  | literal (c : Char)
  | octet (c : Char)
  | ofSet (members : CharSet)
  | ofAnchor (condition : Anchor)

/-- The set of one character under the flags. -/
def literalSet (flags : Flags) (c : Char) : CharSet :=
  if !flags.ignoreCase then .single c
  else if flags.unicode then .folded (.single c)
  else if c.toNat < 0x80 then .intersection (.folded (.single c)) (.runs [⟨0, 0x7F, 1⟩])
  else .single c

/-- A set closed under case folding if the flags ask for it. -/
def foldedSet (flags : Flags) (set : CharSet) : CharSet :=
  if !flags.ignoreCase then set
  else if flags.unicode then .folded set
  else .intersection (.folded set) (.runs [⟨0, 0x7F, 1⟩])

/-- A set or its complement; without Unicode a complement is refused, as it holds octets that
are no text. -/
def negatedSet? (flags : Flags) (negated : Bool) (set : CharSet) : Option CharSet :=
  if !negated then some set
  else if flags.unicode then some (.complement set)
  else none

/-- A hexadecimal escape behind its letter, with a fixed count of digits outside braces. -/
def readHex (flags : Flags) (count : Nat) (characters : List Char) :
    Option (Atom × List Char) :=
  match flags.skip characters with
  | '{' :: rest => do
      let digits := rest.takeWhile (· != '}')
      match rest.dropWhile (· != '}') with
      | '}' :: behind => return (.literal (← hexChar? digits), behind)
      | _ => none
  | rest =>
      if rest.length < count then none
      else do
        let c ← hexChar? (rest.take count)
        return (if count = 2 then .octet c else .literal c, rest.drop count)

/-- The position of a pair of characters in a list, with the parts around it. -/
def splitAtPair (first second : Char) : List Char → Option (List Char × List Char)
  | a :: b :: rest =>
      if a = first ∧ b = second then some ([], rest)
      else (splitAtPair first second (b :: rest)).map fun (before, after) => (a :: before, after)
  | _ => none

/-- The parts of a list around the first occurrence of a character. -/
def splitAtChar (separator : Char) (characters : List Char) : Option (List Char × List Char) :=
  match characters.dropWhile (· != separator) with
  | [] => none
  | _ :: after => some (characters.takeWhile (· != separator), after)

/-- The set named inside the braces of a Unicode class, and whether it is excluded. -/
def namedClass? (name : List Char) : Option (CharSet × Bool) :=
  match splitAtPair '!' '=' name with
  | some (property, value) =>
      (valuedSet? (String.ofList property) (String.ofList value)).map fun set => (set, true)
  | none =>
      match (splitAtChar ':' name).orElse fun _ => splitAtChar '=' name with
      | some (property, value) =>
          (valuedSet? (String.ofList property) (String.ofList value)).map fun set => (set, false)
      | none => (namedSet? (String.ofList name)).map fun set => (set, false)

/-- A Unicode class behind its letter. -/
def readUnicodeClass (flags : Flags) (negated : Bool) (characters : List Char) :
    Option (Atom × List Char) :=
  if !flags.unicode then none
  else
    match flags.skip characters with
    | [] => none
    | '\\' :: _ => none
    | '{' :: rest => do
        let name := rest.takeWhile (· != '}')
        match rest.dropWhile (· != '}') with
        | '}' :: behind =>
            let (set, excluded) ← namedClass? name
            let folded := foldedSet flags set
            return (.ofSet (if negated != excluded then .complement folded else folded), behind)
        | _ => none
    | letter :: rest => do
        let set ← namedSet? (String.ofList [letter])
        let folded := foldedSet flags set
        return (.ofSet (if negated then .complement folded else folded), rest)

/-- A class of one letter: digits, white space or word characters. -/
def letterClass? (flags : Flags) (letter : Char) : Option CharSet :=
  match letter with
  | 'd' => some (if flags.unicode then digitSet else asciiDigitSet)
  | 's' => some (if flags.unicode then spaceSet else asciiSpaceSet)
  | 'w' => some (if flags.unicode then wordSet else asciiWordSet)
  | _ => none

/-- The anchor in braces behind a word boundary, if the braces name one. -/
def readBoundary (flags : Flags) (characters : List Char) : Option (Atom × List Char) :=
  let ascii := !flags.unicode
  let plain := some (Atom.ofAnchor (.wordBoundary ascii), characters)
  match characters with
  | '{' :: rest =>
      let name := rest.takeWhile fun c => c.isAlpha || c = '-'
      match flags.skip (rest.dropWhile fun c => c.isAlpha || c = '-') with
      | '}' :: behind =>
          match String.ofList name with
          | "start" => some (.ofAnchor (.wordStart ascii), behind)
          | "end" => some (.ofAnchor (.wordEnd ascii), behind)
          | "start-half" => some (.ofAnchor (.wordStartHalf ascii), behind)
          | "end-half" => some (.ofAnchor (.wordEndHalf ascii), behind)
          | "" => plain
          | _ => none
      | [] => if name.isEmpty then plain else none
      | _ => if name.isEmpty then plain else none
  | _ => plain

/-- An escape behind its backslash. -/
def readEscape (flags : Flags) (characters : List Char) : Option (Atom × List Char) :=
  match characters with
  | [] => none
  | 'x' :: rest => readHex flags 2 rest
  | 'u' :: rest => readHex flags 4 rest
  | 'U' :: rest => readHex flags 8 rest
  | 'p' :: rest => readUnicodeClass flags false rest
  | 'P' :: rest => readUnicodeClass flags true rest
  | 'a' :: rest => some (.literal '\x07', rest)
  | 'f' :: rest => some (.literal '\x0c', rest)
  | 't' :: rest => some (.literal '\t', rest)
  | 'n' :: rest => some (.literal '\n', rest)
  | 'r' :: rest => some (.literal '\r', rest)
  | 'v' :: rest => some (.literal '\x0b', rest)
  | 'A' :: rest => some (.ofAnchor .startText, rest)
  | 'z' :: rest => some (.ofAnchor .endText, rest)
  | 'b' :: rest => readBoundary flags rest
  | 'B' :: rest => some (.ofAnchor (.noWordBoundary !flags.unicode), rest)
  | '<' :: rest => some (.ofAnchor (.wordStart !flags.unicode), rest)
  | '>' :: rest => some (.ofAnchor (.wordEnd !flags.unicode), rest)
  | letter :: rest =>
      match letterClass? flags letter.toLower with
      | some set => do
          let negated := letter.isUpper
          return (.ofSet (← negatedSet? flags negated set), rest)
      | none =>
          if letter.toNat < 0x80 && !letter.isAlphanum then some (.literal letter, rest) else none

/-- One character or escape inside brackets. -/
def readClassAtom (flags : Flags) (characters : List Char) : Option (Atom × List Char) :=
  match characters with
  | [] => none
  | '\\' :: rest => readEscape flags rest
  | c :: rest => some (.literal c, rest)

/-- The character of an atom that is a literal. -/
def Atom.char? : Atom → Option Char
  | .literal c => some c
  | .octet c => some c
  | _ => none

/-- Whether a literal may stand in a class or pattern under the flags: without Unicode an octet
beyond ASCII is no text, and a class knows ASCII only. -/
def allowedLiteral (flags : Flags) (inClass : Bool) : Atom → Bool
  | .octet c => flags.unicode || c.toNat < 0x80
  | .literal c => flags.unicode || !inClass || c.toNat < 0x80
  | _ => true

/-- A range, a character or a set inside brackets. -/
def readClassItem (flags : Flags) (characters : List Char) : Option (CharSet × List Char) := do
  let (first, rest) ← readClassAtom flags characters
  if !allowedLiteral flags true first then none
  else
    let single : Option (CharSet × List Char) :=
      match first with
      | .literal c => some (.single c, flags.skip rest)
      | .octet c => some (.single c, flags.skip rest)
      | .ofSet set => some (set, flags.skip rest)
      | .ofAnchor _ => none
    match flags.skip rest with
    | [] => none
    | '-' :: behind =>
        match flags.skip behind with
        | ']' :: _ => single
        | '-' :: _ => single
        | [] => none
        | next => do
            let (last, after) ← readClassAtom flags next
            let least ← first.char?
            let greatest ← last.char?
            if allowedLiteral flags true last && least ≤ greatest then
              return (.between least greatest, after)
            else none
    | _ => single

/-- A bracketed ASCII class, behind its first bracket. -/
def readAsciiClass (characters : List Char) : Option (CharSet × List Char) :=
  match characters with
  | ':' :: rest =>
      let (negated, named) :=
        match rest with
        | '^' :: named => (true, named)
        | named => (false, named)
      match named.dropWhile (· != ':') with
      | ':' :: ']' :: behind => do
          let set ← asciiClass? (String.ofList (named.takeWhile (· != ':')))
          return (if negated then .complement set else set, behind)
      | _ => none
  | _ => none

/-- The operations between the operands of a class. -/
inductive SetOperation where
  | intersection
  | difference
  | symmetricDifference

/-- The set of an operation. -/
def SetOperation.apply : SetOperation → CharSet → CharSet → CharSet
  | .intersection, first, second => .intersection first second
  | .difference, first, second => CharSet.difference first second
  | .symmetricDifference, first, second => CharSet.symmetricDifference first second

/-- What has been read of a class: the operand so far and what goes before it. -/
structure OpenClass where
  negated : Bool
  items : List CharSet
  before : Option (CharSet × SetOperation)

/-- The operand and all that goes before it as one set. -/
def OpenClass.operand (flags : Flags) (opened : OpenClass) : CharSet :=
  let items := CharSet.unions opened.items.reverse
  match opened.before with
  | none => items
  | some (first, operation) => operation.apply (foldedSet flags first) (foldedSet flags items)

/-- The class with one more item. -/
def OpenClass.add (opened : OpenClass) (item : CharSet) : OpenClass :=
  { opened with items := item :: opened.items }

/-- The class with an operation behind what has been read. -/
def OpenClass.operate (flags : Flags) (opened : OpenClass) (operation : SetOperation) :
    OpenClass :=
  { opened with items := [], before := some (opened.operand flags, operation) }

/-- The hyphens at the start of a class, which are literal. -/
def readLeadingHyphens (flags : Flags) (bound : Nat) (opened : OpenClass)
    (characters : List Char) : OpenClass × List Char :=
  match bound, characters with
  | bound + 1, '-' :: rest =>
      readLeadingHyphens flags bound (opened.add (.single '-')) (flags.skip rest)
  | _, rest => (opened, rest)

/-- The start of a class behind its bracket: negation, and hyphens or a bracket that are
literal. -/
def readClassStart (flags : Flags) (characters : List Char) : OpenClass × List Char :=
  let (negated, rest) :=
    match flags.skip characters with
    | '^' :: rest => (true, flags.skip rest)
    | rest => (false, rest)
  let (opened, behind) := readLeadingHyphens flags rest.length ⟨negated, [], none⟩ rest
  match opened.items, behind with
  | [], ']' :: more => (opened.add (.single ']'), flags.skip more)
  | _, _ => (opened, behind)

/-- The rest of a class, with at most `bound` characters to come. -/
def readClass (flags : Flags) : Nat → OpenClass → List Char → Option (CharSet × List Char)
  | 0, _, _ => none
  | bound + 1, opened, characters =>
      match flags.skip characters with
      | [] => none
      | '[' :: rest =>
          match readAsciiClass rest with
          | some (set, behind) =>
              if flags.unicode then readClass flags bound (opened.add set) behind
              else
                match set with
                | .complement _ => none
                | _ => readClass flags bound (opened.add set) behind
          | none => do
              let (inner, behind) := readClassStart flags rest
              let (set, after) ← readClass flags bound inner behind
              readClass flags bound (opened.add set) after
      | ']' :: rest => do
          let set ← negatedSet? flags opened.negated (foldedSet flags (opened.operand flags))
          return (set, rest)
      | '&' :: '&' :: rest => readClass flags bound (opened.operate flags .intersection) rest
      | '-' :: '-' :: rest => readClass flags bound (opened.operate flags .difference) rest
      | '~' :: '~' :: rest =>
          readClass flags bound (opened.operate flags .symmetricDifference) rest
      | other => do
          let (set, rest) ← readClassItem flags other
          readClass flags bound (opened.add set) rest

/-- Sets one flag by its letter. -/
def Flags.set? (flags : Flags) (letter : Char) (value : Bool) : Option Flags :=
  match letter with
  | 'i' => some { flags with ignoreCase := value }
  | 'm' => some { flags with multiLine := value }
  | 's' => some { flags with dotAll := value }
  | 'R' => some { flags with anyLineEnd := value }
  | 'u' => some { flags with unicode := value }
  | 'x' => some { flags with verbose := value }
  | 'U' => some flags
  | _ => none

/-- The flags up to a colon or a closing bracket, which stays unread; `seen` holds the letters
so far and `negation` whether a hyphen has come. -/
def readFlags (flags : Flags) (seen : List Char) (negation dangling : Bool) :
    List Char → Option (Flags × Bool × List Char)
  | [] => none
  | c :: rest =>
      if c = ':' ∨ c = ')' then
        if dangling then none else some (flags, seen.isEmpty && !negation, c :: rest)
      else if c = '-' then
        if negation then none else readFlags flags seen true true rest
      else if seen.contains c then none
      else
        match flags.set? c (!negation) with
        | some changed => readFlags changed (c :: seen) negation false rest
        | none => none

/-- Whether a character may stand in the name of a group. -/
def isNameChar (first : Bool) (c : Char) : Bool :=
  let letter := ((property? "alphabetic").getD .empty).holds c.toNat
  let numeric := ((category? "n").getD .empty).holds c.toNat
  c = '_' || letter || (!first && (c = '.' || c = '[' || c = ']' || numeric))

/-- The name of a group up to its closing bracket. -/
def readGroupName (names : List String) (characters : List Char) :
    Option (String × List Char) :=
  let name := characters.takeWhile (· != '>')
  match characters.dropWhile (· != '>'), name with
  | '>' :: behind, first :: others =>
      if isNameChar true first && others.all (isNameChar false) &&
          !names.contains (String.ofList name) then
        some (String.ofList name, behind)
      else none
  | _, _ => none

/-- A decimal number with white space around it. -/
def readCount (characters : List Char) : Option (Nat × List Char) :=
  let digits := (characters.dropWhile Text.isBlank).takeWhile Char.isDigit
  let rest := ((characters.dropWhile Text.isBlank).dropWhile Char.isDigit).dropWhile Text.isBlank
  let value := digits.foldl (fun value digit => value * 10 + (digit.toNat - '0'.toNat)) 0
  if digits.isEmpty || 0x100000000 ≤ value then none else some (value, rest)

/-- The counts of a repetition behind the opening brace. -/
def readCounts (characters : List Char) : Option (Nat × Option Nat × List Char) := do
  let (least, rest) ← readCount characters
  match rest with
  | '}' :: behind => return (least, some least, behind)
  | ',' :: '}' :: behind => return (least, none, behind)
  | ',' :: more =>
      let (most, after) ← readCount more
      match after with
      | '}' :: behind => if least ≤ most then return (least, some most, behind) else none
      | _ => none
  | _ => none

/-- The characters behind the mark of a lazy repetition. -/
def skipLazy (flags : Flags) (characters : List Char) : List Char :=
  match flags.skip characters with
  | '?' :: rest => rest
  | rest => rest

/-- The parts of an alternative in order. -/
def sequenceOf : List Expression → Expression
  | [] => .empty
  | [part] => part
  | part :: parts => .sequence part (sequenceOf parts)

/-- One alternative as it is read: its parts, the last one first, each with whether it can be
repeated. -/
abbrev Parts := List (Expression × Bool)

/-- The alternatives read so far, closed by a last one. -/
def closeChoice (before : Option Expression) (parts : Parts) : Expression :=
  let last := sequenceOf (parts.reverse.map Prod.fst)
  match before with
  | none => last
  | some first => .choice first last

/-- The parts with the last one repeated, if it can be. -/
def repeatLast (parts : Parts) (least : Nat) (most : Option Nat) : Option Parts :=
  match parts with
  | (part, true) :: others => some ((.repeated part least most, true) :: others)
  | _ => none

/-- What a reader goes on with: the flags, the names of groups and the characters to come. -/
structure Pending where
  flags : Flags
  names : List String
  rest : List Char

/-- The anchor of a circumflex. -/
def startAnchor (flags : Flags) : Anchor :=
  if !flags.multiLine then .startText
  else if flags.anyLineEnd then .startAnyLine else .startLine

/-- The anchor of a dollar sign. -/
def endAnchor (flags : Flags) : Anchor :=
  if !flags.multiLine then .endText
  else if flags.anyLineEnd then .endAnyLine else .endLine

/-- The set of a dot. -/
def dotSet? (flags : Flags) : Option CharSet :=
  if !flags.unicode then none
  else if flags.dotAll then some .all
  else if flags.anyLineEnd then some (.complement (.unions [.single '\r', .single '\n']))
  else some (.complement (.single '\n'))

/-- The expression of an atom outside brackets. -/
def Atom.expression (flags : Flags) : Atom → Expression
  | .literal c => .oneOf (literalSet flags c)
  | .octet c => .oneOf (literalSet flags c)
  | .ofSet set => .oneOf set
  | .ofAnchor condition => .anchor condition

/-- What stands behind the opening bracket of a group. -/
inductive GroupStart where
  | setFlags (flags : Flags) (rest : List Char)
  | group (flags : Flags) (names : List String) (rest : List Char)

/-- The start of a group. -/
def readGroupStart (pending : Pending) : Option GroupStart :=
  let flags := pending.flags
  match flags.skip pending.rest with
  | '?' :: 'P' :: '<' :: rest =>
      (readGroupName pending.names rest).map fun (name, behind) =>
        .group flags (name :: pending.names) behind
  | '?' :: '<' :: rest =>
      match rest with
      | '=' :: _ => none
      | '!' :: _ => none
      | _ =>
          (readGroupName pending.names rest).map fun (name, behind) =>
            .group flags (name :: pending.names) behind
  | '?' :: rest => do
      let (changed, bare, behind) ← readFlags flags [] false false rest
      match behind with
      | ':' :: inner => return .group changed pending.names inner
      | ')' :: after => if bare then none else return .setFlags changed after
      | _ => none
  | rest => some (.group flags pending.names rest)

/-- Alternatives up to the end or a closing bracket, which stays unread, with at most `bound`
characters to come. -/
def readChoice : Nat → Pending → Option Expression → Parts → Option (Expression × Pending)
  | 0, _, _, _ => none
  | bound + 1, pending, before, parts =>
      let flags := pending.flags
      let goOn := fun (rest : List Char) (parts : Parts) =>
        readChoice bound { pending with rest := rest } before parts
      match flags.skip pending.rest with
      | [] => some (closeChoice before parts, { pending with rest := [] })
      | ')' :: rest => some (closeChoice before parts, { pending with rest := ')' :: rest })
      | '|' :: rest =>
          readChoice bound { pending with rest := rest } (some (closeChoice before parts)) []
      | '(' :: rest => do
          match ← readGroupStart { pending with rest := rest } with
          | .setFlags changed behind =>
              readChoice bound { pending with flags := changed, rest := behind } before
                ((.empty, false) :: parts)
          | .group inner names behind =>
              let (body, after) ← readChoice bound ⟨inner, names, behind⟩ none []
              match after.rest with
              | ')' :: more =>
                  readChoice bound ⟨flags, after.names, more⟩ before
                    ((.group body, true) :: parts)
              | _ => none
      | '*' :: rest => do goOn (skipLazy flags rest) (← repeatLast parts 0 none)
      | '+' :: rest => do goOn (skipLazy flags rest) (← repeatLast parts 1 none)
      | '?' :: rest => do goOn (skipLazy flags rest) (← repeatLast parts 0 (some 1))
      | '{' :: rest => do
          let (least, most, behind) ← readCounts rest
          goOn (skipLazy flags behind) (← repeatLast parts least most)
      | '[' :: rest => do
          let (opened, behind) := readClassStart flags rest
          let (set, after) ← readClass flags (behind.length + 1) opened behind
          goOn after ((.oneOf set, true) :: parts)
      | '.' :: rest => do goOn rest ((.oneOf (← dotSet? flags), true) :: parts)
      | '^' :: rest => goOn rest ((.anchor (startAnchor flags), true) :: parts)
      | '$' :: rest => goOn rest ((.anchor (endAnchor flags), true) :: parts)
      | '\\' :: rest => do
          let (atom, behind) ← readEscape flags rest
          if allowedLiteral flags false atom then
            goOn behind ((atom.expression flags, true) :: parts)
          else none
      | c :: rest => goOn rest ((.oneOf (literalSet flags c), true) :: parts)

/-- The greatest size of an expression with its repetitions written out. -/
def sizeLimit : Nat := 327000

/-- The deepest nesting of an expression. -/
def depthLimit : Nat := 250

/-- The expression of a pattern. -/
def parse? (pattern : String) : Option Expression := do
  let characters := pattern.toList
  let (expression, pending) ← readChoice (characters.length + 1) ⟨{}, [], characters⟩ none []
  if pending.rest.isEmpty && expression.size ≤ sizeLimit && expression.depth ≤ depthLimit then
    some expression
  else none

end Understudy.Regex
