import Understudy.Yaml.Scalar

/-!
# Tokens of YAML

A text is cut into tokens in one pass.  Indentation becomes tokens of its own: a deeper column
opens a block collection, a shallower one closes those that it leaves.  A mapping key is only
known as such at its colon; until then its place is remembered, and the colon puts the key token
there.  Such a key is at most 1024 characters long and lies on one line.
-/

namespace Understudy.Yaml

/-- A token. -/
inductive Token where
  | version (major minor : Nat)
  | tagHandle (handle replacement : String)
  | documentStart
  | documentEnd
  | blockSequenceStart
  | blockMappingStart
  | blockEnd
  | flowSequenceStart
  | flowSequenceEnd
  | flowMappingStart
  | flowMappingEnd
  | blockEntry
  | flowEntry
  | key
  | value
  | alias (name : String)
  | anchor (name : String)
  | tag (handle suffix : String)
  | scalar ( isPlain : Bool) (text : String)
  deriving DecidableEq, Repr

/-- The place where a key may have started. -/
structure PossibleKey where
  /-- The number of tokens in front. -/
  before : Nat
  /-- Whether nothing but a key can stand there. -/
  required : Bool
  index : Nat
  line : Nat
  column : Nat

/-- A text on its way into tokens. -/
structure Lexing where
  cursor : Cursor
  tokens : Array Token
  /-- The columns of the open block collections, innermost first. -/
  columns : List Nat
  /-- Whether a key may start here. -/
  keyAllowed : Bool
  possibleKey : Option PossibleKey
  /-- The possible keys around the open flow collections. -/
  outerKeys : List (Option PossibleKey)

namespace Lexing

/-- The start of a text. -/
def start (text : List Char) : Lexing where
  cursor := Cursor.start text
  tokens := #[]
  columns := []
  keyAllowed := true
  possibleKey := none
  outerKeys := []

/-- Whether a flow collection is open. -/
def inFlow (lexing : Lexing) : Bool :=
  !lexing.outerKeys.isEmpty

/-- The least column of what belongs to the innermost block collection. -/
def margin (lexing : Lexing) : Nat :=
  lexing.columns.head?.elim 0 (· + 1)

/-- Appends a token. -/
def push (lexing : Lexing) (token : Token) : Lexing :=
  { lexing with tokens := lexing.tokens.push token }

/-- Appends a token that takes some characters. -/
def take (lexing : Lexing) (token : Token) (count : Nat) : Lexing :=
  { lexing.push token with cursor := lexing.cursor.skip count }

/-- Gives up the possible key, unless only a key can stand there. -/
def dropKey (lexing : Lexing) : Option Lexing :=
  if lexing.possibleKey.any PossibleKey.required then none
  else some { lexing with possibleKey := none }

/-- Remembers that a key may start here. -/
def saveKey (lexing : Lexing) : Option Lexing :=
  if !lexing.keyAllowed then some lexing
  else do
    let dropped ← lexing.dropKey
    some
      { dropped with
        possibleKey := some
          { before := lexing.tokens.size
            required := !lexing.inFlow && lexing.columns.head? = some lexing.cursor.column
            index := lexing.cursor.index
            line := lexing.cursor.line
            column := lexing.cursor.column } }

/-- Says whether a key may start at the next token. -/
def allowKey (allowed : Bool) (lexing : Lexing) : Lexing :=
  { lexing with keyAllowed := allowed }

/-- Closes the block collections for which the condition holds, innermost first. -/
def closeWhile (condition : Nat → Bool) (lexing : Lexing) : Lexing :=
  if lexing.inFlow then lexing
  else
    let closed := lexing.columns.takeWhile condition
    { lexing with
      columns := lexing.columns.dropWhile condition
      tokens := lexing.tokens ++ (closed.map fun _ => Token.blockEnd).toArray }

/-- Closes all block collections. -/
def closeAll (lexing : Lexing) : Lexing :=
  lexing.closeWhile fun _ => true

/-- Puts tokens behind the first `before` ones. -/
def insertTokens (lexing : Lexing) (before : Nat) (added : Array Token) : Lexing :=
  { lexing with
    tokens := lexing.tokens.extract 0 before ++ added ++
      lexing.tokens.extract before lexing.tokens.size }

/-- Whether a column opens a block collection. -/
def opens (lexing : Lexing) (column : Nat) : Bool :=
  !lexing.inFlow && lexing.columns.head?.all (· < column)

/-- Opens a block collection at the column of the cursor if that is deeper. -/
def openBlock (lexing : Lexing) (token : Token) : Lexing :=
  let column := lexing.cursor.column
  if lexing.opens column then
    { lexing.push token with columns := column :: lexing.columns }
  else lexing

/-- Skips blanks, comments and line breaks.  A tab at the start of a block line stays. -/
def skipGap : Nat → Lexing → Lexing
  | 0, lexing => lexing
  | fuel + 1, lexing =>
      let tabs := lexing.inFlow || !lexing.keyAllowed
      let behind :=
        (lexing.cursor.skipWhile fun c => c = ' ' || (tabs && c = '\t')).skipComment
      let moved := { lexing with cursor := behind }
      if behind.rest.head?.any isBreak then
        skipGap fuel
          { moved with
            cursor := behind.breakLine
            keyAllowed := lexing.keyAllowed || !lexing.inFlow }
      else moved

/-- Opens a flow collection. -/
def openFlow (lexing : Lexing) (token : Token) : Option Lexing := do
  let saved ← lexing.saveKey
  some
    { saved.take token 1 with
      outerKeys := saved.possibleKey :: saved.outerKeys
      possibleKey := none
      keyAllowed := true }

/-- Closes a flow collection. -/
def closeFlow (lexing : Lexing) (token : Token) : Option Lexing := do
  let dropped ← lexing.dropKey
  some
    { dropped.take token 1 with
      possibleKey := dropped.outerKeys.head?.join
      outerKeys := dropped.outerKeys.tail
      keyAllowed := false }

/-- A comma of a flow collection. -/
def readFlowEntry (lexing : Lexing) : Option Lexing := do
  let dropped ← lexing.dropKey
  some ((dropped.allowKey true).take .flowEntry 1)

/-- The dash of a block sequence. -/
def readBlockEntry (lexing : Lexing) : Option Lexing := do
  if !lexing.inFlow && !lexing.keyAllowed then none
  else
    let dropped ← (lexing.openBlock .blockSequenceStart).dropKey
    some ((dropped.allowKey true).take .blockEntry 1)

/-- The question mark in front of a key. -/
def readKey (lexing : Lexing) : Option Lexing := do
  if !lexing.inFlow && !lexing.keyAllowed then none
  else
    let dropped ← (lexing.openBlock .blockMappingStart).dropKey
    some ((dropped.allowKey (!lexing.inFlow)).take .key 1)

/-- Whether a possible key can still become one at the cursor. -/
def isFresh (lexing : Lexing) (key : PossibleKey) : Bool :=
  key.line = lexing.cursor.line && lexing.cursor.index ≤ key.index + 1024

/-- The colon behind a key that was not announced: the key token goes in front of it. -/
def placeKey (lexing : Lexing) (key : PossibleKey) : Lexing :=
  let opened := lexing.opens key.column
  let placed := lexing.insertTokens key.before
    (if opened then #[.blockMappingStart, .key] else #[.key])
  { placed.take .value 1 with
    columns := if opened then key.column :: lexing.columns else lexing.columns
    possibleKey := none
    keyAllowed := false }

/-- A colon. -/
def readValue (lexing : Lexing) : Option Lexing :=
  match lexing.possibleKey.filter lexing.isFresh with
  | some key => some (lexing.placeKey key)
  | none =>
      if lexing.possibleKey.any PossibleKey.required then none
      else if !lexing.inFlow && !lexing.keyAllowed then none
      else
        let opened := lexing.openBlock .blockMappingStart
        some
          { opened.take .value 1 with
            possibleKey := none
            keyAllowed := !lexing.inFlow }

/-- The mark of a document's start or end. -/
def readDocumentMark (lexing : Lexing) (token : Token) : Option Lexing := do
  let dropped ← lexing.closeAll.dropKey
  some ((dropped.allowKey false).take token 3)

/-! ## Anchors, tags and directives -/

/-- The characters of names. -/
def isNameCharacter (c : Char) : Bool :=
  c.isAlphanum || c = '_' || c = '-'

/-- An anchor or an alias. -/
def readName (lexing : Lexing) (token : String → Token) : Option Lexing := do
  let saved ← lexing.saveKey
  let name := (saved.cursor.rest.drop 1).takeWhile isNameCharacter
  let behind := saved.cursor.rest.drop (name.length + 1)
  let ends := atGap behind ||
    behind.head?.any fun c => c ∈ ['?', ':', ',', ']', '}', '%', '@', '\x60']
  if name.isEmpty || !ends then none
  else some ((saved.allowKey false).take (token (String.ofList name)) (name.length + 1))

/-- The characters of tags. -/
def isTagCharacter (verbatim : Bool) (c : Char) : Bool :=
  isNameCharacter c ||
    c ∈ [';', '/', '?', ':', '@', '&', '=', '+', '$', '.', '!', '~', '*', '\'', '(', ')', '%'] ||
    (verbatim && c ∈ [',', '[', ']'])

/-- Octets that a tag writes: those of its characters, and those behind percent signs. -/
def tagOctets : List Char → Option (List UInt8)
  | [] => some []
  | '%' :: high :: low :: rest => do
      let octet ← Text.hexNumber? [high, low]
      (UInt8.ofNat octet :: ·) <$> tagOctets rest
  | c :: rest =>
      if c = '%' then none else (UInt8.ofNat c.toNat :: ·) <$> tagOctets rest

/-- The text that a tag writes. -/
def tagText (characters : List Char) : Option String :=
  (tagOctets characters).bind fun octets => String.fromUTF8? ⟨octets.toArray⟩

/-- A handle at the head of the characters: a word between exclamation marks, or one mark. -/
def tagHandle (characters : List Char) : Option (List Char) :=
  match characters with
  | '!' :: rest =>
      let word := rest.takeWhile isNameCharacter
      if (rest.drop word.length).head? = some '!' then some ('!' :: word ++ ['!']) else some ['!']
  | _ => none

/-- Whether a tag may end in front of the characters. -/
def endsTag (inFlow : Bool) (behind : List Char) : Bool :=
  atGap behind || (inFlow && behind.head? = some ',')

/-- A tag. -/
def readTag (lexing : Lexing) : Option Lexing := do
  let saved ← (Lexing.allowKey false) <$> lexing.saveKey
  let characters := saved.cursor.rest
  match characters with
  | '!' :: '<' :: rest =>
      let written := rest.takeWhile (isTagCharacter true)
      let suffix ← tagText written
      let behind := rest.drop written.length
      if written.isEmpty || behind.head? ≠ some '>' || !endsTag lexing.inFlow (behind.drop 1) then none
      else some (saved.take (.tag "" suffix) (written.length + 3))
  | _ =>
      let handle ← tagHandle characters
      let rest := characters.drop handle.length
      let written := rest.takeWhile (isTagCharacter false)
      let suffix ← tagText written
      if (handle.length > 1 && written.isEmpty) || !endsTag lexing.inFlow (rest.drop written.length)
      then none
      else
        let token :=
          if written.isEmpty then Token.tag "" "!" else .tag (String.ofList handle) suffix
        some (saved.take token (handle.length + written.length))

/-- The number that at most nine digits write. -/
def number? (digits : List Char) : Option Nat :=
  if digits.isEmpty || digits.length > 9 then none
  else some (digits.foldl (fun number digit => number * 10 + (digit.toNat - '0'.toNat)) 0)

/-- The token of a directive with the given name, and how many of the characters behind the
name it takes. -/
def directive? (name : List Char) (behind : List Char) : Option (Token × Nat) :=
  let gap := (behind.takeWhile isBlank).length
  let rest := behind.drop gap
  if name = "YAML".toList then do
    let major := rest.takeWhile Char.isDigit
    let minor := (rest.drop (major.length + 1)).takeWhile Char.isDigit
    if (rest.drop major.length).head? ≠ some '.' then none
    else
      let token ← Token.version <$> number? major <*> number? minor
      some (token, gap + major.length + 1 + minor.length)
  else if name = "TAG".toList then do
    let handle ← tagHandle rest
    let separated := rest.drop handle.length
    let space := (separated.takeWhile isBlank).length
    let written := (separated.drop space).takeWhile (isTagCharacter true)
    let replacement ← tagText written
    if space = 0 || written.isEmpty then none
    else
      some
        (.tagHandle (String.ofList handle) replacement,
          gap + handle.length + space + written.length)
  else none

/-- A directive. -/
def readDirective (lexing : Lexing) : Option Lexing := do
  let dropped ← (Lexing.allowKey false) <$> lexing.closeAll.dropKey
  let name := (dropped.cursor.rest.drop 1).takeWhile isNameCharacter
  let (token, count) ← directive? name (dropped.cursor.rest.drop (name.length + 1))
  let read := dropped.take token (name.length + 1 + count)
  if !atGap read.cursor.rest then none
  else
    let behind := (read.cursor.skipWhile isBlank).skipComment
    if behind.rest.head?.any fun c => !isBreak c then none
    else some { read with cursor := behind.breakLine }

/-! ## Scalars -/

/-- Appends a scalar. -/
def pushScalar (lexing : Lexing) ( isPlain : Bool) (scalar : ScalarText) : Lexing :=
  { lexing.push (.scalar isPlain (String.ofList scalar.text)) with
    cursor := scalar.cursor
    keyAllowed := scalar.broken }

/-- A plain scalar. -/
def readPlainScalar (lexing : Lexing) : Option Lexing := do
  let saved ← lexing.saveKey
  let scalar ← readPlain saved.inFlow saved.margin (saved.cursor.rest.length + 1) [] (.blanks [])
    saved.cursor
  some (saved.pushScalar true scalar)

/-- A quoted scalar. -/
def readQuotedScalar (lexing : Lexing) (quote : Char) : Option Lexing := do
  let saved ← lexing.saveKey
  let scalar ← readQuoted quote (saved.cursor.rest.length + 1) [] (saved.cursor.skip 1)
  some (saved.pushScalar false scalar)

/-- A block scalar. -/
def readBlockScalar (lexing : Lexing) (folded : Bool) : Option Lexing := do
  let dropped ← lexing.dropKey
  let scalar ← readBlock folded dropped.margin (dropped.cursor.skip 1)
  some (dropped.pushScalar false scalar)

/-- Whether a plain scalar can start at the character with the given characters behind. -/
def startsPlain (inFlow : Bool) (c : Char) (behind : List Char) : Bool :=
  if c = '-' then !atGap behind
  else if c = '?' || c = ':' then !inFlow && !atGap behind
  else
    !(isBlank c || isBreak c) &&
      c ∉ [',', '[', ']', '{', '}', '#', '&', '*', '!', '|', '>', '\'', '"', '%', '@', '\x60']

/-- The next token, which starts with the given character. -/
def readToken (lexing : Lexing) (c : Char) (behind : List Char) : Option Lexing :=
  let inFlow := lexing.inFlow
  if lexing.cursor.column = 0 && c = '%' then lexing.readDirective
  else if lexing.cursor.atMark '-' then lexing.readDocumentMark .documentStart
  else if lexing.cursor.atMark '.' then lexing.readDocumentMark .documentEnd
  else if startsPlain inFlow c behind then lexing.readPlainScalar
  else
    match c with
    | '[' => lexing.openFlow .flowSequenceStart
    | '{' => lexing.openFlow .flowMappingStart
    | ']' => lexing.closeFlow .flowSequenceEnd
    | '}' => lexing.closeFlow .flowMappingEnd
    | ',' => lexing.readFlowEntry
    | '-' => lexing.readBlockEntry
    | '?' => if atGap behind then lexing.readKey else none
    | ':' => lexing.readValue
    | '*' => lexing.readName .alias
    | '&' => lexing.readName .anchor
    | '!' => lexing.readTag
    | '|' => if inFlow then none else lexing.readBlockScalar false
    | '>' => if inFlow then none else lexing.readBlockScalar true
    | '\'' => lexing.readQuotedScalar '\''
    | '"' => lexing.readQuotedScalar '"'
    | _ => none

/-- Reads tokens to the end of the text. -/
def readTokens : Nat → Lexing → Option Lexing
  | 0, _ => none
  | fuel + 1, lexing => do
      let reached := skipGap (lexing.cursor.rest.length + 1) lexing
      let aligned := reached.closeWhile (reached.cursor.column < ·)
      match aligned.cursor.rest with
      | [] => aligned.closeAll.dropKey
      | c :: behind =>
          let next ← aligned.readToken c behind
          readTokens fuel next

end Lexing

/-- The tokens of a text, if it can be cut into tokens. -/
def Token.ofText? (text : String) : Option (List Token) :=
  let characters := text.toList
  let content := if characters.head? = some '\ufeff' then characters.drop 1 else characters
  if content.all isPrintable then
    (Lexing.readTokens (content.length + 2) (Lexing.start content)).map fun lexing =>
      lexing.tokens.toList
  else none

end Understudy.Yaml
