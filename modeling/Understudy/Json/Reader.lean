import Understudy.Json.Value
import Understudy.Decimal.Scaled
import Understudy.Text.Hexadecimal
import Understudy.Text.Utf8

/-!
# Reading JSON text

A reader for one JSON value with nothing but white space around it.  A failure has a cause and
the number of octets that were not read; its message gives the line and the octet column of that
point.  Numbers keep as many digits as a 64-bit significand holds.  At most 127 arrays and
objects may be open at once.
-/

namespace Understudy.Json

/-- Why a text is no JSON value. -/
inductive SyntaxError where
  | endInValue
  | endInList
  | endInObject
  | endInText
  | expectedIdentifier
  | expectedValue
  | expectedColon
  | expectedListCommaOrEnd
  | expectedObjectCommaOrEnd
  | keyMustBeText
  | invalidNumber
  | numberOutOfRange
  | invalidEscape
  | controlCharacter
  | loneSurrogate
  | unexpectedEndOfEscape
  | trailingComma
  | trailingCharacters
  | tooDeep
  deriving DecidableEq, Repr

/-- The wording of a cause. -/
def SyntaxError.message : SyntaxError → String
  | .endInValue => "EOF while parsing a value"
  | .endInList => "EOF while parsing a list"
  | .endInObject => "EOF while parsing an object"
  | .endInText => "EOF while parsing a string"
  | .expectedIdentifier => "expected ident"
  | .expectedValue => "expected value"
  | .expectedColon => "expected `:`"
  | .expectedListCommaOrEnd => "expected `,` or `]`"
  | .expectedObjectCommaOrEnd => "expected `,` or `\x7d`"
  | .keyMustBeText => "key must be a string"
  | .invalidNumber => "invalid number"
  | .numberOutOfRange => "number out of range"
  | .invalidEscape => "invalid escape"
  | .controlCharacter => "control character (\\u0000-\\u001F) found while parsing a string"
  | .loneSurrogate => "lone leading surrogate in hex escape"
  | .unexpectedEndOfEscape => "unexpected end of hex escape"
  | .trailingComma => "trailing comma"
  | .trailingCharacters => "trailing characters"
  | .tooDeep => "recursion limit exceeded"

/-- A cause and the number of octets behind the point of failure. -/
structure Failure where
  cause : SyntaxError
  unread : Nat
  deriving DecidableEq, Repr

/-- What a reader returns: a result and the characters behind it. -/
abbrev Reading (α : Type) := Except Failure (α × List Char)

/-- The number of octets of the characters. -/
def octetCount : List Char → Nat
  | [] => 0
  | c :: rest => c.utf8Size + octetCount rest

/-- A failure in front of the remaining characters. -/
def failBefore {α : Type} (cause : SyntaxError) (rest : List Char) : Except Failure α :=
  .error ⟨cause, octetCount rest⟩

/-- A failure at the first octet of the remaining characters, which is counted as read. -/
def failAt {α : Type} (cause : SyntaxError) (rest : List Char) : Except Failure α :=
  .error ⟨cause, octetCount rest - 1⟩

/-- The four white-space characters of JSON. -/
def isSpace (c : Char) : Bool :=
  c = ' ' || c = '\n' || c = '\t' || c = '\r'

/-- The characters behind leading white space. -/
def skipSpace (characters : List Char) : List Char :=
  characters.dropWhile isSpace

/-- The rest of a literal name. -/
def readName (value : Json) : List Char → List Char → Reading Json
  | [], rest => .ok (value, rest)
  | _ :: _, [] => failBefore .endInValue []
  | wanted :: name, c :: rest =>
      if c = wanted then readName value name rest else failAt .expectedIdentifier (c :: rest)

/-- The value of a decimal digit. -/
def digitValue (c : Char) : Nat :=
  c.toNat - '0'.toNat

/-- The greatest significand. -/
def significandLimit : Nat := 0x10000000000000000

/-- Appends digits to a significand below the limit and returns those that no longer fit. -/
def absorb (limit significand : Nat) : List Char → Nat × List Char
  | [] => (significand, [])
  | digit :: digits =>
      let grown := significand * 10 + digitValue digit
      if grown < limit then absorb limit grown digits else (significand, digit :: digits)

/-- A double with the given sign, or a failure in front of the remaining characters. -/
def readScaled (negative : Bool) (significand : Nat) (exponent : Int) (rest : List Char) :
    Reading Json :=
  match Decimal.scaled? significand exponent with
  | some value => .ok (.decimal (if negative then -value else value), rest)
  | none => failBefore .numberOutOfRange rest

/-- The exponent of a number, behind its letter; `scale` is the exponent of the significand. -/
def readExponent (negative : Bool) (significand : Nat) (scale : Int) (characters : List Char) :
    Reading Json :=
  let (down, unsigned) :=
    match characters with
    | '+' :: rest => (false, rest)
    | '-' :: rest => (true, rest)
    | rest => (false, rest)
  match unsigned with
  | [] => failBefore .endInValue []
  | first :: _ =>
      if !first.isDigit then failAt .invalidNumber unsigned
      else
        let digits := unsigned.takeWhile Char.isDigit
        let rest := unsigned.dropWhile Char.isDigit
        let (exponent, excess) := absorb 0x80000000 0 digits
        if excess.isEmpty then
          readScaled negative significand (if down then scale - exponent else scale + exponent) rest
        else if significand ≠ 0 ∧ !down then failBefore .numberOutOfRange (excess.tail ++ rest)
        else .ok (.decimal (if negative then -0.0 else 0.0), rest)

/-- An exponent, if there is one, and the double. -/
def readScaleTail (negative : Bool) (significand : Nat) (scale : Int)
    (characters : List Char) : Reading Json :=
  match characters with
  | 'e' :: rest => readExponent negative significand scale rest
  | 'E' :: rest => readExponent negative significand scale rest
  | rest => readScaled negative significand scale rest

/-- The digits behind the point of a number. -/
def readFraction (negative : Bool) (significand : Nat) (scale : Int)
    (characters : List Char) : Reading Json :=
  let digits := characters.takeWhile Char.isDigit
  let rest := characters.dropWhile Char.isDigit
  if digits.isEmpty then
    match rest with
    | [] => failBefore .endInValue []
    | _ :: _ => failAt .invalidNumber rest
  else
    let (grown, excess) := absorb significandLimit significand digits
    readScaleTail negative grown (scale - (digits.length - excess.length : Nat)) rest

/-- The whole number behind the sign, an integer where 64 bits hold it. -/
def wholeNumber (negative : Bool) (significand : Nat) : Json :=
  if !negative then .integer significand
  else if significand = 0 ∨ 0x8000000000000000 < significand then
    .decimal (-(UInt64.ofNat significand).toFloat)
  else .integer (-(significand : Int))

/-- What follows the digits before the point, `excess` of which no longer fitted. -/
def readNumberTail (negative : Bool) (significand excess : Nat) (rest : List Char) :
    Reading Json :=
  match rest with
  | '.' :: fraction => readFraction negative significand excess fraction
  | 'e' :: exponent => readExponent negative significand excess exponent
  | 'E' :: exponent => readExponent negative significand excess exponent
  | _ =>
      if excess = 0 then .ok (wholeNumber negative significand, rest)
      else readScaled negative significand excess rest

/-- A number behind its sign. -/
def readNumber (negative : Bool) (characters : List Char) : Reading Json :=
  match characters with
  | [] => failBefore .endInValue []
  | '0' :: rest =>
      if (rest.head?.map Char.isDigit).getD false then failAt .invalidNumber rest
      else readNumberTail negative 0 0 rest
  | first :: _ =>
      if !first.isDigit then failAt .invalidNumber characters
      else
        let digits := characters.takeWhile Char.isDigit
        let (significand, excess) := absorb significandLimit 0 digits
        readNumberTail negative significand excess.length (characters.dropWhile Char.isDigit)

/-- The failure of an escape whose four octets are no digits, or are not all there. -/
def failHex {α : Type} (rest : List Char) : Except Failure α :=
  if octetCount rest < 4 then .error ⟨.endInText, 0⟩
  else .error ⟨.invalidEscape, octetCount rest - 4⟩

/-- The character of an escape with one letter. -/
def escapedChar? : Char → Option Char
  | '"' => some '"'
  | '\\' => some '\\'
  | '/' => some '/'
  | 'b' => some '\x08'
  | 'f' => some '\x0c'
  | 'n' => some '\n'
  | 'r' => some '\r'
  | 't' => some '\t'
  | _ => none

/-- Whether the unit is the first of a surrogate pair. -/
def isLeading (unit : Nat) : Bool :=
  0xD800 ≤ unit && unit ≤ 0xDBFF

/-- Whether the unit is the second of a surrogate pair. -/
def isTrailing (unit : Nat) : Bool :=
  0xDC00 ≤ unit && unit ≤ 0xDFFF

/-- The character of a surrogate pair. -/
def pairChar (leading trailing : Nat) : Char :=
  Char.ofNat (0x10000 + (leading - 0xD800) * 0x400 + (trailing - 0xDC00))

/-- A text behind its opening quote; `reversed` holds the characters read, the last one
first. -/
def readTextFrom (reversed : List Char) : List Char → Reading String
  | [] => failBefore .endInText []
  | '"' :: rest => .ok (String.ofList reversed.reverse, rest)
  | '\\' :: [] => failBefore .endInText []
  | '\\' :: 'u' :: rest =>
      match rest with
      | a :: b :: c :: d :: behind =>
          match Text.hexNumber? [a, b, c, d] with
          | none => failHex rest
          | some unit =>
              if isTrailing unit then failBefore .loneSurrogate behind
              else if isLeading unit then
                match behind with
                | [] => failBefore .endInText []
                | '\\' :: [] => failBefore .endInText []
                | '\\' :: 'u' :: tail =>
                    match tail with
                    | e :: f :: g :: h :: last =>
                        match Text.hexNumber? [e, f, g, h] with
                        | none => failHex tail
                        | some second =>
                            if isTrailing second then
                              readTextFrom (pairChar unit second :: reversed) last
                            else failBefore .loneSurrogate last
                    | _ => failHex tail
                | '\\' :: other => failAt .unexpectedEndOfEscape other
                | other => failAt .unexpectedEndOfEscape other
              else readTextFrom (Char.ofNat unit :: reversed) behind
      | _ => failHex rest
  | '\\' :: letter :: rest =>
      match escapedChar? letter with
      | some c => readTextFrom (c :: reversed) rest
      | none => failAt .invalidEscape (letter :: rest)
  | c :: rest =>
      if c.toNat < 32 then failAt .controlCharacter (c :: rest)
      else readTextFrom (c :: reversed) rest

/-- A text behind its opening quote. -/
def readText (characters : List Char) : Reading String :=
  readTextFrom [] characters

/-- The items of an array behind the bracket or a comma; `bound` is at least the number of items
to come. -/
def readItems (readItem : List Char → Reading Json) :
    Nat → List Json → List Char → Reading Json
  | 0, _, rest => failBefore .endInList rest
  | bound + 1, reversed, characters =>
      match readItem characters with
      | .error failure => .error failure
      | .ok (item, rest) =>
          match skipSpace rest with
          | [] => failBefore .endInList []
          | ']' :: behind => .ok (.array (item :: reversed).reverse, behind)
          | ',' :: more =>
              match skipSpace more with
              | [] => failBefore .endInValue []
              | ']' :: behind => failAt .trailingComma (']' :: behind)
              | next => readItems readItem bound (item :: reversed) next
          | other => failAt .expectedListCommaOrEnd other

/-- The members of an object behind the quote of a key; `bound` is at least the number of
members to come. -/
def readMembers (readItem : List Char → Reading Json) :
    Nat → List (String × Json) → List Char → Reading Json
  | 0, _, rest => failBefore .endInObject rest
  | bound + 1, reversed, characters =>
      match readText characters with
      | .error failure => .error failure
      | .ok (key, afterKey) =>
          match skipSpace afterKey with
          | [] => failBefore .endInObject []
          | ':' :: afterColon =>
              match readItem afterColon with
              | .error failure => .error failure
              | .ok (value, rest) =>
                  match skipSpace rest with
                  | [] => failBefore .endInObject []
                  | '}' :: behind =>
                      .ok (Json.ofMembers ((key, value) :: reversed).reverse, behind)
                  | ',' :: more =>
                      match skipSpace more with
                      | [] => failBefore .endInValue []
                      | '"' :: next => readMembers readItem bound ((key, value) :: reversed) next
                      | '}' :: behind => failAt .trailingComma ('}' :: behind)
                      | other => failAt .keyMustBeText other
                  | other => failAt .expectedObjectCommaOrEnd other
          | other => failAt .expectedColon other

/-- A value with at most `depth` more arrays and objects open, among at most `bound`
characters. -/
def readValue (bound : Nat) : Nat → List Char → Reading Json
  | 0, characters => failAt .tooDeep (skipSpace characters)
  | depth + 1, characters =>
      match skipSpace characters with
      | [] => failBefore .endInValue []
      | 'n' :: rest => readName .null "ull".toList rest
      | 't' :: rest => readName (.boolean true) "rue".toList rest
      | 'f' :: rest => readName (.boolean false) "alse".toList rest
      | '-' :: rest => readNumber true rest
      | '"' :: rest =>
          match readText rest with
          | .error failure => .error failure
          | .ok (value, behind) => .ok (.text value, behind)
      | '[' :: rest =>
          if depth = 0 then failAt .tooDeep ('[' :: rest)
          else
            match skipSpace rest with
            | [] => failBefore .endInList []
            | ']' :: behind => .ok (.array [], behind)
            | items => readItems (readValue bound depth) bound [] items
      | '{' :: rest =>
          if depth = 0 then failAt .tooDeep ('{' :: rest)
          else
            match skipSpace rest with
            | [] => failBefore .endInObject []
            | '}' :: behind => .ok (.object [], behind)
            | '"' :: members => readMembers (readValue bound depth) bound [] members
            | other => failAt .keyMustBeText other
      | first :: rest =>
          if first.isDigit then readNumber false (first :: rest)
          else failAt .expectedValue (first :: rest)

/-- The number of arrays and objects that may be open, counted from one. -/
def depthLimit : Nat := 128

/-- The value of a whole text. -/
def readDocument (characters : List Char) : Except Failure Json :=
  match readValue (characters.length + 1) depthLimit characters with
  | .error failure => .error failure
  | .ok (value, rest) =>
      match skipSpace rest with
      | [] => .ok value
      | other => failAt .trailingCharacters other

/-- A failure with its place: lines count from one, columns count the octets before it. -/
def Failure.message (text : String) (failure : Failure) : String :=
  let octets := (Text.encode text).data.toList
  let read := octets.take (octets.length - failure.unread)
  let line := 1 + read.count 10
  let column := (read.reverse.takeWhile fun octet => octet != 10).length
  failure.cause.message ++ " at line " ++ toString line ++ " column " ++ toString column

/-- The value of a text, or the message that says why it has none. -/
def parse (text : String) : Except String Json :=
  match readDocument text.toList with
  | .ok value => .ok value
  | .error failure => .error (failure.message text)

end Understudy.Json
