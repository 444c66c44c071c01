import Understudy.Text.Case
import Understudy.Text.Utf8

/-!
# Tokens and field values

What a message may hold as a method, as the name of a header field and as its value.  A field
that breaks these rules cannot be sent.  Sizes are not bounded here: libraries for messages refuse
names of more than 65535 octets and more names than a table of 32768 places holds.
-/

namespace Understudy.Http

/-- A character of a token. -/
def isTokenChar (c : Char) : Bool :=
  c.isAlphanum || "!#$%&'*+-.^_`|~".toList.contains c

/-- A method or field name: at least one token character and nothing else. -/
def isToken (text : String) : Bool :=
  !text.isEmpty && text.toList.all isTokenChar

/-- An octet of a field value: a tab, or any octet that is no control. -/
def isValueOctet (octet : UInt8) : Bool :=
  octet == 9 || (32 ≤ octet && octet != 127)

/-- A value that a field can carry. -/
def isFieldValue (text : String) : Bool :=
  (Text.encode text).data.toList.all isValueOctet

/-- Octets that a field value may hold as visible text: ASCII without controls, and tabs. -/
def isVisibleOctet (octet : UInt8) : Bool :=
  octet == 9 || (32 ≤ octet && octet < 127)

/-- Whether two field names are the same. -/
def sameName (first second : String) : Bool :=
  Text.sameIgnoringAsciiCase first second

end Understudy.Http
