import Understudy.NameMap
import Understudy.Text.Hexadecimal
import Understudy.Text.Search
import Understudy.Text.Utf8

/-!
# Query strings

A query is a sequence of `key=value` parts between ampersands, in which a plus sign stands for a
space and `%XX` for an octet.  `parse` gives the values of each key in their order.  `encode`
escapes every octet that is not unreserved, and decoding takes that back.
-/

namespace Understudy.Http.Query

/-- The value of a hexadecimal digit. -/
def hexDigit? (octet : UInt8) : Option UInt8 :=
  if 48 ≤ octet ∧ octet ≤ 57 then some (octet - 48)
  else if 97 ≤ octet ∧ octet ≤ 102 then some (octet - 87)
  else if 65 ≤ octet ∧ octet ≤ 70 then some (octet - 55)
  else none

/-- The octet of two hexadecimal digits. -/
def hexPair? (high low : UInt8) : Option UInt8 := do
  let first ← hexDigit? high
  let second ← hexDigit? low
  return first * 16 + second

/-- The octet of an escape, where three octets are one. -/
def escaped? (mark high low : UInt8) : Option UInt8 :=
  if mark = 37 then hexPair? high low else none

/-- Octets with every well-formed escape replaced by its octet; other percent signs stay. -/
def percentDecode : List UInt8 → List UInt8
  | [] => []
  | [last] => [last]
  | [first, last] => [first, last]
  | octet :: high :: low :: rest =>
      match escaped? octet high low with
      | some value => value :: percentDecode rest
      | none => octet :: percentDecode (high :: low :: rest)

/-- The text with spaces for plus signs. -/
def plusToSpace (text : String) : String :=
  String.ofList (text.toList.map fun c => if c = '+' then ' ' else c)

/-- A key or value as it is meant; where the escapes yield no text, they stay as written. -/
def decodeComponent (raw : String) : String :=
  let spaced := plusToSpace raw
  let octets := (percentDecode (Text.encode spaced).data.toList).toByteArray
  (Text.decode? octets).getD spaced

/-- An octet that needs no escape. -/
def isUnreserved (octet : UInt8) : Bool :=
  (65 ≤ octet && octet ≤ 90) || (97 ≤ octet && octet ≤ 122) || (48 ≤ octet && octet ≤ 57) ||
    octet == 45 || octet == 95 || octet == 46 || octet == 126

/-- The characters for one octet. -/
def encodeOctet (octet : UInt8) : List Char :=
  if isUnreserved octet then [Char.ofNat octet.toNat]
  else '%' :: Text.hexPair Text.hexCapital octet

/-- The text with every octet escaped that is not unreserved. -/
def encodeComponent (text : String) : String :=
  String.ofList ((Text.encode text).data.toList.flatMap encodeOctet)

/-- The key and the value of one part; a part without an equals sign has an empty value. -/
def splitPair (part : List Char) : String × String :=
  match Text.splitAtFirst '=' part with
  | some (key, value) => (String.ofList key, String.ofList value)
  | none => (String.ofList part, "")

/-- The parts of a query that are not empty. -/
def parts (query : String) : List (List Char) :=
  (Text.splitAtEach '&' (query.toList.dropWhile (· == '?'))).filter fun part => !part.isEmpty

/-- The path and the query of the target of a request, which ends at its fragment. -/
def splitTarget (target : String) : String × String :=
  let characters := target.toList.takeWhile (· != '#')
  (String.ofList (characters.takeWhile (· != '?')),
    String.ofList ((characters.dropWhile (· != '?')).drop 1))

/-- The decoded pairs of a query in order. -/
def pairs (query : String) : List (String × String) :=
  (parts query).map fun part =>
    let (key, value) := splitPair part
    (decodeComponent key, decodeComponent value)

/-- The values of every key, in the order in which they stand in the query. -/
def parse (query : String) : NameMap (List String) :=
  (pairs query).foldl (fun values pair => values.append pair.1 pair.2) NameMap.empty

/-- One escaped `key=value` part. -/
def encodePair (pair : String × String) : String :=
  encodeComponent pair.1 ++ "=" ++ encodeComponent pair.2

/-- The query that carries the given pairs. -/
def encode (pairs : List (String × String)) : String :=
  "&".intercalate (pairs.map encodePair)

end Understudy.Http.Query
