/-!
# UTF-8

Reading of octets as text.  `decode?` accepts well-formed octets only.  `decodeLossy` accepts
all octets: each longest start of an ill-formed sequence becomes one replacement character.
-/

namespace Understudy.Text

/-- The octets of a text. -/
def encode (text : String) : ByteArray :=
  text.toUTF8

/-- The text whose octets these are, if they are well formed. -/
def decode? (octets : ByteArray) : Option String :=
  String.fromUTF8? octets

/-- The character that stands for octets that are no text. -/
def replacementChar : Char := '\uFFFD'

/-- For a lead octet: its payload, the number of octets that follow it, and the least and
greatest first one of these. -/
def leadShape? (lead : UInt8) : Option (Nat × Nat × UInt8 × UInt8) :=
  if lead < 0x80 then some (lead.toNat, 0, 0x80, 0xBF)
  else if lead < 0xC2 then none
  else if lead < 0xE0 then some (lead.toNat - 0xC0, 1, 0x80, 0xBF)
  else if lead == 0xE0 then some (0, 2, 0xA0, 0xBF)
  else if lead == 0xED then some (0xD, 2, 0x80, 0x9F)
  else if lead < 0xF0 then some (lead.toNat - 0xE0, 2, 0x80, 0xBF)
  else if lead == 0xF0 then some (0, 3, 0x90, 0xBF)
  else if lead < 0xF4 then some (lead.toNat - 0xF0, 3, 0x80, 0xBF)
  else if lead == 0xF4 then some (4, 3, 0x80, 0x8F)
  else none

/-- Reads `count` continuation octets onto `value`; without a value, the rest starts with the
octet that does not fit. -/
def readTails : Nat → UInt8 → UInt8 → Nat → List UInt8 → Option Nat × List UInt8
  | 0, _, _, value, rest => (some value, rest)
  | _ + 1, _, _, _, [] => (none, [])
  | count + 1, least, greatest, value, octet :: rest =>
      if least ≤ octet && octet ≤ greatest then
        readTails count 0x80 0xBF (value * 64 + (octet.toNat - 0x80)) rest
      else (none, octet :: rest)

theorem length_readTails_le (count : Nat) (least greatest : UInt8) (value : Nat)
    (octets : List UInt8) :
    (readTails count least greatest value octets).2.length ≤ octets.length := by
  fun_induction readTails count least greatest value octets with
  | case1 => simp
  | case2 => simp
  | case3 _ _ _ _ _ _ _ inductionHypothesis =>
      simp only [List.length_cons]
      omega
  | case4 => simp

/-- The characters of arbitrary octets, with replacement characters for what is ill formed. -/
def decodeLossyChars : List UInt8 → List Char
  | [] => []
  | lead :: rest =>
      match leadShape? lead with
      | none => replacementChar :: decodeLossyChars rest
      | some (payload, count, least, greatest) =>
          let outcome := readTails count least greatest payload rest
          match outcome.1 with
          | some value => Char.ofNat value :: decodeLossyChars outcome.2
          | none => replacementChar :: decodeLossyChars outcome.2
termination_by octets => octets.length
decreasing_by
  · simp
  all_goals
    have bound := length_readTails_le count least greatest payload rest
    simp only [List.length_cons]
    omega

/-- The text of arbitrary octets. -/
def decodeLossy (octets : ByteArray) : String :=
  match decode? octets with
  | some text => text
  | none => String.ofList (decodeLossyChars octets.data.toList)

/-- Octets of a text read back as that text. -/
theorem decode?_encode (text : String) : decode? (encode text) = some text := by
  simp [decode?, encode, String.fromUTF8?, String.fromUTF8, text.isValidUTF8]

/-- Octets that read as a text are the octets of that text. -/
theorem encode_of_decode? {octets : ByteArray} {text : String}
    (decoded : decode? octets = some text) : encode text = octets := by
  simp only [decode?, String.fromUTF8?] at decoded
  split at decoded
  · cases decoded
    rfl
  · simp at decoded

end Understudy.Text
