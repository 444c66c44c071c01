import Mathlib.Data.List.Basic
import Understudy.Text.Utf8

/-!
# Octets of texts

Different texts have different octets, and octets that read as a text are those of that text alone.
The octets of an ASCII text are its characters one by one.
-/

namespace Understudy.Text

theorem encode_injective : Function.Injective encode := by
  intro first second same
  have decoded : some first = some second := by
    rw [← decode?_encode first, same, decode?_encode]
  exact Option.some.inj decoded

theorem decode?_eq_some_iff {octets : ByteArray} {text : String} :
    decode? octets = some text ↔ octets = encode text := by
  constructor
  · exact fun decoded => (encode_of_decode? decoded).symm
  · rintro rfl
    exact decode?_encode text

/-- The octet of an ASCII character. -/
def octetOf (c : Char) : UInt8 :=
  UInt8.ofNat c.toNat

theorem utf8EncodeChar_of_ascii {c : Char} (ascii : c.toNat < 0x80) :
    String.utf8EncodeChar c = [octetOf c] := by
  have single : c.utf8Size = 1 :=
    Char.utf8Size_eq_one_iff.mpr (UInt32.le_iff_toNat_le.mpr (Nat.le_of_lt_succ ascii))
  rw [String.utf8EncodeChar_eq_singleton single]
  rfl

theorem octets_ofList_of_ascii {characters : List Char}
    (ascii : ∀ c ∈ characters, c.toNat < 0x80) :
    (encode (String.ofList characters)).data.toList = characters.map octetOf := by
  have oneByOne : characters.flatMap String.utf8EncodeChar = characters.map octetOf := by
    rw [List.map_eq_flatMap]
    exact List.flatMap_congr fun c member => utf8EncodeChar_of_ascii (ascii c member)
  rw [encode, String.toUTF8, String.toByteArray_ofList, List.utf8Encode, List.data_toByteArray,
    oneByOne]

end Understudy.Text
