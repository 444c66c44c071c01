import Understudy.Body
import Understudy.Proofs.Text.Utf8

/-!
# Detected bodies

Whatever kind is detected, the octets of the body are the ones that it was detected from: a text and
a JSON body keep the text that they were read from, and a text has the octets that it was decoded
from.  A body has a text exactly if it is there and its octets are those of the text.
-/

namespace Understudy

namespace Body

/-- Octets are compared as arrays. -/
theorem octets_beq_iff {first second : ByteArray} : (first == second) = true ↔ first = second := by
  have same : (first.data == second.data) = true ↔ first = second := by
    rw [beq_iff_eq, ByteArray.ext_iff]
  exact same

/-- A text is kept, whether it is read as JSON or not. -/
theorem ofText_eq_text_or_json (content : String) (contentType : Option String) :
    ofText content contentType = .text content ∨
      ∃ value, ofText content contentType = .json value content := by
  unfold ofText
  split
  · split
    next value _ => exact .inr ⟨value, rfl⟩
    · exact .inl rfl
  · exact .inl rfl

theorem octets_ofText (content : String) (contentType : Option String) :
    (ofText content contentType).octets = Text.encode content := by
  rcases ofText_eq_text_or_json content contentType with kept | ⟨value, read⟩
  · rw [kept]
    rfl
  · rw [read]
    rfl

theorem isEmpty_ofText (content : String) (contentType : Option String) :
    (ofText content contentType).isEmpty = false := by
  rcases ofText_eq_text_or_json content contentType with kept | ⟨value, read⟩
  · rw [kept]
    rfl
  · rw [read]
    rfl

/-- No content type loses an octet. -/
theorem octets_detect (raw : ByteArray) (contentType : Option String) :
    (detect raw contentType).octets = raw := by
  unfold detect
  split
  next isEmpty =>
    have size : raw.size = 0 := beq_iff_eq.mp isEmpty
    exact (ByteArray.size_eq_zero_iff.mp size).symm
  next =>
    cases decoded : Text.decode? raw with
    | some content =>
        exact (octets_ofText content contentType).trans (Text.encode_of_decode? decoded)
    | none => rfl

/-- Only octets that are none have no body. -/
theorem isEmpty_detect (raw : ByteArray) (contentType : Option String) :
    (detect raw contentType).isEmpty = raw.isEmpty := by
  unfold detect
  split
  next noOctets => exact noOctets.symm
  next someOctets =>
    rw [Bool.not_eq_true] at someOctets
    rw [someOctets]
    split
    next content _ => exact isEmpty_ofText content contentType
    · rfl

/-- The text of a body is the one that its octets are the encoding of. -/
theorem text?_eq_some_iff {body : Body} {content : String} :
    body.text? = some content ↔ body.isEmpty = false ∧ body.octets = Text.encode content := by
  cases body with
  | empty => simp [text?, isEmpty]
  | json value source => simp [text?, isEmpty, octets, Text.encode_injective.eq_iff]
  | text source => simp [text?, isEmpty, octets, Text.encode_injective.eq_iff]
  | binary raw => simp [text?, isEmpty, octets, Text.decode?_eq_some_iff]

/-- No content type changes the text. -/
theorem text?_detect (raw : ByteArray) (contentType : Option String) :
    (detect raw contentType).text? = if raw.isEmpty then none else Text.decode? raw := by
  ext content
  rw [text?_eq_some_iff, isEmpty_detect, octets_detect]
  cases raw.isEmpty with
  | true => simp
  | false => simp [Text.decode?_eq_some_iff]

end Body

end Understudy
