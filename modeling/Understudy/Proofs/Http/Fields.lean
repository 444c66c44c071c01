import Understudy.Http.Token
import Understudy.Proofs.NameMap
import Understudy.Proofs.Text.Case

/-!
# Header fields

The values that the fields of a message have under a name, in whatever case it is written.  Fields
that are regrouped under their names in lower case keep the values of every name in their order, and
octets that are decoded as text are encoded to what they were.
-/

namespace Understudy

theorem Text.encode_decodeLossy {octets : ByteArray} {text : String}
    (decoded : decode? octets = some text) : encode (decodeLossy octets) = octets := by
  rw [decodeLossy, decoded]
  exact encode_of_decode? decoded

namespace Http

/-- The values that fields have under a name, in whatever case it is written. -/
def valuesOf {β : Type} (fields : List (String × β)) (name : String) : List β :=
  (fields.filter fun field => sameName field.1 name).map Prod.snd

theorem valuesOf_cons {β : Type} (field : String × β) (fields : List (String × β)) (name : String) :
    valuesOf (field :: fields) name =
      if sameName field.1 name then field.2 :: valuesOf fields name else valuesOf fields name := by
  rw [valuesOf, List.filter_cons]
  split <;> rfl

theorem sameName_asciiLower (first second : String) :
    sameName (Text.asciiLower first) second = sameName first second := by
  rw [sameName, sameName, Text.sameIgnoringAsciiCase, Text.sameIgnoringAsciiCase,
    Text.asciiLower_asciiLower]

/-- The case of the names does not matter, and the values change one by one. -/
theorem valuesOf_map_asciiLower {β γ : Type} (fields : List (String × β)) (change : β → γ)
    (name : String) :
    valuesOf (fields.map fun field => (Text.asciiLower field.1, change field.2)) name =
      (valuesOf fields name).map change := by
  rw [valuesOf, valuesOf, List.filter_map, List.map_map, List.map_map]
  simp only [Function.comp_def, sameName_asciiLower]

/-- There are no fields exactly if there is no value under any name. -/
theorem forall_valuesOf_eq_nil_iff {β : Type} (fields : List (String × β)) :
    (∀ name, valuesOf fields name = []) ↔ fields = [] := by
  constructor
  · intro none
    refine List.eq_nil_iff_forall_not_mem.mpr fun field member => ?_
    have unnamed := List.filter_eq_nil_iff.mp (List.map_eq_nil_iff.mp (none field.1)) field member
    exact unnamed (beq_self_eq_true _)
  · rintro rfl name
    rfl

/-- Names in lower case are the same if they are equal. -/
theorem valuesOf_of_lower {β : Type} {fields : List (String × β)}
    (lower : ∀ field ∈ fields, Text.asciiLower field.1 = field.1) (name : String) :
    valuesOf fields name =
      (fields.filter fun field => field.1 == Text.asciiLower name).map Prod.snd := by
  rw [valuesOf]
  congr 1
  refine List.filter_congr fun field member => ?_
  rw [sameName, Text.sameIgnoringAsciiCase, lower field member]

/-- A test that all spellings of a name pass or fail alike keeps all values of a name or none. -/
theorem valuesOf_filter {β : Type} (fields : List (String × β)) {keep : String × β → Bool}
    {name : String} {kept : Bool}
    (alike : ∀ field ∈ fields, sameName field.1 name = true → keep field = kept) :
    valuesOf (fields.filter keep) name = if kept then valuesOf fields name else [] := by
  rw [valuesOf, valuesOf, List.filter_filter]
  cases kept with
  | true =>
      rw [if_pos rfl]
      congr 1
      refine List.filter_congr fun field member => ?_
      cases same : sameName field.1 name with
      | true => rw [alike field member same, Bool.and_true]
      | false => rfl
  | false =>
      rw [if_neg Bool.false_ne_true, List.map_eq_nil_iff, List.filter_eq_nil_iff]
      intro field member both
      rw [Bool.and_eq_true] at both
      rw [alike field member both.1] at both
      exact Bool.false_ne_true both.2

/-- Fields regrouped under names in lower case keep the values of every name. -/
theorem valuesOf_pairs_foldl_append {β : Type} {fields : List (String × β)}
    (lower : ∀ field ∈ fields, Text.asciiLower field.1 = field.1) (name : String) :
    valuesOf (fields.foldl (fun map field => map.append field.1 field.2) NameMap.empty).pairs name =
      valuesOf fields name := by
  rw [valuesOf_of_lower lower, valuesOf_of_lower fun pair member =>
    lower pair (NameMap.mem_of_mem_pairs_foldl_append member)]
  exact NameMap.map_snd_filter_pairs_foldl_append fields (Text.asciiLower name)

/-! ## Decoded fields -/

/-- The fields with names in lower case and values read as text. -/
def decodedFields (fields : List (String × ByteArray)) : List (String × String) :=
  fields.map fun field => (Text.asciiLower field.1, Text.decodeLossy field.2)

variable {fields : List (String × ByteArray)}

theorem asciiLower_of_mem_decodedFields {field : String × String}
    (member : field ∈ decodedFields fields) : Text.asciiLower field.1 = field.1 := by
  obtain ⟨source, -, rfl⟩ := List.mem_map.mp member
  exact Text.asciiLower_asciiLower source.1

/-- Values that are UTF-8 are encoded as they arrived. -/
theorem map_encode_valuesOf_decodedFields
    (texts : ∀ field ∈ fields, ∃ text, Text.decode? field.2 = some text) (name : String) :
    (valuesOf (decodedFields fields) name).map Text.encode = valuesOf fields name := by
  rw [decodedFields, valuesOf_map_asciiLower, List.map_map]
  refine (List.map_congr_left fun value member => ?_).trans (List.map_id _)
  obtain ⟨field, kept, rfl⟩ := List.mem_map.mp member
  obtain ⟨text, decoded⟩ := texts field (List.mem_filter.mp kept).1
  exact Text.encode_decodeLossy decoded

end Http

end Understudy
