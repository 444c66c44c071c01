import Mathlib.Data.List.Infix
import Understudy.Proofs.Body
import Understudy.Proofs.Text.Search

/-!
# Kinds of bodies

Which octets are detected as which kind.  No octets are no body, and ill-formed ones stay octets.  A
text is read as JSON if its content type speaks of JSON or if it opens like an array or object, and
is a JSON body if that reading succeeds.  The kind never hides an octet, so different octets are
different bodies, whatever their content types say.
-/

namespace Understudy

namespace Text

/-- Only ill-formed octets read as no text. -/
theorem decode?_eq_none_iff {octets : ByteArray} :
    decode? octets = none ↔ ¬octets.IsValidUTF8 := by
  rw [decode?, String.fromUTF8?, dite_eq_right_iff]
  exact forall_congr' fun _ => iff_false_intro (Option.some_ne_none _)

theorem isValidUTF8_iff_exists_encode {octets : ByteArray} :
    octets.IsValidUTF8 ↔ ∃ content, octets = encode content := by
  rw [← not_iff_not, ← decode?_eq_none_iff, Option.eq_none_iff_forall_ne_some, not_exists]
  exact forall_congr' fun content => not_congr decode?_eq_some_iff

/-- The first character behind white space stands behind nothing else. -/
theorem firstVisible?_eq_some_iff {content : String} {c : Char} :
    firstVisible? content = some c ↔
      isBlank c = false ∧ ∃ blanks rest, content.toList = blanks ++ c :: rest ∧
        ∀ blank ∈ blanks, isBlank blank = true := by
  simp [firstVisible?, List.find?_eq_some_iff_append]

end Text

namespace Body

/-- The content type speaks of JSON: the word stands in it, in capital or small letters. -/
def DeclaresJson (contentType : Option String) : Prop :=
  ∃ declared, contentType = some declared ∧
    ∃ word, word <:+: declared.toList ∧ word.map Char.toLower = "json".toList

/-- The text opens an array or object, white space before it aside. -/
def OpensJson (content : String) : Prop :=
  ∃ blanks opening rest, content.toList = blanks ++ opening :: rest ∧
    (∀ blank ∈ blanks, Text.isBlank blank = true) ∧ (opening = '{' ∨ opening = '[')

theorem declaresJson_iff (contentType : Option String) :
    declaresJson contentType = true ↔ DeclaresJson contentType := by
  cases contentType with
  | none => simp [declaresJson, DeclaresJson]
  | some declared =>
      have lowered : (Text.asciiLower declared).toList = declared.toList.map Char.toLower :=
        String.toList_ofList
      rw [declaresJson, Text.contains_iff, lowered, List.infix_map_iff]
      simp [DeclaresJson, eq_comm]

theorem looksLikeJson_iff (content : String) :
    looksLikeJson content = true ↔ OpensJson content := by
  have isFirst : looksLikeJson content = true ↔
      ∃ c, Text.firstVisible? content = some c ∧ (c = '{' ∨ c = '[') := by
    rw [looksLikeJson]
    cases Text.firstVisible? content with
    | none => simp
    | some c => simp
  rw [isFirst]
  constructor
  · rintro ⟨c, first, opens⟩
    obtain ⟨-, blanks, rest, split, blank⟩ := Text.firstVisible?_eq_some_iff.mp first
    exact ⟨blanks, c, rest, split, blank, opens⟩
  · rintro ⟨blanks, c, rest, split, blank, opens⟩
    have visible : Text.isBlank c = false := by
      rcases opens with rfl | rfl
      · rfl
      · rfl
    exact ⟨c, Text.firstVisible?_eq_some_iff.mpr ⟨visible, blanks, rest, split, blank⟩, opens⟩

/-- A text is a JSON body if something asks for JSON and the text can be read as it. -/
theorem ofText_eq_json_iff {content source : String} {contentType : Option String}
    {value : Json} :
    ofText content contentType = .json value source ↔
      content = source ∧ Json.parse source = .ok value ∧
        (DeclaresJson contentType ∨ OpensJson source) := by
  rw [← declaresJson_iff, ← looksLikeJson_iff, ← Bool.or_eq_true, ofText]
  constructor
  · intro detected
    split at detected
    next asked =>
      split at detected
      next parsed =>
        obtain ⟨rfl, rfl⟩ := Body.json.inj detected
        exact ⟨rfl, parsed, asked⟩
      · cases detected
    · cases detected
  · rintro ⟨rfl, parsed, asked⟩
    rw [if_pos asked, parsed]

/-! ## The kinds of octets -/

theorem isEmpty_eq_true_iff {raw : ByteArray} : raw.isEmpty = true ↔ raw = ByteArray.empty :=
  beq_iff_eq.trans ByteArray.size_eq_zero_iff

theorem detect_encode {content : String} (someOctets : Text.encode content ≠ ByteArray.empty)
    (contentType : Option String) :
    detect (Text.encode content) contentType = ofText content contentType := by
  rw [detect, if_neg (mt isEmpty_eq_true_iff.mp someOctets), Text.decode?_encode]

theorem detect_of_not_isValidUTF8 {raw : ByteArray} (illFormed : ¬raw.IsValidUTF8)
    (contentType : Option String) : detect raw contentType = .binary raw := by
  have someOctets : raw ≠ ByteArray.empty := by
    rintro rfl
    exact illFormed ByteArray.isValidUTF8_empty
  rw [detect, if_neg (mt isEmpty_eq_true_iff.mp someOctets),
    Text.decode?_eq_none_iff.mpr illFormed]

/-- Only octets that are none are no body. -/
theorem detect_eq_empty_iff {raw : ByteArray} {contentType : Option String} :
    detect raw contentType = .empty ↔ raw = ByteArray.empty := by
  constructor
  · intro detected
    rw [← octets_detect raw contentType, detected]
    rfl
  · rintro rfl
    rfl

/-- Only ill-formed octets stay octets. -/
theorem detect_eq_binary_iff {raw content : ByteArray} {contentType : Option String} :
    detect raw contentType = .binary content ↔ content = raw ∧ ¬raw.IsValidUTF8 := by
  constructor
  · intro detected
    have same : content = raw := by
      rw [← octets_detect raw contentType, detected]
      rfl
    refine ⟨same, fun wellFormed => ?_⟩
    -- well-formed octets are those of a text, which is no body or keeps its text
    obtain ⟨source, rfl⟩ := Text.isValidUTF8_iff_exists_encode.mp wellFormed
    by_cases noOctets : Text.encode source = ByteArray.empty
    · rw [detect_eq_empty_iff.mpr noOctets] at detected
      cases detected
    · rw [detect_encode noOctets] at detected
      rcases ofText_eq_text_or_json source contentType with kept | ⟨value, read⟩
      · rw [kept] at detected
        cases detected
      · rw [read] at detected
        cases detected
  · rintro ⟨rfl, illFormed⟩
    exact detect_of_not_isValidUTF8 illFormed contentType

/-- Octets are a JSON body if they are those of a text that can be read as JSON and something asks
for that. -/
theorem detect_eq_json_iff {raw : ByteArray} {contentType : Option String} {value : Json}
    {source : String} :
    detect raw contentType = .json value source ↔
      raw ≠ ByteArray.empty ∧ raw = Text.encode source ∧ Json.parse source = .ok value ∧
        (DeclaresJson contentType ∨ OpensJson source) := by
  constructor
  · intro detected
    have same : raw = Text.encode source := by
      rw [← octets_detect raw contentType, detected]
      rfl
    have someOctets : raw ≠ ByteArray.empty := by
      intro noOctets
      rw [detect_eq_empty_iff.mpr noOctets] at detected
      cases detected
    subst same
    rw [detect_encode someOctets] at detected
    exact ⟨someOctets, rfl, (ofText_eq_json_iff.mp detected).2⟩
  · rintro ⟨someOctets, rfl, read⟩
    rw [detect_encode someOctets]
    exact ofText_eq_json_iff.mpr ⟨rfl, read⟩

/-- The text of a body is the one that its octets are the encoding of. -/
theorem text?_detect_eq_some_iff {raw : ByteArray} {contentType : Option String}
    {content : String} :
    (detect raw contentType).text? = some content ↔
      raw ≠ ByteArray.empty ∧ raw = Text.encode content := by
  rw [text?_eq_some_iff, isEmpty_detect, octets_detect, Bool.eq_false_iff, Ne,
    isEmpty_eq_true_iff]

end Body

/-- A detected body has exactly the octets that it is detected in, so different octets are different
bodies under any content types.  It is no body, octets or JSON exactly if the octets are none,
ill formed, or those of a text with a value for which the content type or its first visible
character asks; and it has a text, with the same octets, exactly if they are some and well
formed. -/
theorem detection_loses_nothing_and_tells_kind (raw : ByteArray) (contentType : Option String) :
    (Body.detect raw contentType).octets = raw ∧
      (Body.detect raw contentType = .empty ↔ raw = ByteArray.empty) ∧
      (∀ content, Body.detect raw contentType = .binary content ↔
        content = raw ∧ ¬raw.IsValidUTF8) ∧
      (∀ value source, Body.detect raw contentType = .json value source ↔
        raw ≠ ByteArray.empty ∧ raw = Text.encode source ∧ Json.parse source = .ok value ∧
          (Body.DeclaresJson contentType ∨ Body.OpensJson source)) ∧
      ((∃ content, (Body.detect raw contentType).text? = some content ∧
          Text.encode content = raw) ↔
        raw ≠ ByteArray.empty ∧ raw.IsValidUTF8) ∧
      (∀ content, (Body.detect raw contentType).text? = some content →
        Text.encode content = raw) ∧
      ∀ other otherType, Body.detect other otherType = Body.detect raw contentType →
        other = raw := by
  refine ⟨Body.octets_detect raw contentType, Body.detect_eq_empty_iff,
    fun content => Body.detect_eq_binary_iff, fun value source => Body.detect_eq_json_iff,
    ?text, ?textOctets, ?injective⟩
  case text =>
    rw [Text.isValidUTF8_iff_exists_encode]
    constructor
    · rintro ⟨content, found, same⟩
      exact ⟨(Body.text?_detect_eq_some_iff.mp found).1, content, same.symm⟩
    · rintro ⟨someOctets, content, same⟩
      exact ⟨content, Body.text?_detect_eq_some_iff.mpr ⟨someOctets, same⟩, same.symm⟩
  case textOctets =>
    intro content found
    exact (Body.text?_detect_eq_some_iff.mp found).2.symm
  case injective =>
    intro other otherType same
    calc
      other = (Body.detect other otherType).octets := (Body.octets_detect other otherType).symm
      _ = (Body.detect raw contentType).octets := congrArg Body.octets same
      _ = raw := Body.octets_detect raw contentType

/-- A text that is declared to be JSON and cannot be read as it is kept as a text, and one that is
not declared is read if it opens an object behind white space. -/
example :
    Body.detect (Text.encode "[1,") (some "application/JSON") = .text "[1," ∧
      Body.detect (Text.encode " {}") none = .json (.object []) " {}" := by
  constructor
  · rfl
  · rfl

end Understudy
