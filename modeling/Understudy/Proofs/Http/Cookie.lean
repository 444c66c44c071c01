import Understudy.Http.Cookie
import Understudy.Proofs.Text.Blank
import Understudy.Proofs.Text.Search

/-!
# Reading of cookies

A header is read part by part, and white space before a part means nothing.  Every pair that is
read has a name, is trimmed on both sides of its equals sign and holds no separator; such a pair
reads back as it is written.  Reading therefore takes rendering back, and changes nothing of what
was read before.
-/

namespace Understudy

namespace Http.Cookie

/-- A pair that a cookie header can carry. -/
@[mk_iff]
structure WellFormed (pair : String × String) : Prop where
  named : pair.1 ≠ ""
  trimmedName : Text.IsTrimmed pair.1.toList
  noEquals : '=' ∉ pair.1.toList
  noSeparator : ';' ∉ pair.1.toList
  trimmedValue : Text.IsTrimmed pair.2.toList
  noSeparatorInValue : ';' ∉ pair.2.toList

instance (pair : String × String) : Decidable (WellFormed pair) :=
  decidable_of_iff' _ (wellFormed_iff pair)

/-! ## Parts -/

theorem readPair?_eq_some_iff {part : List Char} {pair : String × String} :
    readPair? part = some pair ↔
      ∃ name value, Text.splitAtFirst '=' (Text.trimChars part) = some (name, value) ∧
        Text.trimChars name ≠ [] ∧
        (String.ofList (Text.trimChars name), String.ofList (Text.trimChars value)) = pair := by
  unfold readPair?
  split
  next unsplit => simp [unsplit]
  next name value split => simp [split]

/-- What is read from a part is well formed. -/
theorem wellFormed_of_readPair? {part : List Char} {pair : String × String} (free : ';' ∉ part)
    (read : readPair? part = some pair) : WellFormed pair := by
  obtain ⟨name, value, split, named, rfl⟩ := readPair?_eq_some_iff.mp read
  obtain ⟨noEquals, partEq⟩ := Text.splitAtFirst_eq_some_iff.mp split
  have freeSides : ';' ∉ name ++ '=' :: value := fun member =>
    free (Text.mem_of_mem_trimChars (partEq ▸ member))
  rw [List.mem_append, List.mem_cons, not_or, not_or] at freeSides
  simp only [wellFormed_iff, Ne, ← String.toList_eq_nil_iff, String.toList_ofList]
  exact ⟨named, Text.isTrimmed_trimChars name,
    fun member => noEquals (Text.mem_of_mem_trimChars member),
    fun member => freeSides.1 (Text.mem_of_mem_trimChars member), Text.isTrimmed_trimChars value,
    fun member => freeSides.2.2 (Text.mem_of_mem_trimChars member)⟩

theorem readPair?_cons_space (part : List Char) : readPair? (' ' :: part) = readPair? part := by
  rw [readPair?, Text.trimChars_cons_of_isBlank (by decide), readPair?]

theorem toList_renderPair (pair : String × String) :
    (renderPair pair).toList = pair.1.toList ++ '=' :: pair.2.toList := by
  rw [renderPair, String.toList_append, String.toList_append, List.append_assoc]
  rfl

namespace WellFormed

variable {pair : String × String}

/-- A well-formed pair is read from the part that it is written as. -/
theorem readPair?_renderPair (wellFormed : WellFormed pair) :
    readPair? (renderPair pair).toList = some pair := by
  have trimmed : Text.IsTrimmed (pair.1.toList ++ '=' :: pair.2.toList) :=
    wellFormed.trimmedName.append_cons (by decide) wellFormed.trimmedValue
  have named : pair.1.toList ≠ [] := mt String.toList_eq_nil_iff.mp wellFormed.named
  rw [readPair?_eq_some_iff, toList_renderPair, Text.trimChars_of_isTrimmed trimmed]
  refine ⟨_, _, Text.splitAtFirst_append wellFormed.noEquals _, ?_, ?_⟩
  · rwa [Text.trimChars_of_isTrimmed wellFormed.trimmedName]
  · rw [Text.trimChars_of_isTrimmed wellFormed.trimmedName,
      Text.trimChars_of_isTrimmed wellFormed.trimmedValue, String.ofList_toList,
      String.ofList_toList]

theorem not_mem_renderPair (wellFormed : WellFormed pair) : ';' ∉ (renderPair pair).toList := by
  rw [toList_renderPair, List.mem_append, List.mem_cons, not_or, not_or]
  exact ⟨wellFormed.noSeparator, by decide, wellFormed.noSeparatorInValue⟩

end WellFormed

/-! ## Headers -/

theorem parse_eq_filterMap_splitOn (header : String) :
    parse header = (header.toList.splitOn ';').filterMap readPair? := by
  rw [parse, Text.splitAtEach_eq_splitOn]

/-- A space before the parts means nothing. -/
theorem filterMap_splitOn_cons_space (characters : List Char) :
    ((' ' :: characters).splitOn ';').filterMap readPair? =
      (characters.splitOn ';').filterMap readPair? := by
  rw [List.splitOn_cons_eq_if_modifyHead, if_neg (by decide)]
  cases characters.splitOn ';' with
  | nil => rfl
  | cons part rest =>
      rw [List.modifyHead_cons, List.filterMap_cons, readPair?_cons_space, List.filterMap_cons]

/-- The pairs of joined headers are those of the first and then those of the second. -/
theorem parse_append (first second : String) :
    parse (first ++ "; " ++ second) = parse first ++ parse second := by
  have split : (first ++ "; " ++ second).toList = first.toList ++ ';' :: ' ' :: second.toList := by
    rw [String.toList_append, String.toList_append, List.append_assoc]
    rfl
  rw [parse_eq_filterMap_splitOn, split, List.splitOn_append_cons_self, List.filterMap_append,
    filterMap_splitOn_cons_space, ← parse_eq_filterMap_splitOn, ← parse_eq_filterMap_splitOn]

theorem parse_renderPair {pair : String × String} (wellFormed : WellFormed pair) :
    parse (renderPair pair) = [pair] := by
  rw [parse_eq_filterMap_splitOn, List.splitOn_eq_singleton wellFormed.not_mem_renderPair,
    List.filterMap_cons, wellFormed.readPair?_renderPair, List.filterMap_nil]

theorem render_cons_cons (pair other : String × String) (rest : List (String × String)) :
    render (pair :: other :: rest) = renderPair pair ++ "; " ++ render (other :: rest) :=
  String.intercalate_cons_cons

/-- Reading takes rendering back. -/
theorem parse_render {pairs : List (String × String)}
    (wellFormed : ∀ pair ∈ pairs, WellFormed pair) : parse (render pairs) = pairs := by
  induction pairs with
  | nil => rfl
  | cons pair rest inductionHypothesis =>
      obtain ⟨first, others⟩ := List.forall_mem_cons.mp wellFormed
      cases rest with
      | nil => exact parse_renderPair first
      | cons other rest =>
          rw [render_cons_cons, parse_append, parse_renderPair first, inductionHypothesis others]
          rfl

theorem wellFormed_of_mem_parse {header : String} {pair : String × String}
    (member : pair ∈ parse header) : WellFormed pair := by
  obtain ⟨part, inHeader, read⟩ := List.mem_filterMap.mp member
  exact wellFormed_of_readPair? (Text.not_mem_of_mem_splitAtEach inHeader) read

end Http.Cookie

open Http.Cookie

/-- Well-formed pairs read back from the header that carries them, and what is read from any header
reads back from the header that carries it. -/
theorem rendered_cookies_read_back :
    (∀ pairs : List (String × String), (∀ pair ∈ pairs, WellFormed pair) →
      parse (render pairs) = pairs) ∧
    ∀ header : String, parse (render (parse header)) = parse header :=
  ⟨fun _ wellFormed => parse_render wellFormed,
    fun _ => parse_render fun _ member => wellFormed_of_mem_parse member⟩

theorem session_and_theme_read_back :
    (∀ pair ∈ [("session", "a=b"), ("theme", "")], WellFormed pair) ∧
      render [("session", "a=b"), ("theme", "")] = "session=a=b; theme=" ∧
      parse (render [("session", "a=b"), ("theme", "")]) = [("session", "a=b"), ("theme", "")] := by
  have wellFormed : ∀ pair ∈ [("session", "a=b"), ("theme", "")], WellFormed pair := by decide
  exact ⟨wellFormed, by decide, rendered_cookies_read_back.1 _ wellFormed⟩

end Understudy
