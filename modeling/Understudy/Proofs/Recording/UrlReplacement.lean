import Understudy.Proofs.Text.Replacement
import Understudy.Recording.UrlReplacement

/-!
# Leftmost occurrences in URLs

A rule takes a URL apart at the first text that it finds, goes on behind it, and keeps what is left
once it finds nothing more.  Every URL has exactly one result of this kind.  A rule that ignores
case can find its texts in a copy of the URL with small letters and cut the URL itself at their
offsets.
-/

namespace Understudy

namespace UrlReplacement

variable {rule : UrlReplacement} {text before found after result : String}

/-! ## Texts that a rule finds -/

/-- A text that the rule replaces. -/
def Finds (rule : UrlReplacement) (found : String) : Prop :=
  if rule.ignoreCase then Text.sameIgnoringAsciiCase found rule.old = true else found = rule.old

/-- No part of the text is replaced. -/
def FindsNothing (rule : UrlReplacement) (text : String) : Prop :=
  ∀ before found after, text = before ++ found ++ after → ¬rule.Finds found

/-- Of the parts that the rule replaces, none begins before the part behind `before` does. -/
structure FindsFirst (rule : UrlReplacement) (before found after : String) : Prop where
  finds : rule.Finds found
  first : ∀ earlier other behind, before ++ found ++ after = earlier ++ other ++ behind →
    rule.Finds other → before.length ≤ earlier.length

/-- The text with the first part that the rule finds replaced, and so on behind that part. -/
inductive Rewrites (rule : UrlReplacement) : String → String → Prop
  | unchanged {text : String} (nothing : rule.FindsNothing text) : Rewrites rule text text
  | replaced {before found after result : String} (first : rule.FindsFirst before found after)
      (onwards : Rewrites rule after result) :
      Rewrites rule (before ++ found ++ after) (before ++ rule.new ++ result)

/-- What the rule compares of a character. -/
def letter (rule : UrlReplacement) : Char → Char :=
  if rule.ignoreCase then Char.toLower else id

theorem same_eq (rule : UrlReplacement) :
    rule.same = fun first second => rule.letter first == rule.letter second := by
  funext first second
  rw [same, letter]
  split <;> rfl

theorem finds_iff :
    rule.Finds found ↔ found.toList.map rule.letter = rule.old.toList.map rule.letter := by
  rw [Finds, letter]
  split
  · rw [Text.sameIgnoringAsciiCase, beq_iff_eq, ← String.toList_inj, Text.asciiLower,
      Text.asciiLower, String.toList_ofList, String.toList_ofList]
  · rw [List.map_id, List.map_id, String.toList_inj]

theorem Finds.length_eq (finds : rule.Finds found) : found.length = rule.old.length := by
  simpa [String.length_toList] using congrArg List.length (finds_iff.mp finds)

theorem startsWithBy_same_iff {characters : List Char} :
    Text.startsWithBy rule.same rule.old.toList characters = true ↔
      ∃ found after, characters = found ++ after ∧ rule.Finds (String.ofList found) := by
  simp only [same_eq, Text.startsWithBy_iff_map_prefix, finds_iff, String.toList_ofList]
  constructor
  · rintro ⟨behind, joined⟩
    obtain ⟨found, after, rfl, same, -⟩ := List.map_eq_append_iff.mp joined.symm
    exact ⟨found, after, rfl, same⟩
  · rintro ⟨found, after, rfl, same⟩
    rw [List.map_append, same]
    exact List.prefix_append _ _

/-- A part that the rule replaces begins wherever the search succeeds. -/
theorem exists_finds_of_startsWithBy {ahead behind : List Char} (suffix : ahead <:+ before.toList)
    (occurs : Text.startsWithBy rule.same rule.old.toList (ahead ++ behind) = true) :
    ∃ earlier other rest, before ++ String.ofList behind = earlier ++ other ++ rest ∧
      rule.Finds other ∧ earlier.length + ahead.length = before.length := by
  obtain ⟨other, rest, joined, finds⟩ := startsWithBy_same_iff.mp occurs
  obtain ⟨earlier, split⟩ := suffix
  refine ⟨String.ofList earlier, String.ofList other, String.ofList rest, ?_, finds, ?_⟩
  · rw [← String.toList_inj]
    simp [← split, joined]
  · rw [← before.length_toList, ← split]
    simp

theorem FindsNothing.beginsNotIn (nothing : rule.FindsNothing text) :
    Text.BeginsNotIn rule.same rule.old.toList text.toList [] := by
  intro ahead suffix _
  rw [Bool.eq_false_iff]
  intro occurs
  obtain ⟨earlier, other, rest, split, finds, -⟩ := exists_finds_of_startsWithBy suffix occurs
  exact nothing earlier other rest (by simpa using split) finds

theorem FindsFirst.beginsNotIn (first : rule.FindsFirst before found after) :
    Text.BeginsNotIn rule.same rule.old.toList before.toList (found ++ after).toList := by
  intro ahead suffix nonempty
  rw [Bool.eq_false_iff]
  intro occurs
  obtain ⟨earlier, other, rest, split, finds, length⟩ :=
    exists_finds_of_startsWithBy suffix occurs
  have notEarlier : before.length ≤ earlier.length := by
    refine first.first earlier other rest ?_ finds
    rw [String.append_assoc, ← split, String.ofList_toList]
  have positive : 0 < ahead.length := List.length_pos_of_ne_nil nonempty
  omega

theorem Finds.startsWithBy (finds : rule.Finds found) (after : String) :
    Text.startsWithBy rule.same rule.old.toList (found ++ after).toList = true := by
  refine startsWithBy_same_iff.mpr ⟨found.toList, after.toList, String.toList_append, ?_⟩
  rwa [String.ofList_toList]

theorem Finds.take_append (finds : rule.Finds found) (after : String) :
    (found ++ after).toList.take rule.old.toList.length = found.toList := by
  rw [String.toList_append]
  exact List.take_left' (by rw [String.length_toList, finds.length_eq, String.length_toList])

theorem Finds.drop_append (finds : rule.Finds found) (after : String) :
    (found ++ after).toList.drop rule.old.toList.length = after.toList := by
  rw [String.toList_append]
  exact List.drop_left' (by rw [String.length_toList, finds.length_eq, String.length_toList])

/-- A text in which the rule finds something has a first part that it finds. -/
theorem exists_findsFirst (something : ¬rule.FindsNothing text) :
    ∃ before found after, text = before ++ found ++ after ∧ rule.FindsFirst before found after := by
  classical
  have occurs : ∃ length, ∃ before found after, text = before ++ found ++ after ∧
      rule.Finds found ∧ before.length = length := by
    simp only [FindsNothing, not_forall, not_not] at something
    obtain ⟨before, found, after, split, finds⟩ := something
    exact ⟨before.length, before, found, after, split, finds, rfl⟩
  obtain ⟨before, found, after, split, finds, length⟩ := Nat.find_spec occurs
  refine ⟨before, found, after, split, finds, fun earlier other behind sameText findsOther => ?_⟩
  rw [length]
  exact Nat.find_min' occurs ⟨earlier, other, behind, split.trans sameText, findsOther, rfl⟩

/-! ## The result -/

theorem apply_of_old_eq_empty (empty : rule.old = "") (url : String) : rule.apply url = url := by
  rw [apply, Text.replaceAll, empty, if_pos (by decide), String.ofList_toList]

section Nonempty

variable (nonempty : rule.old ≠ "")

include nonempty

theorem toList_apply (url : String) :
    (rule.apply url).toList =
      Text.replaceFrom rule.same rule.old.toList rule.new.toList 0 url.toList := by
  rw [apply, String.toList_ofList, Text.replaceAll, if_neg]
  rwa [List.isEmpty_iff, String.toList_eq_nil_iff]

theorem apply_of_findsNothing (nothing : rule.FindsNothing text) :
    rule.apply text = text := by
  rw [← String.toList_inj, toList_apply nonempty]
  simpa [Text.replaceFrom] using Text.replaceFrom_append rule.new.toList nothing.beginsNotIn

theorem apply_of_findsFirst (first : rule.FindsFirst before found after) :
    rule.apply (before ++ found ++ after) = before ++ rule.new ++ rule.apply after := by
  rw [← String.toList_inj, String.append_assoc, toList_apply nonempty, String.toList_append,
    Text.replaceFrom_append _ first.beginsNotIn,
    Text.replaceFrom_of_startsWithBy (mt String.toList_eq_nil_iff.mp nonempty)
      (first.finds.startsWithBy after),
    first.finds.drop_append, String.toList_append, String.toList_append, toList_apply nonempty,
    List.append_assoc]

theorem Rewrites.eq_apply (rewrites : rule.Rewrites text result) :
    result = rule.apply text := by
  induction rewrites with
  | unchanged nothing => exact (apply_of_findsNothing nonempty nothing).symm
  | replaced first _ inductionHypothesis =>
      rw [apply_of_findsFirst nonempty first, inductionHypothesis]

theorem rewrites_apply (url : String) : rule.Rewrites url (rule.apply url) := by
  induction length : url.length using Nat.strong_induction_on generalizing url with
  | h size inductionHypothesis =>
      by_cases nothing : rule.FindsNothing url
      · rw [apply_of_findsNothing nonempty nothing]
        exact .unchanged nothing
      · obtain ⟨before, found, after, rfl, first⟩ := exists_findsFirst nothing
        rw [apply_of_findsFirst nonempty first]
        refine .replaced first (inductionHypothesis after.length ?_ after rfl)
        have positive : found.length ≠ 0 := by
          rw [first.finds.length_eq, Ne, String.length_eq_zero_iff]
          exact nonempty
        rw [← length, String.length_append, String.length_append]
        omega

theorem rewrites_iff : rule.Rewrites text result ↔ result = rule.apply text := by
  constructor
  · exact Rewrites.eq_apply nonempty
  · rintro rfl
    exact rewrites_apply nonempty text

end Nonempty

/-! ## Slices at octet offsets -/

/-- The URL cut at the offsets at which its copy with small letters holds the old text, if each
offset can be cut at. -/
def splice? (rule : UrlReplacement) (url : String) : Option String :=
  let haystack := Text.asciiLower url
  let needle := Text.asciiLower rule.old
  Text.spliceFrom? url rule.new needle.utf8ByteSize 0
    (Text.offsetsFrom (· == ·) needle.toList 0 0 haystack.toList)

theorem Finds.utf8ByteSize_eq (ignores : rule.ignoreCase = true) (finds : rule.Finds found) :
    found.utf8ByteSize = rule.old.utf8ByteSize := by
  rw [Finds, if_pos ignores, Text.sameIgnoringAsciiCase, beq_iff_eq] at finds
  rw [← Text.utf8ByteSize_asciiLower, finds, Text.utf8ByteSize_asciiLower]

theorem offsetsFrom_of_findsNothing (nothing : rule.FindsNothing text) (offset : Nat) :
    Text.offsetsFrom rule.same rule.old.toList offset 0 text.toList = [] := by
  simpa [Text.offsetsFrom] using Text.offsetsFrom_append offset nothing.beginsNotIn

theorem offsetsFrom_of_findsFirst (nonempty : rule.old ≠ "")
    (first : rule.FindsFirst before found after) (offset : Nat) :
    Text.offsetsFrom rule.same rule.old.toList offset 0 (before ++ found ++ after).toList =
      (offset + before.utf8ByteSize) ::
        Text.offsetsFrom rule.same rule.old.toList
          (offset + before.utf8ByteSize + found.utf8ByteSize) 0 after.toList := by
  rw [String.append_assoc, String.toList_append, Text.offsetsFrom_append _ first.beginsNotIn,
    Text.offsetsFrom_of_startsWithBy _ (mt String.toList_eq_nil_iff.mp nonempty)
      (first.finds.startsWithBy after),
    first.finds.take_append, first.finds.drop_append, Text.octetCount_toList,
    Text.octetCount_toList]

/-- Behind the parts already passed, cutting at the offsets gives what rewriting does. -/
theorem Rewrites.spliceFrom?_eq (nonempty : rule.old ≠ "") (ignores : rule.ignoreCase = true)
    (rewrites : rule.Rewrites text result) (passed : String) :
    Text.spliceFrom? (passed ++ text) rule.new rule.old.utf8ByteSize passed.utf8ByteSize
        (Text.offsetsFrom rule.same rule.old.toList passed.utf8ByteSize 0 text.toList) =
      some result := by
  induction rewrites generalizing passed with
  | @unchanged text nothing =>
      rw [offsetsFrom_of_findsNothing nothing, Text.spliceFrom?]
      simpa using Text.slice?_append passed text ""
  | @replaced before found after result first _ inductionHypothesis =>
      have together :
          passed ++ (before ++ found ++ after) = passed ++ before ++ found ++ after := by
        simp only [String.append_assoc]
      have kept : Text.slice? (passed ++ before ++ found ++ after) passed.utf8ByteSize
          (passed.utf8ByteSize + before.utf8ByteSize) = some before := by
        rw [String.append_assoc, ← String.utf8ByteSize_append]
        exact Text.slice?_append passed before (found ++ after)
      have onwards := inductionHypothesis (passed ++ before ++ found)
      rw [String.utf8ByteSize_append, String.utf8ByteSize_append,
        first.finds.utf8ByteSize_eq ignores] at onwards
      rw [offsetsFrom_of_findsFirst nonempty first, first.finds.utf8ByteSize_eq ignores, together,
        Text.spliceFrom?, kept, onwards]
      rfl

theorem splice?_eq_some (nonempty : rule.old ≠ "") (ignores : rule.ignoreCase = true)
    (url : String) : rule.splice? url = some (rule.apply url) := by
  have cut := (rewrites_apply nonempty url).spliceFrom?_eq nonempty ignores ""
  have same : rule.same = Text.sameLetter := by
    funext first second
    rw [UrlReplacement.same, if_pos ignores]
  rw [same, String.empty_append, String.utf8ByteSize_empty] at cut
  rw [splice?, Text.utf8ByteSize_asciiLower, Text.asciiLower, Text.asciiLower, String.toList_ofList,
    String.toList_ofList, Text.offsetsFrom_map_toLower, cut]

/-! ## Small letters only -/

theorem apply_ignoreCase_eq {url : String} (small : ∀ c ∈ url.toList, c.isUpper = false)
    (smallOld : ∀ c ∈ rule.old.toList, c.isUpper = false) :
    { rule with ignoreCase := true }.apply url = { rule with ignoreCase := false }.apply url := by
  have agree (rest : List Char) (suffix : rest <:+ url.toList) :
      Text.startsWithBy Text.sameLetter rule.old.toList rest =
        Text.startsWithBy (· == ·) rule.old.toList rest := by
    have smallRest : ∀ c ∈ rest, c.isUpper = false := fun c member => small c (suffix.subset member)
    rw [← Text.startsWithBy_map_toLower, Text.map_toLower_eq_self_iff.mpr smallOld,
      Text.map_toLower_eq_self_iff.mpr smallRest]
  simp only [apply, Text.replaceAll]
  split
  · rfl
  · exact congrArg String.ofList (Text.replaceFrom_congr agree rule.new.toList 0)

end UrlReplacement

/-- A rule for the empty text changes nothing.  Any other takes a URL apart at the leftmost of the
texts that it finds and again behind each of them, and the URL has no other result of this kind; if
it ignores case, the same comes of cutting the URL at octet offsets, none of which is refused.
Without capital ASCII letters it does not matter whether case is ignored. -/
theorem url_replacement_is_leftmost_first (rule : UrlReplacement) (url : String) :
    (rule.old = "" → rule.apply url = url) ∧
    (rule.old ≠ "" →
      (∀ result, rule.Rewrites url result ↔ result = rule.apply url) ∧
      (rule.ignoreCase = true → rule.splice? url = some (rule.apply url))) ∧
    ((∀ c ∈ url.toList, c.isUpper = false) → (∀ c ∈ rule.old.toList, c.isUpper = false) →
      { rule with ignoreCase := true }.apply url =
        { rule with ignoreCase := false }.apply url) :=
  ⟨fun empty => UrlReplacement.apply_of_old_eq_empty empty url,
    fun nonempty => ⟨fun _ => UrlReplacement.rewrites_iff nonempty,
      fun ignores => UrlReplacement.splice?_eq_some nonempty ignores url⟩,
    UrlReplacement.apply_ignoreCase_eq⟩

theorem overlapping_and_capital_texts_are_replaced :
    (UrlReplacement.mk "" "x" true).apply "http://host/" = "http://host/" ∧
    (UrlReplacement.mk "AbA" "ü" true).Rewrites "Σabababa/ABA" "Σübü/ü" ∧
    (UrlReplacement.mk "AbA" "ü" true).splice? "Σabababa/ABA" = some "Σübü/ü" ∧
    (UrlReplacement.mk "v1" "V2" true).apply "/v1/v1é" =
      (UrlReplacement.mk "v1" "V2" false).apply "/v1/v1é" := by
  have result : "Σübü/ü" = (UrlReplacement.mk "AbA" "ü" true).apply "Σabababa/ABA" := by
    decide +kernel
  have leftmost :=
    (url_replacement_is_leftmost_first ⟨"AbA", "ü", true⟩ "Σabababa/ABA").2.1 (by decide)
  refine ⟨(url_replacement_is_leftmost_first ⟨"", "x", true⟩ "http://host/").1 rfl,
    (leftmost.1 _).mpr result, (leftmost.2 rfl).trans (congrArg some result.symm), ?_⟩
  exact (url_replacement_is_leftmost_first ⟨"v1", "V2", true⟩ "/v1/v1é").2.2
    (Text.asciiLower_eq_self_iff.mp (by decide)) (Text.asciiLower_eq_self_iff.mp (by decide))

end Understudy
