import Mathlib
import Understudy.Http.Token
import Understudy.Proofs.Text.Search
import Understudy.Request

/-!
# Case of ASCII texts

Making ASCII letters small twice is making them small once, changes nothing where no letter is a
capital one, and keeps the number of octets.  An ASCII text in upper case is the same text up to the
case of its letters.  Tokens are ASCII texts and stay tokens in lower case.  A path starts with a
text up to the case of letters if both in lower case do.
-/

namespace Understudy

namespace Text

theorem asciiLower_asciiLower (text : String) :
    asciiLower (asciiLower text) = asciiLower text := by
  simp [asciiLower, Function.comp_def]

theorem map_toLower_eq_self_iff {characters : List Char} :
    characters.map Char.toLower = characters ↔ ∀ c ∈ characters, c.isUpper = false := by
  constructor
  · intro same c member
    rw [← same] at member
    obtain ⟨other, -, rfl⟩ := List.mem_map.mp member
    exact other.isUpper_toLower_eq_false
  · intro small
    refine (List.map_congr_left fun c member => ?_).trans (List.map_id _)
    exact Char.toLower_eq_of_not_isUpper (by simp [small c member])

/-- A text is in lower case if it has no capital ASCII letter. -/
theorem asciiLower_eq_self_iff {text : String} :
    asciiLower text = text ↔ ∀ c ∈ text.toList, c.isUpper = false := by
  rw [asciiLower, ← String.toList_inj, String.toList_ofList, map_toLower_eq_self_iff]

theorem toUpper_of_ascii {text : String} (ascii : ∀ c ∈ text.toList, c.toNat < 0x80) :
    toUpper text = String.ofList (text.toList.map Char.toUpper) := by
  rw [toUpper]
  generalize text.toList = characters at ascii
  congr 1
  induction characters with
  | nil => rfl
  | cons c rest inductionHypothesis =>
      have first : upperChar c = [c.toUpper] := if_pos (ascii c List.mem_cons_self)
      rw [List.flatMap_cons, List.map_cons, first,
        inductionHypothesis fun other member => ascii other (List.mem_cons_of_mem _ member)]
      rfl

/-- The upper case of an ASCII text differs from it in the case of letters only. -/
theorem asciiLower_toUpper {text : String} (ascii : ∀ c ∈ text.toList, c.toNat < 0x80) :
    asciiLower (toUpper text) = asciiLower text := by
  rw [toUpper_of_ascii ascii, asciiLower, asciiLower, String.toList_ofList, List.map_map]
  congr 1
  exact List.map_congr_left fun c _ => c.toLower_toUpper_eq_toLower

/-- Characters start with others up to the case of ASCII letters if both in lower case do. -/
theorem startsWithBy_sameLetter_iff (start characters : List Char) :
    startsWithBy sameLetter start characters = true ↔
      start.map Char.toLower <+: characters.map Char.toLower :=
  startsWithBy_iff_map_prefix Char.toLower start characters

/-- A pattern starts characters up to the case of ASCII letters if it does so with small letters. -/
theorem startsWithBy_map_toLower (start characters : List Char) :
    startsWithBy (· == ·) (start.map Char.toLower) (characters.map Char.toLower) =
      startsWithBy sameLetter start characters := by
  rw [Bool.eq_iff_iff, startsWithBy_sameLetter_iff, startsWithBy_beq_iff]

/-- An ASCII letter takes one octet. -/
theorem utf8Size_of_isAlpha {c : Char} (letter : c.isAlpha = true) : c.utf8Size = 1 := by
  rw [Char.utf8Size_eq_one_iff]
  rw [Char.isAlpha, Bool.or_eq_true] at letter
  rcases letter with upper | lower
  · exact UInt32.le_trans (of_decide_eq_true upper).2 (by decide)
  · exact UInt32.le_trans (of_decide_eq_true (Bool.and_eq_true_iff.mp lower).2) (by decide)

/-- A character takes as many octets once it is made small. -/
theorem utf8Size_toLower (c : Char) : c.toLower.utf8Size = c.utf8Size := by
  by_cases upper : c.isUpper = true
  · have letter : c.isAlpha = true := by rw [Char.isAlpha, upper, Bool.true_or]
    rw [utf8Size_of_isAlpha letter,
      utf8Size_of_isAlpha (c.isAlpha_toLower_eq_isAlpha.trans letter)]
  · rw [Char.toLower_eq_of_not_isUpper upper]

end Text

theorem Request.pathStartsWith_iff (request : Request) (start : String) :
    request.pathStartsWith start = true ↔
      (Text.asciiLower start).toList <+: (Text.asciiLower request.path).toList := by
  rw [pathStartsWith, Text.startsWithBy_sameLetter_iff, Text.asciiLower, Text.asciiLower,
    String.toList_ofList, String.toList_ofList]

namespace Http

theorem toNat_lt_of_isTokenChar {c : Char} (legal : isTokenChar c = true) : c.toNat < 0x80 := by
  rw [isTokenChar, Bool.or_eq_true] at legal
  rcases legal with alphanumeric | mark
  · simp only [Char.isAlphanum, Char.isAlpha, Char.isUpper, Char.isLower, Char.isDigit,
      Bool.or_eq_true, Bool.and_eq_true, decide_eq_true_eq, ge_iff_le] at alphanumeric
    change ((65 ≤ c.toNat ∧ c.toNat ≤ 90) ∨ 97 ≤ c.toNat ∧ c.toNat ≤ 122) ∨
      48 ≤ c.toNat ∧ c.toNat ≤ 57 at alphanumeric
    omega
  · have marks : "!#$%&'*+-.^_`|~".toList.all (fun mark => mark.toNat < 0x80) = true := by decide
    exact of_decide_eq_true (List.all_eq_true.mp marks c (List.contains_iff_mem.mp mark))

theorem ascii_of_isToken {text : String} (legal : isToken text = true) :
    ∀ c ∈ text.toList, c.toNat < 0x80 := by
  intro c member
  rw [isToken, Bool.and_eq_true, List.all_eq_true] at legal
  exact toNat_lt_of_isTokenChar (legal.2 c member)

theorem isTokenChar_toLower {c : Char} (legal : isTokenChar c = true) :
    isTokenChar c.toLower = true := by
  by_cases upper : c.isUpper = true
  · have letter : c.toLower.isAlpha = true := by
      rw [Char.isAlpha_toLower_eq_isAlpha, Char.isAlpha, upper, Bool.true_or]
    rw [isTokenChar, Char.isAlphanum, letter, Bool.true_or, Bool.true_or]
  · rw [Char.toLower_eq_of_not_isUpper upper]
    exact legal

theorem isToken_asciiLower {text : String} (legal : isToken text = true) :
    isToken (Text.asciiLower text) = true := by
  rw [isToken, Bool.and_eq_true, Bool.not_eq_true', String.isEmpty_eq_false_iff,
    List.all_eq_true] at legal ⊢
  obtain ⟨nonempty, characters⟩ := legal
  constructor
  · rw [← String.toList_eq_nil_iff.ne] at nonempty ⊢
    simpa [Text.asciiLower] using nonempty
  · rw [Text.asciiLower, String.toList_ofList, List.forall_mem_map]
    exact fun c member => isTokenChar_toLower (characters c member)

end Http

end Understudy
