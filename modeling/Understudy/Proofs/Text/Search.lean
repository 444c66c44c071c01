import Mathlib.Data.List.Infix
import Understudy.Text.Search

/-!
# Occurrences of a pattern, and pieces between separators

What the search for a pattern finds: a start, an end, or a part anywhere in the characters, and a
start up to what a function makes of the characters.  Splitting at a separator is that of the
library and leaves no separator in a piece.  The parts around the first separator are those of which
the first is free of it.
-/

namespace Understudy.Text

theorem startsWith_iff (pattern characters : List Char) :
    startsWith pattern characters = true ↔ pattern <+: characters :=
  List.isPrefixOf_iff_prefix

theorem endsWith_iff (pattern characters : List Char) :
    endsWith pattern characters = true ↔ pattern <:+ characters :=
  List.isSuffixOf_iff_suffix

theorem contains_iff (pattern characters : List Char) :
    contains pattern characters = true ↔ pattern <:+: characters := by
  induction characters with
  | nil => rw [contains, List.isEmpty_iff, List.infix_nil]
  | cons c rest inductionHypothesis =>
      rw [contains, Bool.or_eq_true, startsWith_iff, inductionHypothesis, List.infix_cons_iff]

/-- Under a comparison of what `letter` makes of the characters, the pattern is the start up to
`letter`. -/
theorem startsWithBy_iff_map_prefix (letter : Char → Char) (pattern characters : List Char) :
    startsWithBy (fun first second => letter first == letter second) pattern characters = true ↔
      pattern.map letter <+: characters.map letter := by
  induction pattern generalizing characters with
  | nil => simp [startsWithBy]
  | cons wanted rest inductionHypothesis =>
      cases characters with
      | nil => simp [startsWithBy]
      | cons c others =>
          rw [startsWithBy, Bool.and_eq_true, inductionHypothesis, beq_iff_eq, List.map_cons,
            List.map_cons, List.cons_prefix_cons]

theorem startsWithBy_beq_iff (pattern characters : List Char) :
    startsWithBy (· == ·) pattern characters = true ↔ pattern <+: characters := by
  simpa using startsWithBy_iff_map_prefix id pattern characters

theorem splitAtEach_eq_splitOn (separator : Char) (characters : List Char) :
    splitAtEach separator characters = characters.splitOn separator := by
  induction characters with
  | nil => rfl
  | cons c rest inductionHypothesis =>
      rw [splitAtEach, List.splitOn_cons_eq_if_modifyHead, ← inductionHypothesis]
      by_cases isSeparator : c = separator
      · rw [if_pos isSeparator, if_pos (beq_iff_eq.mpr isSeparator)]
      · rw [if_neg isSeparator, if_neg (mt beq_iff_eq.mp isSeparator)]
        cases split : splitAtEach separator rest with
        | nil => exact absurd split (splitAtEach_ne_nil separator rest)
        | cons piece pieces => rfl

/-- No separator is left in a piece. -/
theorem not_mem_of_mem_splitAtEach {separator : Char} {characters piece : List Char}
    (member : piece ∈ splitAtEach separator characters) : separator ∉ piece := by
  induction characters generalizing piece with
  | nil =>
      obtain rfl := List.mem_singleton.mp member
      exact List.not_mem_nil
  | cons c rest inductionHypothesis =>
      rw [splitAtEach] at member
      split at member
      · rcases List.mem_cons.mp member with rfl | inRest
        · exact List.not_mem_nil
        · exact inductionHypothesis inRest
      next different =>
        cases split : splitAtEach separator rest with
        | nil => exact absurd split (splitAtEach_ne_nil separator rest)
        | cons first others =>
            rw [split] at member inductionHypothesis
            rcases List.mem_cons.mp member with rfl | inOthers
            · rw [List.mem_cons, not_or]
              exact ⟨Ne.symm different, inductionHypothesis List.mem_cons_self⟩
            · exact inductionHypothesis (List.mem_cons_of_mem _ inOthers)

theorem splitAtFirst_append {separator : Char} {before : List Char} (free : separator ∉ before)
    (after : List Char) :
    splitAtFirst separator (before ++ separator :: after) = some (before, after) := by
  induction before with
  | nil => rw [List.nil_append, splitAtFirst, if_pos rfl]
  | cons c rest inductionHypothesis =>
      rw [List.mem_cons, not_or] at free
      rw [List.cons_append, splitAtFirst, if_neg (Ne.symm free.1), inductionHypothesis free.2]
      rfl

theorem splitAtFirst_eq_some_iff {separator : Char} {characters before after : List Char} :
    splitAtFirst separator characters = some (before, after) ↔
      separator ∉ before ∧ characters = before ++ separator :: after := by
  constructor
  · intro split
    induction characters generalizing before with
    | nil => cases split
    | cons c rest inductionHypothesis =>
        rw [splitAtFirst] at split
        split at split
        next isSeparator =>
          obtain ⟨rfl, rfl⟩ := Prod.mk.inj (Option.some.inj split)
          exact ⟨List.not_mem_nil, by rw [isSeparator, List.nil_append]⟩
        next different =>
          obtain ⟨⟨front, behind⟩, restSplit, equal⟩ := Option.map_eq_some_iff.mp split
          obtain ⟨rfl, rfl⟩ := Prod.mk.inj equal
          obtain ⟨free, rfl⟩ := inductionHypothesis restSplit
          exact ⟨List.not_mem_cons_of_ne_of_not_mem (Ne.symm different) free, rfl⟩
  · rintro ⟨free, rfl⟩
    exact splitAtFirst_append free after

end Understudy.Text
