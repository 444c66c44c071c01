import Mathlib.Data.List.DropRight
import Understudy.Text.Blank

/-!
# Trimmed texts

What trimming leaves is a part of the text that neither begins nor ends in white space, and such a
text is left as it is.  White space before a text makes no difference to what is left of it.
-/

namespace Understudy.Text

/-- The characters neither begin nor end in white space. -/
structure IsTrimmed (characters : List Char) : Prop where
  first : ∀ c ∈ characters.head?, isBlank c = false
  last : ∀ c ∈ characters.getLast?, isBlank c = false

theorem trimChars_eq_rdropWhile (characters : List Char) :
    trimChars characters = (characters.dropWhile isBlank).rdropWhile isBlank :=
  rfl

theorem trimChars_isInfix (characters : List Char) : trimChars characters <:+: characters :=
  (List.rdropWhile_prefix isBlank _).isInfix.trans (List.dropWhile_suffix isBlank).isInfix

theorem mem_of_mem_trimChars {c : Char} {characters : List Char}
    (member : c ∈ trimChars characters) : c ∈ characters :=
  (trimChars_isInfix characters).subset member

theorem isTrimmed_trimChars (characters : List Char) : IsTrimmed (trimChars characters) where
  first := by
    intro c isFirst
    -- what is dropped at the end stands behind the first character that is kept
    obtain ⟨dropped, kept⟩ := List.rdropWhile_prefix isBlank (l := characters.dropWhile isBlank)
    have isHead : (characters.dropWhile isBlank).head? = some c := by
      rw [← kept, List.head?_append, ← trimChars_eq_rdropWhile, Option.mem_def.mp isFirst,
        Option.some_or]
    have notBlank := List.head?_dropWhile_not isBlank characters
    rw [isHead] at notBlank
    exact notBlank
  last := by
    intro c isLast
    have nonempty : trimChars characters ≠ [] := List.ne_nil_of_mem (List.mem_of_getLast? isLast)
    have notBlank := List.rdropWhile_last_not isBlank (characters.dropWhile isBlank) nonempty
    rw [List.getLast?_eq_some_getLast nonempty, Option.mem_some_iff] at isLast
    subst isLast
    exact eq_false_of_ne_true notBlank

theorem trimChars_of_isTrimmed {characters : List Char} (trimmed : IsTrimmed characters) :
    trimChars characters = characters := by
  have front : characters.dropWhile isBlank = characters := by
    cases characters with
    | nil => rfl
    | cons c rest => exact List.dropWhile_cons_of_neg (by simp [trimmed.first c rfl])
  rw [trimChars_eq_rdropWhile, front, List.rdropWhile_eq_self_iff]
  intro nonempty blank
  rw [trimmed.last _ (List.getLast?_eq_some_getLast nonempty)] at blank
  exact Bool.false_ne_true blank

theorem trimChars_eq_self_iff {characters : List Char} :
    trimChars characters = characters ↔ IsTrimmed characters :=
  ⟨fun same => same ▸ isTrimmed_trimChars characters, trimChars_of_isTrimmed⟩

instance (characters : List Char) : Decidable (IsTrimmed characters) :=
  decidable_of_iff (trimChars characters = characters) trimChars_eq_self_iff

theorem trimChars_cons_of_isBlank {c : Char} (blank : isBlank c = true) (characters : List Char) :
    trimChars (c :: characters) = trimChars characters := by
  rw [trimChars_eq_rdropWhile, List.dropWhile_cons_of_pos blank, trimChars_eq_rdropWhile]

/-- Trimmed characters are joined to trimmed ones by a character that is not white space. -/
theorem IsTrimmed.append_cons {before after : List Char} {c : Char}
    (trimmedBefore : IsTrimmed before) (visible : isBlank c = false)
    (trimmedAfter : IsTrimmed after) :
    IsTrimmed (before ++ c :: after) where
  first := by
    intro first isFirst
    cases before with
    | nil => exact Option.mem_some_iff.mp isFirst ▸ visible
    | cons head rest => exact trimmedBefore.first first isFirst
  last := by
    intro last isLast
    rw [List.getLast?_append_cons] at isLast
    cases after with
    | nil => exact Option.mem_some_iff.mp isLast ▸ visible
    | cons head rest => exact trimmedAfter.last last (by simpa using isLast)

end Understudy.Text
