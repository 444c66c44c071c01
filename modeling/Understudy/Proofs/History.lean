import Mathlib.Data.List.Basic

/-!
# Histories

What still holds at the end of a list of events because of one of them.  An event counts as long
as no later event breaks it, so one more event either starts it anew or has to leave it whole.
Likewise the latest event that begins something is the last one, or else that of the history
before it.
-/

namespace Understudy

universe u

variable {α : Type u} {starts : List α → α → Prop} {breaks : α → Prop}

/-- One event among the events of a history and one more is that one, or it has its place in the
history. -/
theorem concat_eq_append_cons_iff {history before after : List α} {event first : α} :
    history ++ [event] = before ++ first :: after ↔
      before = history ∧ first = event ∧ after = [] ∨
        ∃ middle, after = middle ++ [event] ∧ history = before ++ first :: middle := by
  constructor
  · intro split
    rcases List.eq_nil_or_concat after with rfl | ⟨middle, last, rfl⟩
    · obtain ⟨rfl, same⟩ := List.append_inj' split rfl
      exact .inl ⟨rfl, (List.singleton_inj.mp same).symm, rfl⟩
    · rw [List.concat_eq_append, ← List.cons_append, ← List.append_assoc] at split
      obtain ⟨rfl, same⟩ := List.append_inj' split rfl
      rw [List.concat_eq_append, List.singleton_inj.mp same]
      exact .inr ⟨middle, rfl, rfl⟩
  · rintro (⟨rfl, rfl, rfl⟩ | ⟨middle, rfl, rfl⟩)
    · rfl
    · rw [List.append_assoc, List.cons_append]

/-- Some event started it, in view of what happened before, and no event behind that breaks it. -/
def Since (starts : List α → α → Prop) (breaks : α → Prop) (history : List α) : Prop :=
  ∃ before event after, history = before ++ event :: after ∧ starts before event ∧
    ∀ later ∈ after, ¬breaks later

theorem not_since_nil : ¬Since starts breaks [] := by
  rintro ⟨before, event, after, split, -⟩
  exact absurd split.symm (by simp)

/-- After one more event it holds if that event starts it, or if it held and is not broken. -/
theorem since_concat_iff {history : List α} {event : α} :
    Since starts breaks (history ++ [event]) ↔
      starts history event ∨ Since starts breaks history ∧ ¬breaks event := by
  constructor
  · rintro ⟨before, first, after, split, started, unbroken⟩
    rcases concat_eq_append_cons_iff.mp split with ⟨rfl, rfl, rfl⟩ | ⟨middle, rfl, rfl⟩
    · exact .inl started
    · rw [List.forall_mem_append, List.forall_mem_singleton] at unbroken
      exact .inr ⟨⟨before, first, middle, rfl, started, unbroken.1⟩, unbroken.2⟩
  · rintro (started | ⟨⟨before, first, after, rfl, started, unbroken⟩, whole⟩)
    · exact ⟨history, event, [], rfl, started, nofun⟩
    · refine ⟨before, first, after ++ [event], by simp, started, ?_⟩
      rw [List.forall_mem_append, List.forall_mem_singleton]
      exact ⟨unbroken, whole⟩

/-! ## The latest beginning -/

variable {begins : List α → α → Prop}

/-- The history has these parts, and the event between them is the last one that begins something,
in view of what happened before. -/
structure IsLatest (begins : List α → α → Prop) (history before : List α) (event : α)
    (after : List α) : Prop where
  split : history = before ++ event :: after
  begun : begins before event
  last : ∀ between later rest, after = between ++ later :: rest →
    ¬begins (before ++ event :: between) later

/-- After one more event that event is the latest beginning, or it begins nothing and the latest
beginning is that of the history before. -/
theorem isLatest_concat_iff {history before after : List α} {event first : α} :
    IsLatest begins (history ++ [event]) before first after ↔
      begins history event ∧ before = history ∧ first = event ∧ after = [] ∨
      ¬begins history event ∧ ∃ middle, after = middle ++ [event] ∧
        IsLatest begins history before first middle := by
  constructor
  · rintro ⟨split, begun, last⟩
    rcases concat_eq_append_cons_iff.mp split with ⟨rfl, rfl, rfl⟩ | ⟨middle, rfl, rfl⟩
    · exact .inl ⟨begun, rfl, rfl, rfl⟩
    · refine .inr ⟨last middle event [] rfl, middle, rfl, rfl, begun, ?_⟩
      rintro between later rest rfl
      exact last between later (rest ++ [event]) (by simp)
  · rintro (⟨begun, rfl, rfl, rfl⟩ | ⟨ends, middle, rfl, rfl, begun, last⟩)
    · exact ⟨rfl, begun, fun between later rest none => absurd none.symm (by simp)⟩
    · refine ⟨by simp, begun, ?_⟩
      intro between later rest parts
      rcases concat_eq_append_cons_iff.mp parts with ⟨rfl, rfl, -⟩ | ⟨earlier, rfl, rfl⟩
      · exact ends
      · exact last between later earlier rfl

end Understudy
