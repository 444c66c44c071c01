import Understudy.Proofs.NameMap
import Understudy.Scenario

/-!
# Known scenarios

Which scenarios a store knows behind each of its changes.  Making a scenario known adds it as it is
when it has not started, and leaves all other look-ups alone.  No change but the reset of the whole
store forgets a scenario.
-/

namespace Understudy.ScenarioStore

variable (store : ScenarioStore)

/-- A scenario is made known as a new one, unless it is known already. -/
theorem find?_ensure (name other : String) :
    (store.ensure name).find? other =
      if other = name then some (store.entry name) else store.find? other := by
  unfold ensure entry
  split
  next known =>
    obtain ⟨scenario, found⟩ := (store.contains_eq_true_iff name).mp known
    split
    next same => rw [same, found, Option.getD_some]
    · rfl
  next unknown =>
    rw [Bool.not_eq_true, store.contains_eq_false_iff] at unknown
    rw [NameMap.find?_insert, unknown, Option.getD_none]

theorem find?_ensure_of_known {name other : String} {scenario : Scenario}
    (known : store.find? other = some scenario) :
    (store.ensure name).find? other = some scenario := by
  rw [find?_ensure]
  split
  next same => rw [entry, ← same, known, Option.getD_some]
  · exact known

theorem contains_ensure_iff (name other : String) :
    (store.ensure name).contains other = true ↔ other = name ∨ store.contains other = true := by
  rw [NameMap.contains, find?_ensure]
  split
  next same => simp [same]
  next different => simp [different, NameMap.contains]

theorem contains_recordWin {other : String} (known : store.contains other = true)
    (mapping : Mapping) : (store.recordWin mapping).2.contains other = true := by
  unfold recordWin
  split
  · dsimp only
    split
    · exact (store.contains_insert_iff _ other _).mpr (.inr known)
    · exact (store.contains_insert_iff _ other _).mpr (.inr known)
  · exact known

theorem contains_resetScenario {other : String} (known : store.contains other = true)
    (name : String) : (store.resetScenario name).contains other = true := by
  unfold resetScenario
  split
  · exact (store.contains_insert_iff name other _).mpr (.inr known)
  · exact known

end Understudy.ScenarioStore
