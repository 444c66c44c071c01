import Understudy.Proofs.Scenario.Counting
import Understudy.Proofs.Scenario.Gating

/-!
# Sound scenario stores

What every store that begins without scenarios keeps through all changes.  A scenario stands under
its own name, has started exactly if it is in a state, and has counted fewer wins than the greatest
count.  That bound comes from the mappings: a win that moves no scenario leaves the count below the
wins that its mapping needs, and no mapping can need more than the greatest count.  So no win is
lost, and enough wins of any mapping move its scenario.
-/

namespace Understudy

/-! ## Sound scenarios -/

/-- The scenario of a name as every store has it. -/
structure Scenario.IsSound (name : String) (scenario : Scenario) : Prop where
  name_eq : scenario.name = name
  started_iff : scenario.started = true ↔ scenario.state.isSome = true
  /-- The greatest count is never reached. -/
  counter_lt : scenario.counter.toNat < 2 ^ 32 - 1

namespace Scenario.IsSound

variable {name : String} {scenario : Scenario}

theorem new (name : String) : IsSound name (Scenario.new name) where
  name_eq := rfl
  started_iff := Iff.rfl
  counter_lt := by
    change (0 : UInt32).toNat < 2 ^ 32 - 1
    decide

/-- A scenario that is moved begins a new count. -/
theorem moved (sound : IsSound name scenario) (state : String) :
    IsSound name { scenario with state := some state, started := true, counter := 0 } where
  name_eq := sound.name_eq
  started_iff := Iff.rfl
  counter_lt := (new name).counter_lt

/-- One more win is counted for a mapping that needs more than that. -/
theorem counted (sound : IsSound name scenario) {required : UInt32}
    (short : scenario.counter.toNat + 1 < required.toNat) :
    IsSound name { scenario with counter := scenario.counter + 1 } where
  name_eq := sound.name_eq
  started_iff := sound.started_iff
  counter_lt := by
    have bounded := required.toNat_lt
    rw [toNat_counter_add_one sound.counter_lt]
    omega

/-- A win is never lost at the greatest count. -/
theorem toNat_counter_countWin (sound : IsSound name scenario) :
    scenario.countWin.counter.toNat = scenario.counter.toNat + 1 := by
  have below := sound.counter_lt
  rw [countWin, if_neg]
  · exact toNat_counter_add_one below
  · intro greatest
    rw [greatest] at below
    exact absurd below (by decide)

theorem gate_eq_state (sound : IsSound name scenario) : scenario.gate = scenario.state := by
  rw [gate]
  split
  · rfl
  next notStarted =>
    rw [sound.started_iff, Bool.not_eq_true, Option.isSome_eq_false_iff,
      Option.isNone_iff_eq_none] at notStarted
    exact notStarted.symm

end Scenario.IsSound

namespace ScenarioStore

/-! ## Sound stores -/

/-- Every scenario of the store is sound under its name. -/
def IsSound (store : ScenarioStore) : Prop :=
  ∀ name scenario, store.find? name = some scenario → scenario.IsSound name

namespace IsSound

variable {store : ScenarioStore}

theorem empty : IsSound NameMap.empty :=
  nofun

theorem insert (sound : store.IsSound) {name : String} {scenario : Scenario}
    (placed : scenario.IsSound name) : IsSound (NameMap.insert store name scenario) := by
  intro other found look
  rw [NameMap.find?_insert] at look
  split at look
  next same =>
    obtain rfl := Option.some.inj look
    exact same ▸ placed
  · exact sound other found look

theorem entry (sound : store.IsSound) (name : String) : (store.entry name).IsSound name := by
  cases known : store.contains name with
  | false => exact entry_of_unknown known ▸ .new name
  | true =>
      obtain ⟨scenario, found⟩ := (store.contains_eq_true_iff name).mp known
      exact entry_of_find? found ▸ sound name scenario found

theorem recordWin (sound : store.IsSound) (mapping : Mapping) :
    (store.recordWin mapping).2.IsSound := by
  cases inScenario : mapping.scenario with
  | none => simpa [ScenarioStore.recordWin, inScenario] using sound
  | some name =>
      cases hasNext : mapping.nextState with
      | none => simpa [ScenarioStore.recordWin, hasNext] using sound
      | some next =>
          rw [recordWin_eq store inScenario hasNext]
          split
          · exact sound.insert ((sound.entry name).moved next)
          next short => exact sound.insert ((sound.entry name).counted (Nat.lt_of_not_le short))

/-- Every change keeps a store sound. -/
theorem change (sound : store.IsSound) (change : ScenarioChange) :
    (store.change change).IsSound := by
  cases change with
  | ensure name =>
      rw [ScenarioStore.change, ensure]
      split
      · exact sound
      · exact sound.insert (.new name)
  | advance name state => exact sound.insert ((sound.entry name).moved state)
  | recordWin mapping => exact sound.recordWin mapping
  | resetScenario name =>
      rw [ScenarioStore.change, resetScenario]
      split
      · exact sound.insert (.new name)
      · exact sound
  | reset => exact empty

end IsSound

theorem isSound_changedBy (changes : List ScenarioChange) : (changedBy changes).IsSound := by
  induction changes using List.reverseRecOn with
  | nil => exact .empty
  | append_singleton changes change inductionHypothesis =>
      rw [changedBy_concat]
      exact inductionHypothesis.change change

/-! ## What a sound store shows -/

section

variable {store : ScenarioStore}

/-- The state of a scenario gates its mappings. -/
theorem IsSound.currentState_eq (sound : store.IsSound) (name : String) :
    store.currentState name = (store.find? name).bind Scenario.state := by
  rw [currentState_eq_bind_gate]
  cases found : store.find? name with
  | none => rfl
  | some scenario => exact (sound name scenario found).gate_eq_state

theorem IsSound.name_eq_of_mem (sound : store.IsSound) {entry : String × Scenario}
    (member : entry ∈ store.entries) : entry.2.name = entry.1 :=
  (sound entry.1 entry.2 (store.find?_eq_some_of_mem member)).name_eq

/-- The scenarios stand in strictly ascending order of their own names. -/
theorem IsSound.pairwise_entries (sound : store.IsSound) :
    (store.entries.map Prod.snd).Pairwise fun first second => first.name < second.name := by
  rw [List.pairwise_map]
  refine store.ascending.imp_of_mem fun first second ascends => ?_
  rwa [sound.name_eq_of_mem first, sound.name_eq_of_mem second]

/-- Sorting by name leaves the scenarios where they stand. -/
theorem IsSound.all_eq (sound : store.IsSound) : store.all = store.entries.map Prod.snd :=
  List.mergeSort_of_pairwise
    (sound.pairwise_entries.imp fun ascends => decide_eq_true ascends.le)

theorem IsSound.pairwise_all (sound : store.IsSound) :
    store.all.Pairwise fun first second => first.name < second.name := by
  rw [sound.all_eq]
  exact sound.pairwise_entries

/-- Exactly the scenario that is known under a name is listed with that name. -/
theorem IsSound.filter_all (sound : store.IsSound) (name : String) :
    store.all.filter (fun scenario => scenario.name = name) = (store.find? name).toList := by
  have ownNames : ∀ entry ∈ store.entries,
      decide (entry.2.name = name) = (entry.1 == name) := by
    intro entry member
    rw [sound.name_eq_of_mem member, beq_eq_decide]
  rw [sound.all_eq, List.filter_map, Function.comp_def, List.filter_congr ownNames,
    NameMap.filter_name_eq store.ascending, NameMap.find?]
  cases store.entries.lookup name with
  | none => rfl
  | some scenario => rfl

end

/-! ## Repeated wins -/

section

variable {changes : List ScenarioChange} {mapping : Mapping} {name next : String}

/-- The wins of a mapping that its scenario lacks before the one that moves it. -/
def lackingWins (store : ScenarioStore) (mapping : Mapping) (name : String) : Nat :=
  (requiredWins mapping).toNat - ((store.entry name).counter.toNat + 1)

theorem changedBy_replicate_succ (wins : Nat) :
    changedBy (changes ++ List.replicate (wins + 1) (.recordWin mapping)) =
      ((changedBy (changes ++ List.replicate wins (.recordWin mapping))).recordWin mapping).2 := by
  rw [List.replicate_succ', ← List.append_assoc, changedBy_concat, change]

/-- As long as wins are lacking, each one is counted. -/
theorem toNat_counter_changedBy_replicate (inScenario : mapping.scenario = some name)
    (hasNext : mapping.nextState = some next) {wins : Nat}
    (lacking : wins ≤ (changedBy changes).lackingWins mapping name) :
    ((changedBy (changes ++ List.replicate wins (.recordWin mapping))).entry name).counter.toNat =
      ((changedBy changes).entry name).counter.toNat + wins := by
  induction wins with
  | zero => rw [List.replicate_zero, List.append_nil, Nat.add_zero]
  | succ wins inductionHypothesis =>
      have counted := inductionHypothesis (Nat.le_of_succ_le lacking)
      -- one more win is lacking, so this one is short of what the mapping needs
      rw [lackingWins] at lacking
      rw [changedBy_replicate_succ, recordWin_eq _ inScenario hasNext, if_neg (by omega),
        entry_insert, if_pos rfl,
        Scenario.toNat_counter_add_one ((isSound_changedBy _).entry name).counter_lt, counted]
      omega

/-- The win that is no longer lacking moves the scenario, and none before it does. -/
theorem fst_recordWin_changedBy_replicate (inScenario : mapping.scenario = some name)
    (hasNext : mapping.nextState = some next) {wins : Nat}
    (lacking : wins ≤ (changedBy changes).lackingWins mapping name) :
    ((changedBy (changes ++ List.replicate wins (.recordWin mapping))).recordWin mapping).1 =
      if wins = (changedBy changes).lackingWins mapping name then some next else none := by
  have counted := toNat_counter_changedBy_replicate inScenario hasNext lacking
  rw [recordWin_eq _ inScenario hasNext, counted]
  rw [lackingWins] at lacking ⊢
  split
  next enough => rw [if_pos (by omega)]
  next short => rw [if_neg (by omega)]

end

end ScenarioStore

/-- In every store that begins without scenarios, behind any changes, a scenario stands under its own
name, has started exactly if it is in a state, and has counted fewer wins than the greatest count.
So one more win is always counted, a mapping moves its scenario with exactly the win that completes
what it needs, a scenario gates with its state, and all scenarios that are known are listed once
each, strictly ascending by their names. -/
theorem changed_scenarios_are_sound (changes : List ScenarioChange) :
    let store := ScenarioStore.changedBy changes
    (∀ name scenario, store.find? name = some scenario →
      scenario.name = name ∧ (scenario.started = true ↔ scenario.state.isSome = true) ∧
        scenario.counter.toNat < 2 ^ 32 - 1) ∧
    (∀ name, (store.entry name).countWin.counter.toNat =
      (store.entry name).counter.toNat + 1) ∧
    (∀ mapping name next, mapping.scenario = some name → mapping.nextState = some next →
      let lacking := (mapping.winsInState.getD 1).toNat - ((store.entry name).counter.toNat + 1)
      ∀ wins ≤ lacking,
        let behind := ScenarioStore.changedBy (changes ++ List.replicate wins (.recordWin mapping))
        (behind.recordWin mapping).1 = if wins = lacking then some next else none) ∧
    (∀ name, store.currentState name = (store.find? name).bind Scenario.state) ∧
    (store.all.Pairwise fun first second => first.name < second.name) ∧
    ∀ name, store.all.filter (fun scenario => scenario.name = name) =
      (store.find? name).toList := by
  intro store
  have sound : store.IsSound := ScenarioStore.isSound_changedBy changes
  refine ⟨?entries, ?wins, ?reached, sound.currentState_eq, sound.pairwise_all, sound.filter_all⟩
  case entries =>
    intro name scenario found
    exact ⟨(sound name scenario found).name_eq, (sound name scenario found).started_iff,
      (sound name scenario found).counter_lt⟩
  case wins => exact fun name => (sound.entry name).toNat_counter_countWin
  case reached =>
    intro mapping name next inScenario hasNext lacking wins atMost
    exact ScenarioStore.fst_recordWin_changedBy_replicate inScenario hasNext atMost

end Understudy
