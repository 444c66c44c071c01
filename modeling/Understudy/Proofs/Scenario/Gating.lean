import Understudy.Proofs.Matching.Evaluation
import Understudy.Proofs.NameMap
import Understudy.Resolution

/-!
# Gating by scenarios

The state that gates the mappings of a scenario, through every change of the store.  Making a
scenario known leaves every gating state alone; a win that moves a scenario and an explicit move
decide that of their own scenario.  The condition on the state is one of the conditions of a
mapping, so a mapping that is met in full is in its required state.
-/

namespace Understudy

/-- The state with which a scenario gates its mappings. -/
def Scenario.gate (scenario : Scenario) : Option String :=
  if scenario.started then scenario.state else none

namespace Scenario

@[simp]
theorem gate_new (name : String) : (new name).gate = none :=
  rfl

@[simp]
theorem gate_moveTo (scenario : Scenario) (state : String) :
    (scenario.moveTo state).gate = some state :=
  rfl

@[simp]
theorem gate_countWin (scenario : Scenario) : scenario.countWin.gate = scenario.gate := by
  unfold countWin
  split <;> rfl

end Scenario

namespace ScenarioStore

/-- The scenario of that name is known and has started. -/
def HasStarted (store : ScenarioStore) (name : String) : Prop :=
  ∃ scenario, store.find? name = some scenario ∧ scenario.started = true

/-- Every scenario that has started is in a state. -/
def Coherent (store : ScenarioStore) : Prop :=
  ∀ name scenario, store.find? name = some scenario → scenario.started = true →
    scenario.state ≠ none

variable (store : ScenarioStore)

/-! ## Gating states -/

theorem currentState_eq_bind_gate (name : String) :
    store.currentState name = (store.find? name).bind Scenario.gate := by
  unfold currentState
  cases store.find? name with
  | none => rfl
  | some scenario =>
      cases started : scenario.started with
      | false => simp [Scenario.gate, started]
      | true => simp [Scenario.gate, started, Option.filter]

/-- A scenario that is not known gates with the state of a new one. -/
theorem gate_entry (name : String) : (store.entry name).gate = store.currentState name := by
  rw [currentState_eq_bind_gate, entry]
  cases store.find? name with
  | none => rfl
  | some scenario => rfl

theorem currentState_insert (name other : String) (scenario : Scenario) :
    ScenarioStore.currentState (store.insert name scenario) other =
      if other = name then scenario.gate else store.currentState other := by
  rw [currentState_eq_bind_gate, NameMap.find?_insert]
  split
  · rfl
  · rw [currentState_eq_bind_gate]

/-- Making a scenario known leaves every gating state as it is. -/
theorem currentState_ensure (name other : String) :
    (store.ensure name).currentState other = store.currentState other := by
  unfold ensure
  split
  · rfl
  next unknown =>
    rw [currentState_insert]
    split
    next same =>
      have absent : store.find? other = none := by
        simpa [NameMap.contains, same] using unknown
      rw [currentState_eq_bind_gate, absent]
      rfl
    · rfl

theorem currentState_advance (name other state : String) :
    (store.advance name state).currentState other =
      if other = name then some state else store.currentState other := by
  rw [advance, currentState_insert, Scenario.gate_moveTo]

/-- The outcomes of a win: no scenario moves, or the mapping's own scenario moves to the next
state of the mapping. -/
theorem currentState_recordWin (mapping : Mapping) :
    (∀ other, (store.recordWin mapping).2.currentState other = store.currentState other) ∨
      ∃ name next, mapping.scenario = some name ∧ mapping.nextState = some next ∧
        ∀ other, (store.recordWin mapping).2.currentState other =
          if other = name then some next else store.currentState other := by
  unfold recordWin
  split
  next name next scenarioEq nextEq =>
    dsimp only
    split
    · left
      intro other
      rw [currentState_insert, Scenario.gate_countWin, gate_entry]
      split
      next same => rw [same]
      · rfl
    · right
      refine ⟨name, next, scenarioEq, nextEq, ?_⟩
      intro other
      rw [currentState_insert, Scenario.gate_moveTo]
  · left
    intro other
    rfl

/-- In a coherent store a scenario gates with no state exactly if it has not started. -/
theorem Coherent.currentState_eq_none_iff {store : ScenarioStore} (coherent : store.Coherent)
    (name : String) : store.currentState name = none ↔ ¬store.HasStarted name := by
  rw [currentState_eq_bind_gate, HasStarted]
  cases found : store.find? name with
  | none => simp
  | some scenario =>
      cases started : scenario.started with
      | false => simp [Scenario.gate, started]
      | true => simpa [Scenario.gate, started] using coherent name scenario found started

/-! ## Coherence -/

theorem Coherent.empty : Coherent NameMap.empty :=
  nofun

namespace Coherent

variable {store : ScenarioStore}

theorem insert (coherent : store.Coherent) {name : String} {scenario : Scenario}
    (placed : scenario.started = true → scenario.state ≠ none) :
    Coherent (NameMap.insert store name scenario) := by
  intro other found look started
  rw [NameMap.find?_insert] at look
  split at look
  · cases look
    exact placed started
  · exact coherent other found look started

theorem entry (coherent : store.Coherent) (name : String) :
    (store.entry name).started = true → (store.entry name).state ≠ none := by
  unfold ScenarioStore.entry
  cases found : store.find? name with
  | none => exact nofun
  | some scenario => exact coherent name scenario found

theorem ensure (coherent : store.Coherent) (name : String) : (store.ensure name).Coherent := by
  unfold ScenarioStore.ensure
  split
  · exact coherent
  · exact coherent.insert nofun

theorem advance (coherent : store.Coherent) (name state : String) :
    (store.advance name state).Coherent :=
  coherent.insert fun _ => Option.some_ne_none state

theorem recordWin (coherent : store.Coherent) (mapping : Mapping) :
    (store.recordWin mapping).2.Coherent := by
  unfold ScenarioStore.recordWin
  split
  next name next _ _ =>
    dsimp only
    split
    · apply coherent.insert
      unfold Scenario.countWin
      split
      · exact coherent.entry name
      · exact coherent.entry name
    · exact coherent.insert fun _ => Option.some_ne_none next
  · exact coherent

end Coherent

end ScenarioStore

/-! ## The condition on the state -/

theorem Matching.stateSatisfied_iff (required gating : Option String) :
    stateSatisfied required gating = true ↔ required = gating := by
  cases gating with
  | none => simp [stateSatisfied]
  | some current => simp [stateSatisfied]

theorem Matching.stateSatisfied_eq_decide (required gating : Option String) :
    stateSatisfied required gating = decide (required = gating) := by
  rw [Bool.eq_iff_iff, stateSatisfied_iff, decide_eq_true_iff]

/-- The condition on the state is met exactly in the required state. -/
theorem RequestMatcher.isMet_stateCheck_iff (required gating : Option String)
    (request : Request) : (stateCheck required).IsMet request gating ↔ required = gating := by
  rw [Check.isMet_iff_of_scored rfl, Score.clamp_ofBool_eq_perfect_iff, Matching.stateSatisfied_iff]

namespace Mapping

theorem stateCheck_mem_checks {mapping : Mapping} {name : String}
    (inScenario : mapping.scenario = some name) :
    RequestMatcher.stateCheck mapping.requiredState ∈ mapping.checks := by
  simp [checks, inScenario]

/-- The last outcome in the result of a mapping of a scenario is that of its state. -/
theorem getLast?_details {mapping : Mapping} {name : String}
    (inScenario : mapping.scenario = some name) {request : Request} {gating : Option String}
    {result : MatchResult} (evaluated : mapping.evaluate request gating = .ok result) :
    result.details.getLast? = some ⟨"scenario_state",
      .ofBool (Matching.stateSatisfied mapping.requiredState gating), none⟩ := by
  obtain ⟨-, detailsEq, -⟩ := evaluate_eq_ok_iff.mp evaluated
  have verdictsEq : mapping.verdicts request gating =
      mapping.matcher.checks.map (fun check => (check.name, check.judge request gating)) ++
        [("scenario_state",
          .scored (.ofBool (Matching.stateSatisfied mapping.requiredState gating)))] := by
    simp [verdicts, checks, inScenario, RequestMatcher.stateCheck]
  rw [detailsEq, verdictsEq, List.filterMap_append]
  simp [detail?, Score.clamp_ofBool]

/-- A mapping outside its required state has no match for that in its result. -/
theorem mismatch_mem_scores {mapping : Mapping} {name : String}
    (inScenario : mapping.scenario = some name) {request : Request} {gating : Option String}
    {result : MatchResult} (evaluated : mapping.evaluate request gating = .ok result)
    (outside : mapping.requiredState ≠ gating) : Score.mismatch ∈ result.scores := by
  have satisfied : Matching.stateSatisfied mapping.requiredState gating = false := by
    rw [Bool.eq_false_iff, Ne, Matching.stateSatisfied_iff]
    exact outside
  have last := getLast?_details inScenario evaluated
  rw [satisfied] at last
  exact List.mem_map.mpr ⟨_, List.mem_of_getLast? last, rfl⟩

/-- A mapping of a scenario with a perfect result is in its required state. -/
theorem requiredState_eq_of_isPerfect {mapping : Mapping} {name : String}
    (inScenario : mapping.scenario = some name) {store : ScenarioStore} {request : Request}
    {result : MatchResult}
    (evaluated : mapping.evaluate request (gatingState store mapping) = .ok result)
    (perfect : result.isPerfect = true) : mapping.requiredState = store.currentState name := by
  have met := isMet_of_evaluate_eq_ok evaluated perfect (stateCheck_mem_checks inScenario)
  have same := (RequestMatcher.isMet_stateCheck_iff _ _ _).mp met
  rwa [gatingState, inScenario] at same

end Mapping

end Understudy
