import Understudy.Proofs.Registry.Dictionary
import Understudy.Proofs.Scenario.Known
import Understudy.Proofs.Server.Operation

/-!
# Commands to an engine

The registry and the scenarios through any commands.  A registration that fails leaves both as they
were, and one that succeeds places the mapping and makes its scenario known without touching any
other.  So at every moment the scenario of every registered mapping is known: a mapping that
replaces another brings its own scenario along, and only a reset, which also removes all mappings,
forgets scenarios.
-/

namespace Understudy

namespace Engine

/-- What is asked of an engine. -/
inductive Command where
  | register (mapping : Mapping)
  | remove (id : Identifier)
  | reset
  | resolve (request : Request) (now : Instant)
  /-- The win of any mapping, whether it is still registered or not. -/
  | recordWin (mapping : Mapping)
  | ensure (name : String)
  | advance (name state : String)
  | resetScenario (name : String)

/-- The engine behind a command; a mapping that is refused changes nothing. -/
def perform (engine : Engine) : Command → Engine
  | .register mapping =>
      match engine.register mapping with
      | .ok (registered, _) => registered
      | .error _ => engine
  | .remove id => (engine.remove id).2.1
  | .reset => engine.reset.1
  | .resolve request now => (engine.resolve request now).2.1
  | .recordWin mapping => (engine.recordWin mapping).2
  | .ensure name => { engine with scenarios := engine.scenarios.ensure name }
  | .advance name state => { engine with scenarios := engine.scenarios.advance name state }
  | .resetScenario name => { engine with scenarios := engine.scenarios.resetScenario name }

/-- The engine behind several commands. -/
def performAll (engine : Engine) (commands : List Command) : Engine :=
  commands.foldl perform engine

/-- The scenario of every registered mapping is known. -/
def KnowsScenarios (engine : Engine) : Prop :=
  ∀ mapping ∈ engine.registry.mappings, ∀ name, mapping.scenario = some name →
    engine.scenarios.contains name = true

/-! ## Registration -/

section

variable {engine : Engine} {mapping : Mapping}

theorem register_eq_error_iff {problem : MappingError} :
    engine.register mapping = .error problem ↔ mapping.validate = .error problem := by
  rw [← engine.upsert_eq_error_iff, register]
  cases engine.upsert mapping with
  | error found => simp
  | ok registered => simp

/-- A registration that succeeds leaves the engine with the mapping. -/
theorem eq_withMapping_of_register {registered : Engine} {events : List Event}
    (accepted : engine.register mapping = .ok (registered, events)) :
    registered = engine.withMapping mapping := by
  cases problem : mapping.problem? with
  | none =>
      obtain ⟨reported, registers⟩ := engine.exists_register_eq_ok problem
      rw [registers, Except.ok.injEq, Prod.mk.injEq] at accepted
      exact accepted.1.symm
  | some reason =>
      rw [engine.register_eq_error problem] at accepted
      cases accepted

/-- A scenario that is known stays as it is. -/
theorem find?_withMapping_of_known {name : String} {scenario : Scenario}
    (known : engine.scenarios.find? name = some scenario) :
    (engine.withMapping mapping).scenarios.find? name = some scenario := by
  unfold withMapping
  cases mapping.scenario with
  | none => exact known
  | some own => exact engine.scenarios.find?_ensure_of_known known

/-- Of the scenarios that are not known, that of the mapping is added as a new one. -/
theorem find?_withMapping_of_unknown {name : String}
    (unknown : engine.scenarios.find? name = none) :
    (engine.withMapping mapping).scenarios.find? name =
      if mapping.scenario = some name then some (Scenario.new name) else none := by
  unfold withMapping
  cases mapping.scenario with
  | none => exact unknown
  | some own =>
      rw [Option.elim_some, ScenarioStore.find?_ensure, unknown]
      by_cases same : name = own
      · rw [if_pos same, if_pos (congrArg some same.symm), ScenarioStore.entry, ← same, unknown,
          Option.getD_none]
      · rw [if_neg same, if_neg fun equal => same (Option.some.inj equal).symm]

end

/-! ## What one command preserves -/

namespace KnowsScenarios

variable {engine : Engine}

theorem of_mappings_eq_nil (empty : engine.registry.mappings = []) : engine.KnowsScenarios := by
  intro mapping member
  rw [empty] at member
  cases member

/-- With no further mapping and no scenario forgotten, the scenarios of all mappings are known. -/
theorem mono (knows : engine.KnowsScenarios) {behind : Engine}
    (registered : ∀ mapping ∈ behind.registry.mappings, mapping ∈ engine.registry.mappings)
    (known : ∀ name, engine.scenarios.contains name = true →
      behind.scenarios.contains name = true) : behind.KnowsScenarios :=
  fun mapping member name inScenario =>
    known name (knows mapping (registered mapping member) name inScenario)

theorem withMapping (knows : engine.KnowsScenarios) (mapping : Mapping) :
    (engine.withMapping mapping).KnowsScenarios := by
  intro other member name inScenario
  rcases Registry.eq_or_mem_of_mem_place member with rfl | earlier
  · rw [Engine.withMapping, inScenario]
    exact (engine.scenarios.contains_ensure_iff name name).mpr (.inl rfl)
  · obtain ⟨scenario, found⟩ :=
      (engine.scenarios.contains_eq_true_iff name).mp (knows other earlier name inScenario)
    exact (NameMap.contains_eq_true_iff _ name).mpr ⟨scenario, find?_withMapping_of_known found⟩

theorem perform (knows : engine.KnowsScenarios) (command : Command) :
    (engine.perform command).KnowsScenarios := by
  cases command with
  | register mapping =>
      rw [Engine.perform]
      split
      next registered events accepted =>
        rw [eq_withMapping_of_register accepted]
        exact knows.withMapping mapping
      · exact knows
  | remove id =>
      obtain ⟨-, scenariosEq⟩ := Server.remove_frame engine id
      refine knows.mono ?_ fun name known => ?_
      · rw [Engine.perform, registry_remove]
        exact fun mapping member => List.mem_of_mem_eraseP member
      · rwa [Engine.perform, scenariosEq]
  | reset => exact .of_mappings_eq_nil rfl
  | resolve request now => exact knows
  | recordWin mapping =>
      exact knows.mono (fun _ => id) fun _ known =>
        engine.scenarios.contains_recordWin known mapping
  | ensure name =>
      exact knows.mono (fun _ => id) fun other known =>
        (engine.scenarios.contains_ensure_iff name other).mpr (.inr known)
  | advance name state =>
      exact knows.mono (fun _ => id) fun other known =>
        (engine.scenarios.contains_insert_iff name other _).mpr (.inr known)
  | resetScenario name =>
      exact knows.mono (fun _ => id) fun _ known =>
        engine.scenarios.contains_resetScenario known name

/-! ## Runs -/

theorem performAll (knows : engine.KnowsScenarios) (commands : List Command) :
    (engine.performAll commands).KnowsScenarios := by
  induction commands generalizing engine with
  | nil => exact knows
  | cons command rest inductionHypothesis => exact inductionHypothesis (knows.perform command)

end KnowsScenarios

end Engine

/-- After any commands to a new engine the scenario of every registered mapping is known.  A
registration fails exactly for what validation finds, and then nothing changes.  One that
succeeds places the mapping in the registry, leaves every known scenario as it was, and adds at most
the scenario of the mapping, without a state, not started and with no wins counted. -/
theorem registration_is_atomic (settings : MatchingSettings) (draws : Draws)
    (commands : List Engine.Command) :
    let engine := (Engine.new settings draws).performAll commands
    engine.KnowsScenarios ∧
    (∀ mapping problem,
      (engine.register mapping = .error problem ↔ mapping.validate = .error problem) ∧
      (engine.register mapping = .error problem →
        engine.perform (.register mapping) = engine)) ∧
    ∀ mapping registered events, engine.register mapping = .ok (registered, events) →
      registered.registry.mappings = Registry.place mapping engine.registry.mappings ∧
      (∀ name scenario, engine.scenarios.find? name = some scenario →
        registered.scenarios.find? name = some scenario) ∧
      ∀ name, engine.scenarios.find? name = none →
        registered.scenarios.find? name =
          if mapping.scenario = some name then some ⟨name, none, false, 0⟩ else none := by
  intro engine
  have knows : (Engine.new settings draws).KnowsScenarios := .of_mappings_eq_nil rfl
  refine ⟨knows.performAll commands, ?failed, ?accepted⟩
  case failed =>
    intro mapping problem
    refine ⟨Engine.register_eq_error_iff, fun failed => ?_⟩
    rw [Engine.perform, failed]
  case accepted =>
    intro mapping registered events accepted
    obtain rfl := Engine.eq_withMapping_of_register accepted
    exact ⟨rfl, fun _ _ known => Engine.find?_withMapping_of_known known,
      fun _ unknown => Engine.find?_withMapping_of_unknown unknown⟩

/-- A mapping that moves to another scenario leaves the position of the first one behind. -/
example :
    let mapping := fun scenario => { Mapping.new (.ofNat 1) .empty with scenario := some scenario }
    ((Engine.new default (.replaying [])).performAll [.register (mapping "order"),
      .advance "order" "paid", .register (mapping "return")]).scenarios.all =
        [⟨"order", some "paid", true, 0⟩, ⟨"return", none, false, 0⟩] := by
  cbv

end Understudy
