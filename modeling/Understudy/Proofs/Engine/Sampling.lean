import Understudy.Proofs.Resolution.Drawing

/-!
# Draws of an engine in use

Which numbers are drawn while an engine resolves requests, and its registry and scenarios change
in between.  The numbers of a run are the first ones of the source, whatever is resolved.  Which of
them a mapping gets depends on the identifiers, the windows and the probabilities of the mappings
alone, and on the instants of the resolutions.
-/

namespace Understudy

/-! ## Runs -/

namespace Engine

/-- What happens to an engine in use. -/
inductive Step where
  | change (change : RegistryChange)
  /-- Whatever becomes of the scenarios, by wins or otherwise. -/
  | replaceScenarios (scenarios : ScenarioStore)
  | resolve (request : Request) (now : Instant)

/-- The engine behind a step. -/
def step (engine : Engine) : Step → Engine
  | .change change => engine.change change
  | .replaceScenarios scenarios => { engine with scenarios := scenarios }
  | .resolve request now => (engine.resolve request now).2.1

/-- The engine behind several steps. -/
def stepAll (engine : Engine) (steps : List Step) : Engine :=
  steps.foldl step engine

/-- The numbers drawn in a step. -/
def drawnIn (engine : Engine) : Step → List (Mapping × Float)
  | .resolve _ now => drawnAmong now engine.registry.mappings engine.draws
  | .change _ | .replaceScenarios _ => []

/-- The numbers drawn in a run. -/
def drawn (engine : Engine) : List Step → List (Mapping × Float)
  | [] => []
  | step :: rest => engine.drawnIn step ++ (engine.step step).drawn rest

/-- The mappings that a resolution evaluates. -/
def evaluated (engine : Engine) (now : Instant) : List Mapping :=
  (sample now engine.registry.mappings engine.draws).1

theorem drawn_append (engine : Engine) (before rest : List Step) :
    engine.drawn (before ++ rest) =
      engine.drawn before ++ (engine.stepAll before).drawn rest := by
  induction before generalizing engine with
  | nil => rfl
  | cons step before inductionHypothesis =>
      rw [List.cons_append, drawn, drawn, inductionHypothesis, List.append_assoc]
      rfl

theorem draws_change (engine : Engine) (change : RegistryChange) :
    (engine.change change).draws = engine.draws := by
  cases change with
  | upsert mapping =>
      rw [Engine.change, upsert]
      cases engine.registry.upsert mapping with
      | error problem => rfl
      | ok registry => rfl
  | remove id =>
      rw [Engine.change, remove]
      cases engine.registry.find? id with
      | none => rfl
      | some mapping => rfl
  | reset => rfl

theorem change_upsert_of_invalid (engine : Engine) {mapping : Mapping}
    (invalid : mapping.problem? ≠ none) : engine.change (.upsert mapping) = engine := by
  obtain ⟨problem, found⟩ := Option.ne_none_iff_exists'.mp invalid
  have refused : engine.upsert mapping = .error problem := by
    rw [upsert, Registry.upsert, found]
  exact change_upsert_of_refused engine refused

/-- The numbers drawn in a step are the next ones of the source, which stands behind them. -/
theorem take_length_drawnIn (engine : Engine) (step : Step) :
    engine.draws.take (engine.drawnIn step).length =
      ((engine.drawnIn step).map Prod.snd, (engine.step step).draws) := by
  cases step with
  | change change => exact congrArg (Prod.mk []) (engine.draws_change change).symm
  | replaceScenarios scenarios => rfl
  | resolve request now => exact take_length_drawnAmong engine.registry.mappings engine.draws

/-- The numbers drawn in a run are the next ones of the source, which stands behind them. -/
theorem take_length_drawn (engine : Engine) (steps : List Step) :
    engine.draws.take (engine.drawn steps).length =
      ((engine.drawn steps).map Prod.snd, (engine.stepAll steps).draws) := by
  induction steps generalizing engine with
  | nil => rfl
  | cons step rest inductionHypothesis =>
      rw [drawn, List.length_append, Draws.take_add, take_length_drawnIn, inductionHypothesis,
        List.map_append]
      rfl

/-- In a run of an engine without mappings what is registered is what some changes bind. -/
theorem exists_listsBindings_stepAll (settings : MatchingSettings) (draws : Draws)
    (steps : List Step) :
    ∃ changes, ListsBindings changes ((new settings draws).stepAll steps).registry.mappings := by
  induction steps using List.reverseRecOn with
  | nil => exact ⟨[], .nil⟩
  | append_singleton steps step inductionHypothesis =>
      obtain ⟨changes, lists⟩ := inductionHypothesis
      rw [stepAll, List.foldl_append]
      cases step with
      | change change => exact ⟨changes ++ [change], listsBindings_change lists change⟩
      | replaceScenarios scenarios => exact ⟨changes, lists⟩
      | resolve request now => exact ⟨changes, lists⟩

/-- Every number drawn is the one of its place in the source. -/
theorem snd_getElem?_drawn (engine : Engine) (steps : List Step) {draw : Nat}
    (less : draw < (engine.drawn steps).length) :
    (engine.drawn steps)[draw]?.map Prod.snd =
      some (engine.draws.value (engine.draws.made + draw)) := by
  have numbers : (engine.draws.take (engine.drawn steps).length).1 =
      (engine.drawn steps).map Prod.snd := congrArg Prod.fst (engine.take_length_drawn steps)
  rw [← List.getElem?_map, ← numbers, Draws.getElem?_take less]

end Engine

/-! ## Runs that differ in what is matched -/

/-- Sampling cannot tell the mappings apart, and neither or both of them can be registered. -/
structure Mapping.SampledAlike (first second : Mapping) : Prop where
  id : first.id = second.id
  probability : first.probability = second.probability
  window : first.window = second.window
  updatedAt : first.updatedAt = second.updatedAt
  problem : first.problem? = none ↔ second.problem? = none

section

variable {first second : List Mapping}

theorem Mapping.SampledAlike.sampleOne_eq {mapping other : Mapping}
    (alike : mapping.SampledAlike other) (now : Instant) (draws : Draws) :
    sampleOne now mapping draws = sampleOne now other draws := by
  unfold sampleOne isTimeValid
  rw [alike.probability, alike.window, alike.updatedAt]

theorem map_id_drawnAmong_eq (alike : List.Forall₂ Mapping.SampledAlike first second)
    (now : Instant) (draws : Draws) :
    (drawnAmong now first draws).map (Prod.map Mapping.id id) =
      (drawnAmong now second draws).map (Prod.map Mapping.id id) := by
  induction alike generalizing draws with
  | nil => rfl
  | @cons mapping other rest others head _ inductionHypothesis =>
      rw [drawnAmong, drawnAmong, drawnFor, drawnFor, head.sampleOne_eq, List.map_append,
        List.map_append, inductionHypothesis, List.map_map, List.map_map]
      simp only [Function.comp_def, Prod.map, head.id]

theorem Registry.forall₂_place (alike : List.Forall₂ Mapping.SampledAlike first second)
    {mapping other : Mapping} (registered : mapping.SampledAlike other) :
    List.Forall₂ Mapping.SampledAlike (place mapping first) (place other second) := by
  induction alike with
  | nil => exact .cons registered .nil
  | @cons placed replaced rest others head tail inductionHypothesis =>
      rw [place, place, head.id, registered.id]
      split
      · exact .cons registered tail
      · exact .cons head inductionHypothesis

theorem Registry.forall₂_eraseP (alike : List.Forall₂ Mapping.SampledAlike first second)
    (id : Identifier) :
    List.Forall₂ Mapping.SampledAlike (first.eraseP fun mapping => mapping.id == id)
      (second.eraseP fun mapping => mapping.id == id) := by
  induction alike with
  | nil => exact .nil
  | @cons placed replaced rest others head tail inductionHypothesis =>
      rw [List.eraseP_cons, List.eraseP_cons, head.id]
      cases replaced.id == id with
      | true => exact tail
      | false => exact .cons head inductionHypothesis

end

namespace Engine

/-- The steps differ at most in what is matched: in the request, in the scenarios, or in the
parts of a mapping that sampling does not look at. -/
inductive Step.SampledAlike : Step → Step → Prop where
  | upsert {mapping other : Mapping} :
      mapping.SampledAlike other → SampledAlike (.change (.upsert mapping)) (.change (.upsert other))
  | remove (id : Identifier) : SampledAlike (.change (.remove id)) (.change (.remove id))
  | reset : SampledAlike (.change .reset) (.change .reset)
  | replaceScenarios (scenarios others : ScenarioStore) :
      SampledAlike (.replaceScenarios scenarios) (.replaceScenarios others)
  | resolve (request other : Request) (now : Instant) :
      SampledAlike (.resolve request now) (.resolve other now)

/-- Sampling cannot tell the engines apart. -/
structure SampledAlike (first second : Engine) : Prop where
  mappings : List.Forall₂ Mapping.SampledAlike first.registry.mappings second.registry.mappings
  draws : first.draws = second.draws

namespace SampledAlike

variable {first second : Engine} {step other : Step}

theorem map_id_drawnIn_eq (alike : first.SampledAlike second) (steps : step.SampledAlike other) :
    (first.drawnIn step).map (Prod.map Mapping.id id) =
      (second.drawnIn other).map (Prod.map Mapping.id id) := by
  cases steps with
  | upsert registered => rfl
  | remove id => rfl
  | reset => rfl
  | replaceScenarios scenarios others => rfl
  | resolve request other now =>
      rw [drawnIn, drawnIn, alike.draws]
      exact map_id_drawnAmong_eq alike.mappings now second.draws

theorem step_step (alike : first.SampledAlike second) (steps : step.SampledAlike other) :
    (first.step step).SampledAlike (second.step other) where
  mappings := by
    cases steps with
    | @upsert mapping other registered =>
        by_cases valid : mapping.problem? = none
        · have otherValid := registered.problem.mp valid
          rw [Engine.step, Engine.step, change_upsert_of_valid first valid,
            change_upsert_of_valid second otherValid]
          exact Registry.forall₂_place alike.mappings registered
        · have otherInvalid : other.problem? ≠ none := fun otherValid =>
            valid (registered.problem.mpr otherValid)
          rw [Engine.step, Engine.step, change_upsert_of_invalid first valid,
            change_upsert_of_invalid second otherInvalid]
          exact alike.mappings
    | remove id =>
        rw [Engine.step, Engine.step, change, change, registry_remove, registry_remove]
        exact Registry.forall₂_eraseP alike.mappings id
    | reset => exact .nil
    | replaceScenarios scenarios others => exact alike.mappings
    | resolve request other now => exact alike.mappings
  draws := by
    -- as many numbers are drawn in both steps
    have lengths := congrArg List.length (alike.map_id_drawnIn_eq steps)
    rw [List.length_map, List.length_map] at lengths
    have behind := congrArg Prod.snd (first.take_length_drawnIn step)
    rw [lengths, alike.draws, take_length_drawnIn] at behind
    exact behind.symm

end SampledAlike

theorem map_id_drawn_eq {first second : Engine} (alike : first.SampledAlike second)
    {steps others : List Step} (alikeSteps : List.Forall₂ Step.SampledAlike steps others) :
    (first.drawn steps).map (Prod.map Mapping.id id) =
      (second.drawn others).map (Prod.map Mapping.id id) := by
  induction alikeSteps generalizing first second with
  | nil => rfl
  | cons head _ inductionHypothesis =>
      rw [drawn, drawn, List.map_append, List.map_append, alike.map_id_drawnIn_eq head,
        inductionHypothesis (alike.step_step head)]

end Engine

/-! ## Runs with a repeated list of numbers -/

namespace Draws

theorem value_replaying {values : List Float} (nonempty : values ≠ []) {draw : Nat}
    (less : draw < 2 ^ 64) :
    some ((replaying values).value draw) = values[draw % values.length]? := by
  have inside : draw % values.length < values.length :=
    Nat.mod_lt _ (List.length_pos_iff.mpr nonempty)
  have value : (replaying values).value draw =
      values[draw % 0x10000000000000000 % values.length]?.getD 0 := rfl
  have counted : draw % 0x10000000000000000 = draw := Nat.mod_eq_of_lt less
  rw [value, counted, List.getElem?_eq_getElem inside, Option.getD_some]

end Draws

/-- In any run of an engine with a source that repeats some numbers, of fewer draws than the source
can count, each resolution draws one number for each registered mapping in its window with a
positive probability, in the order of the registry, and none for any other mapping.  The numbers
are those of the list in turn.  A mapping is evaluated if it is in its window and has no
probability, or a positive one that is not below its own number.  A run that differs in what is
matched, or in whether matching fails or panics, draws the same numbers for the same mappings. -/
theorem numbers_drawn_in_run (settings : MatchingSettings) {values : List Float}
    (nonempty : values ≠ []) (steps : List Engine.Step)
    (few : ((Engine.new settings (.replaying values)).drawn steps).length < 2 ^ 64) :
    let engine := Engine.new settings (.replaying values)
    let drawn := engine.drawn steps
    (engine.stepAll steps).draws.made = drawn.length ∧
    (∀ draw < drawn.length, drawn[draw]?.map Prod.snd = values[draw % values.length]?) ∧
    (∀ before request now after, steps = before ++ .resolve request now :: after →
      let reached := engine.stepAll before
      let numbers := reached.drawnIn (.resolve request now)
      let mappings := reached.registry.mappings
      drawn = engine.drawn before ++ numbers ++
        (reached.step (.resolve request now)).drawn after ∧
      numbers.map Prod.fst = mappings.filter (Mapping.isSampled now) ∧
      (reached.resolve request now).1 = resolveAmong reached.settings
        ((reached.evaluated now).filterMap (candidate? reached.scenarios request)) ∧
      ∀ position mapping, mappings[position]? = some mapping →
        (mapping ∈ reached.evaluated now ↔
          mapping.isTimeValid now ∧
            (mapping.probability = none ∨
              ∃ probability own, mapping.probability = some probability ∧ 0 < probability ∧
                numbers[(mappings.take position).countP (Mapping.isSampled now)]? =
                  some (mapping, own) ∧
                own ≤ probability))) ∧
    ∀ otherSettings otherSteps, List.Forall₂ Engine.Step.SampledAlike steps otherSteps →
      ((Engine.new otherSettings (.replaying values)).drawn otherSteps).map
          (Prod.map Mapping.id id) =
        drawn.map (Prod.map Mapping.id id) := by
  intro engine drawn
  refine ⟨?made, ?numbers, ?resolutions, ?alike⟩
  case made =>
    have behind : (engine.draws.take drawn.length).2 = (engine.stepAll steps).draws :=
      congrArg Prod.snd (engine.take_length_drawn steps)
    rw [← behind, Draws.snd_take]
    exact Nat.zero_add _
  case numbers =>
    intro draw less
    have number := engine.snd_getElem?_drawn steps less
    rw [number, ← Draws.value_replaying nonempty (less.trans few)]
    exact congrArg (fun place => some ((Draws.replaying values).value place)) (Nat.zero_add draw)
  case resolutions =>
    rintro before request now after rfl
    intro reached numbers mappings
    obtain ⟨changes, lists⟩ :=
      Engine.exists_listsBindings_stepAll settings (.replaying values) before
    have valid : ∀ mapping ∈ mappings, mapping.problem? = none := fun mapping member =>
      ((lists.mem_iff mapping).mp member).id_eq_and_valid.2
    refine ⟨?_, ?_, rfl, ?_⟩
    · rw [List.append_assoc]
      exact engine.drawn_append before _
    · rw [← filter_takesDraw_eq valid]
      exact map_fst_drawnAmong mappings reached.draws
    · intro position mapping registered
      exact mem_sample_iff_of_valid valid reached.draws (lists.distinct.of_map _) registered
  case alike =>
    intro otherSettings otherSteps alikeSteps
    have alike : engine.SampledAlike (Engine.new otherSettings (.replaying values)) := ⟨.nil, rfl⟩
    exact (Engine.map_id_drawn_eq alike alikeSteps).symm

/-- Two resolutions draw numbers in turn, each for the sampled mapping and for one that panics. -/
theorem numbers_drawn_in_two_resolutions :
    let panicking := { Mapping.new (.ofNat 2)
        { RequestMatcher.empty with custom := [⟨"custom", fun _ _ => .panicked none⟩] } with
      probability := some 1 }
    let resolve := Engine.Step.resolve (Request.new "GET" "/") .epoch
    let steps := [.change (.upsert { Mapping.new (.ofNat 1) .empty with probability := some 0.5 }),
      .change (.upsert panicking), resolve, resolve]
    let drawn := (Engine.new default (.replaying [0.25, 0.5, 0.75])).drawn steps
    ([0.25, 0.5, 0.75] ≠ ([] : List Float) ∧ drawn.length < 2 ^ 64) ∧
      drawn[3]?.map Prod.snd = [0.25, 0.5, 0.75][3 % 3]? := by
  intro panicking resolve steps drawn
  have few : drawn.length < 2 ^ 64 := by decide
  have nonempty : [0.25, 0.5, 0.75] ≠ ([] : List Float) := by simp
  exact ⟨⟨nonempty, few⟩,
    (numbers_drawn_in_run default nonempty steps few).2.1 3 (by decide)⟩

end Understudy
