import Understudy.Proofs.Server.Operation

/-!
# Conformance to scenarios

In the strict mode a mapping answers only in the state that it requires, and a call moves a
scenario only along a transition that its winner declares.  Between two explicit moves the states
of a scenario therefore form a path of transitions, each of them declared by a mapping that was
registered when it was taken.
-/

namespace Understudy

namespace Server

/-- The winner of a call moves a scenario to the target: it is a registered mapping of the
scenario, requires the state before the call, and has the target as its next state. -/
structure MovesBy (server : Server) (call : Call) (name : String) (winner : Candidate)
    (target : String) : Prop where
  wins : (server.engine.resolve call.request call.occasion.now).1.matched = some winner
  registered : winner.mapping ∈ server.engine.registry.mappings
  inScenario : winner.mapping.scenario = some name
  requires : winner.mapping.requiredState = server.engine.scenarios.currentState name
  leads : winner.mapping.nextState = some target
  arrives : (server.next call).engine.scenarios.currentState name = some target

/-- A registered mapping of the scenario declares the transition. -/
def Declares (server : Server) (name : String) (source target : Option String) : Prop :=
  ∃ mapping ∈ server.engine.registry.mappings, mapping.scenario = some name ∧
    mapping.requiredState = source ∧
    ∃ next, mapping.nextState = some next ∧ target = some next

/-- The transition is declared at some moment of the run. -/
def DeclaresDuring (server : Server) (operations : List Operation) (name : String)
    (source target : Option String) : Prop :=
  ∃ before after, operations = before ++ after ∧
    (server.performAll before).Declares name source target

variable {server : Server}

/-! ## One call -/

/-- In the strict mode a mapping answers only in its required state. -/
theorem requiredState_eq_of_matched (strict : server.engine.settings.allowPartial = false)
    {call : Call} {winner : Candidate}
    (matched : (server.engine.resolve call.request call.occasion.now).1.matched = some winner)
    {name : String} (inScenario : winner.mapping.scenario = some name) :
    winner.mapping.requiredState = server.engine.scenarios.currentState name := by
  obtain ⟨position, contends, perfect, -⟩ :=
    (matched_eq_some_iff_of_strict _ _ _ _ _ strict winner).mp matched
  exact Mapping.requiredState_eq_of_isPerfect inScenario contends.evaluated perfect

/-- A scenario that a call leaves in another state is that of the winner of the call, and it is in
the winner's next state. -/
theorem exists_winner_of_moved {call : Call} {name : String}
    (moved : (server.next call).engine.scenarios.currentState name ≠
      server.engine.scenarios.currentState name) :
    ∃ winner target,
      (server.engine.resolve call.request call.occasion.now).1.matched = some winner ∧
        winner.mapping.scenario = some name ∧ winner.mapping.nextState = some target ∧
        (server.next call).engine.scenarios.currentState name = some target := by
  have left := server.leaves_respond call.occasion call.request
  generalize behindEq : (server.respond call.occasion call.request).server = behind at left
  rw [next, behindEq] at moved
  cases left with
  | @won winner matched =>
      rcases server.engine.scenarios.currentState_recordWin winner.mapping with
        unmoved | ⟨own, target, inScenario, nextState, states⟩
      · exact absurd (unmoved name) moved
      · have state := states name
        by_cases same : name = own
        · rw [if_pos same] at state
          rw [← same] at inScenario
          refine ⟨winner, target, matched, inScenario, nextState, ?_⟩
          rw [next, behindEq]
          exact state
        · rw [if_neg same] at state
          exact absurd state moved
  | unmatched matched => exact absurd rfl moved
  | recorded forwards enabled saves valid => exact absurd rfl moved

/-- In the strict mode a scenario that a call leaves in another state was moved by the winner of
the call. -/
theorem exists_movesBy (strict : server.engine.settings.allowPartial = false) {call : Call}
    {name : String}
    (moved : (server.next call).engine.scenarios.currentState name ≠
      server.engine.scenarios.currentState name) :
    ∃ winner target, server.MovesBy call name winner target := by
  obtain ⟨winner, target, matched, inScenario, leads, arrives⟩ := exists_winner_of_moved moved
  exact ⟨winner, target, matched, mapping_mem_of_matched matched, inScenario,
    requiredState_eq_of_matched strict matched inScenario, leads, arrives⟩

/-! ## One operation -/

/-- Registering a mapping moves no scenario. -/
theorem currentState_register (mapping : Mapping) (name : String) :
    (server.perform (.register mapping)).engine.scenarios.currentState name =
      server.engine.scenarios.currentState name := by
  rw [perform_register]
  split
  · cases inScenario : mapping.scenario with
    | none => simp only [Engine.withMapping, inScenario, Option.elim_none]
    | some own =>
        simp only [Engine.withMapping, inScenario, Option.elim_some]
        exact server.engine.scenarios.currentState_ensure own name
  · rfl

/-- An operation other than an explicit move leaves a scenario in its state or takes it along a
declared transition. -/
theorem declares_of_perform (strict : server.engine.settings.allowPartial = false)
    {operation : Operation} {name : String} (notAdvance : ∀ state, operation ≠ .advance name state)
    (moved : (server.perform operation).engine.scenarios.currentState name ≠
      server.engine.scenarios.currentState name) :
    server.Declares name (server.engine.scenarios.currentState name)
      ((server.perform operation).engine.scenarios.currentState name) := by
  cases operation with
  | call call =>
      obtain ⟨winner, target, moves⟩ := exists_movesBy strict moved
      exact ⟨winner.mapping, moves.registered, moves.inScenario, moves.requires, target,
        moves.leads, moves.arrives⟩
  | register mapping => exact absurd (currentState_register mapping name) moved
  | remove id =>
      rw [perform, (remove_frame server.engine id).2] at moved
      exact absurd rfl moved
  | advance other state =>
      have different : name ≠ other := by
        rintro rfl
        exact notAdvance state rfl
      have unmoved := server.engine.scenarios.currentState_advance other name state
      rw [if_neg different] at unmoved
      exact absurd unmoved moved

theorem coherent_perform (coherent : server.engine.scenarios.Coherent) (operation : Operation) :
    (server.perform operation).engine.scenarios.Coherent := by
  cases operation with
  | call call =>
      have left := server.leaves_respond call.occasion call.request
      rw [perform, next]
      generalize (server.respond call.occasion call.request).server = behind at left
      cases left with
      | @won winner matched => exact coherent.recordWin winner.mapping
      | unmatched matched => exact coherent
      | recorded forwards enabled saves valid => exact coherent
  | register mapping =>
      rw [perform_register]
      split
      · cases inScenario : mapping.scenario with
        | none => simpa only [Engine.withMapping, inScenario, Option.elim_none] using coherent
        | some own =>
            simpa only [Engine.withMapping, inScenario, Option.elim_some] using coherent.ensure own
      · exact coherent
  | remove id =>
      rw [perform, (remove_frame server.engine id).2]
      exact coherent
  | advance name state => exact coherent.advance name state

/-! ## Runs -/

theorem coherent_performAll (coherent : server.engine.scenarios.Coherent)
    (operations : List Operation) : (server.performAll operations).engine.scenarios.Coherent := by
  induction operations generalizing server with
  | nil => exact coherent
  | cons operation rest inductionHypothesis =>
      exact inductionHypothesis (coherent_perform coherent operation)

/-- Without explicit moves a run takes a scenario along a path of declared transitions. -/
theorem path_performAll (strict : server.engine.settings.allowPartial = false) {name : String}
    {operations : List Operation} (noAdvance : ∀ state, .advance name state ∉ operations) :
    Relation.ReflTransGen (server.DeclaresDuring operations name)
      (server.engine.scenarios.currentState name)
      ((server.performAll operations).engine.scenarios.currentState name) := by
  induction operations generalizing server with
  | nil => exact .refl
  | cons operation rest inductionHypothesis =>
      have strictNext : (server.perform operation).engine.settings.allowPartial = false := by
        rw [settings_perform, strict]
      have later := inductionHypothesis strictNext fun state member =>
        noAdvance state (List.mem_cons_of_mem _ member)
      -- a transition declared during the rest of the run is declared during the run
      have laterDuring : Relation.ReflTransGen (server.DeclaresDuring (operation :: rest) name)
          ((server.perform operation).engine.scenarios.currentState name)
          ((server.performAll (operation :: rest)).engine.scenarios.currentState name) := by
        refine Relation.ReflTransGen.mono ?_ _ _ later
        rintro source target ⟨before, after, rfl, declares⟩
        exact ⟨operation :: before, after, rfl, declares⟩
      by_cases moved : (server.perform operation).engine.scenarios.currentState name =
          server.engine.scenarios.currentState name
      · rwa [moved] at laterDuring
      · have notAdvance : ∀ state, operation ≠ .advance name state := by
          rintro state rfl
          exact noAdvance state List.mem_cons_self
        exact .head ⟨[], operation :: rest, rfl, declares_of_perform strict notAdvance moved⟩
          laterDuring

end Server

/-- In a run of a strict server a mapping answers only in the state that it requires, and every
call that moves a scenario does so by its winner, along the transition that the winner declares.
So between two explicit moves the states of a scenario form a path of declared transitions.  If
the scenarios that have started are in a state, they are so at all times, and a mapping that
requires none answers exactly before its scenario has started. -/
theorem scenarios_follow_declared_transitions {server : Server}
    (strict : server.engine.settings.allowPartial = false) (operations : List Operation) :
    (∀ before call after, operations = before ++ .call call :: after →
      (∀ winner name,
        ((server.performAll before).engine.resolve call.request call.occasion.now).1.matched =
            some winner → winner.mapping.scenario = some name →
          winner.mapping.requiredState =
            (server.performAll before).engine.scenarios.currentState name) ∧
      ∀ name, ((server.performAll before).next call).engine.scenarios.currentState name ≠
          (server.performAll before).engine.scenarios.currentState name →
        ∃ winner target, (server.performAll before).MovesBy call name winner target) ∧
    (∀ before stretch after name, operations = before ++ stretch ++ after →
      (∀ state, .advance name state ∉ stretch) →
        Relation.ReflTransGen ((server.performAll before).DeclaresDuring stretch name)
          ((server.performAll before).engine.scenarios.currentState name)
          ((server.performAll (before ++ stretch)).engine.scenarios.currentState name)) ∧
    (server.engine.scenarios.Coherent → ∀ before after name, operations = before ++ after →
      ((server.performAll before).engine.scenarios.currentState name = none ↔
        ¬(server.performAll before).engine.scenarios.HasStarted name)) := by
  have strictAt : ∀ before : List Operation,
      (server.performAll before).engine.settings.allowPartial = false := by
    intro before
    rw [Server.settings_performAll, strict]
  refine ⟨?_, ?_, ?_⟩
  · rintro before call after rfl
    constructor
    · intro winner name matched inScenario
      exact Server.requiredState_eq_of_matched (strictAt before) matched inScenario
    · intro name moved
      exact Server.exists_movesBy (strictAt before) moved
  · rintro before stretch after name rfl noAdvance
    rw [Server.performAll_append]
    exact Server.path_performAll (strictAt before) noAdvance
  · rintro coherent before after name rfl
    exact (Server.coherent_performAll coherent before).currentState_eq_none_iff name

/-- A mapping without conditions but the state of the scenario "order". -/
def Mapping.orderStep (id : Nat) (source : Option String) (target : String) : Mapping :=
  { Mapping.new (.ofNat id) .empty with
    scenario := some "order", requiredState := source, nextState := some target }

/-- Two mappings are registered, and two calls take the order from no state to "Shipped". -/
def Operation.shipOrder : List Operation :=
  [.register (.orderStep 1 none "Paid"), .register (.orderStep 2 (some "Paid") "Shipped"),
    .call ⟨.answering (.ofNat 3) 200, Request.new "GET" "/"⟩,
    .call ⟨.answering (.ofNat 4) 200, Request.new "GET" "/"⟩]

/-- The order is shipped along declared transitions. -/
theorem order_is_shipped_along_declared_transitions :
    (default : MatchingSettings).allowPartial = false ∧
      Relation.ReflTransGen
        (Server.DeclaresDuring ⟨Engine.new default default, default⟩ Operation.shipOrder "order")
        none (some "Shipped") := by
  let server : Server := ⟨Engine.new default default, default⟩
  have shipped : (server.performAll Operation.shipOrder).engine.scenarios.currentState "order" =
      some "Shipped" := by
    decide +kernel
  have strict : server.engine.settings.allowPartial = false := rfl
  have path := (scenarios_follow_declared_transitions strict Operation.shipOrder).2.1
    [] Operation.shipOrder [] "order" (List.append_nil _).symm (by simp [Operation.shipOrder])
  rw [List.nil_append, shipped] at path
  exact ⟨rfl, path⟩

end Understudy
