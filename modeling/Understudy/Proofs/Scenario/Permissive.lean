import Understudy.Proofs.Scenario.Conformance

/-!
# Scenarios in the permissive mode

In the permissive mode the state of a scenario is one condition of a mapping among others, and the
closest mapping answers.  A mapping that is not in its required state can therefore answer, and its
win moves the scenario.  It does so only if no perfect match contends: a perfect match has a mean
score of one, and the mean of a result in which the state has no match stays below that.
-/

namespace Understudy

namespace Server

variable {server : Server} {call : Call} {winner : Candidate} {name : String}

/-- Where a perfect match contends, the closest mapping is in its required state. -/
theorem requiredState_eq_of_closest
    (closest : (server.engine.resolve call.request call.occasion.now).1.closest = some winner)
    (inScenario : winner.mapping.scenario = some name) (bounded : winner.result.count < 2 ^ 53)
    {position : Nat} {other : Candidate}
    (contends : Contends server.engine.scenarios server.engine.draws call.request
      call.occasion.now server.engine.registry.mappings position other)
    (perfect : other.result.isPerfect = true) (positive : 0 < other.result.count)
    (otherBounded : other.result.count < 2 ^ 53) :
    winner.mapping.requiredState = server.engine.scenarios.currentState name := by
  have leads := (closest_eq_some_iff _ _ _ _ _ _ winner).mp closest
  have placeLe := Candidate.place_average_le <|
    leads.key_le contends (Candidate.canBeClosest_of_isPerfect perfect positive otherBounded)
  rw [MatchResult.average_of_isPerfect perfect positive otherBounded] at placeLe
  obtain ⟨place, winnerContends, admitted, -⟩ := leads
  have evaluated := winnerContends.evaluated
  rw [gatingState, inScenario] at evaluated
  by_contra outside
  have mismatched := Mapping.mismatch_mem_scores inScenario evaluated outside
  have placeLt := Mapping.place_average_lt evaluated mismatched bounded admitted.1
  exact absurd placeLt (Int.not_lt.mpr placeLe)

end Server

/-- In the permissive mode the state of the scenario is the last of the scores of the mapping that
answers, and it is full exactly in the required state.  The mapping is in that state if its result
is perfect, and also if some contender with conditions matches perfectly.  Outside it the mapping
is a partial match: it does not belong to the administration, and its mean score is above zero and
below a full match.  The call moves no scenario but that of the mapping, only to the next state of
the mapping, and in the required state along the transition that the mapping declares. -/
theorem permissive_answer_is_gated_iff_state_scores {server : Server}
    (permissive : server.engine.settings.allowPartial = true) {call : Call} {winner : Candidate}
    (matched : (server.engine.resolve call.request call.occasion.now).1.matched = some winner)
    {name : String} (inScenario : winner.mapping.scenario = some name) :
    winner.result.details.getLast? = some ⟨"scenario_state",
        .ofBool (winner.mapping.requiredState = server.engine.scenarios.currentState name),
        none⟩ ∧
      (winner.result.isPerfect = true →
        winner.mapping.requiredState = server.engine.scenarios.currentState name) ∧
      (winner.result.count < 2 ^ 53 → ∀ position other,
        Contends server.engine.scenarios server.engine.draws call.request call.occasion.now
          server.engine.registry.mappings position other →
        other.result.isPerfect = true → 0 < other.result.count → other.result.count < 2 ^ 53 →
          winner.mapping.requiredState = server.engine.scenarios.currentState name) ∧
      (winner.mapping.requiredState ≠ server.engine.scenarios.currentState name →
        winner.mapping.isAdmin = false ∧ 0 < winner.result.average ∧
          (winner.result.count < 2 ^ 53 →
            Score.place winner.result.average < Score.place Score.perfect)) ∧
      ∀ other, (server.next call).engine.scenarios.currentState other ≠
          server.engine.scenarios.currentState other →
        other = name ∧ ∃ target, winner.mapping.nextState = some target ∧
          (server.next call).engine.scenarios.currentState name = some target ∧
          (winner.mapping.requiredState = server.engine.scenarios.currentState name →
            server.MovesBy call name winner target) := by
  have closest :
      (server.engine.resolve call.request call.occasion.now).1.closest = some winner := by
    rw [← matched]
    exact (matched_of_permissive _ _ _ _ _ permissive).symm
  obtain ⟨place, contends, admitted, -⟩ := (closest_eq_some_iff _ _ _ _ _ _ winner).mp closest
  have evaluated := contends.evaluated
  rw [gatingState, inScenario] at evaluated
  have gated : winner.result.isPerfect = true →
      winner.mapping.requiredState = server.engine.scenarios.currentState name :=
    Mapping.requiredState_eq_of_isPerfect inScenario contends.evaluated
  refine ⟨?_, gated, ?_, ?_, ?_⟩
  · have last := Mapping.getLast?_details inScenario evaluated
    rwa [Matching.stateSatisfied_eq_decide] at last
  · intro bounded position other otherContends perfect positive otherBounded
    exact Server.requiredState_eq_of_closest closest inScenario bounded otherContends perfect
      positive otherBounded
  · intro outside
    have mismatched := Mapping.mismatch_mem_scores inScenario evaluated outside
    have notAdmin : winner.mapping.isAdmin = false :=
      admitted.2.resolve_right fun perfect => outside (gated perfect)
    exact ⟨notAdmin, admitted.1, fun bounded =>
      Mapping.place_average_lt evaluated mismatched bounded admitted.1⟩
  · intro other moved
    obtain ⟨mover, target, moverMatched, moverScenario, leads, arrives⟩ :=
      Server.exists_winner_of_moved moved
    obtain rfl : mover = winner := Option.some.inj (moverMatched.symm.trans matched)
    obtain rfl : other = name := Option.some.inj (moverScenario.symm.trans inScenario)
    refine ⟨rfl, target, leads, arrives, ?_⟩
    intro requires
    exact ⟨matched, Server.mapping_mem_of_matched matched, inScenario, requires, leads, arrives⟩

/-- A mapping for "/order" that takes the scenario "order" from one state to another. -/
def Mapping.orderPathStep (id : Nat) (source : Option String) (target : String) : Mapping :=
  { Mapping.new (.ofNat id) { RequestMatcher.empty with path := some (.exact "/order") } with
    scenario := some "order", requiredState := source, nextState := some target }

/-- A permissive server with these mappings. -/
def Server.permissive (mappings : List Mapping) : Server where
  engine := { Engine.new ⟨true, "/__admin"⟩ default with registry := ⟨mappings⟩ }
  recording := RecordingSettings.off

/-- A call for "/order". -/
def Call.forOrder : Call :=
  ⟨.answering (.ofNat 3) 200, Request.new "GET" "/order"⟩

/-- An order that has not started is paid and not shipped: the step to "Paid" matches perfectly. -/
theorem new_order_is_paid_first :
    ∃ winner,
      ((Server.permissive [.orderPathStep 1 (some "Paid") "Shipped",
          .orderPathStep 2 none "Paid"]).engine.resolve Call.forOrder.request
            Call.forOrder.occasion.now).1.matched = some winner ∧
        winner.mapping.requiredState = none := by
  let mappings := [Mapping.orderPathStep 1 (some "Paid") "Shipped", .orderPathStep 2 none "Paid"]
  let engine := (Server.permissive mappings).engine
  have opens : ∀ check ∈ (Mapping.orderPathStep 2 none "Paid").checks,
      check.IsMet Call.forOrder.request none := by
    intro check member
    rcases List.mem_cons.mp member with rfl | inRest
    · exact (Check.isMet_iff_of_scored rfl).mpr (by decide +kernel)
    · rw [List.mem_singleton.mp inRest]
      exact (Check.isMet_iff_of_scored rfl).mpr (by decide +kernel)
  have contends : Contends engine.scenarios engine.draws Call.forOrder.request
      Call.forOrder.occasion.now mappings 1 ⟨.orderPathStep 2 none "Paid", _⟩ :=
    ⟨rfl, rfl, nofun, Mapping.evaluate_of_forall_isMet opens⟩
  have perfect := MatchResult.isPerfect_full
    ((Mapping.orderPathStep 2 none "Paid").checks.map Check.name)
  have contested := (closest_isSome_iff engine.settings engine.registry engine.scenarios
    engine.draws Call.forOrder.request Call.forOrder.occasion.now).mpr
      ⟨1, _, contends, Candidate.canBeClosest_of_isPerfect perfect (by decide) (by decide)⟩
  obtain ⟨winner, closest⟩ := Option.isSome_iff_exists.mp contested
  obtain ⟨position, winnerContends⟩ := exists_contends_of_closest _ _ _ _ _ _ closest
  have registered : winner.mapping ∈ mappings := List.mem_of_getElem? winnerContends.registered
  have ofOrder : ∀ mapping ∈ mappings,
      mapping.scenario = some "order" ∧ mapping.checks.length = 2 := by
    intro mapping member
    rcases List.mem_cons.mp member with rfl | inRest
    · exact ⟨rfl, rfl⟩
    · rw [List.mem_singleton.mp inRest]
      exact ⟨rfl, rfl⟩
  obtain ⟨inScenario, conditions⟩ := ofOrder winner.mapping registered
  have bounded : winner.result.count < 2 ^ 53 := by
    rw [Mapping.count_of_evaluate_eq_ok winnerContends.evaluated, conditions]
    decide
  have permissive : (Server.permissive mappings).engine.settings.allowPartial = true := rfl
  have matched : ((Server.permissive mappings).engine.resolve Call.forOrder.request
      Call.forOrder.occasion.now).1.matched = some winner := closest
  obtain ⟨-, -, gated, -⟩ :=
    permissive_answer_is_gated_iff_state_scores permissive matched inScenario
  exact ⟨winner, matched, gated bounded 1 _ contends perfect (by decide) (by decide)⟩

/-- Where only the step from "Paid" is registered, it answers before the order has started, and the
order is shipped unpaid. -/
theorem unpaid_order_is_shipped :
    (Server.permissive
        [.orderPathStep 1 (some "Paid") "Shipped"]).engine.settings.allowPartial = true ∧
      (Server.permissive [.orderPathStep 1 (some "Paid") "Shipped"]).engine.scenarios.currentState
        "order" = none ∧
      (∃ winner,
        ((Server.permissive [.orderPathStep 1 (some "Paid") "Shipped"]).engine.resolve
            Call.forOrder.request Call.forOrder.occasion.now).1.matched = some winner ∧
          winner.mapping.scenario = some "order" ∧
          winner.mapping.requiredState = some "Paid") ∧
      ((Server.permissive [.orderPathStep 1 (some "Paid") "Shipped"]).next
        Call.forOrder).engine.scenarios.currentState "order" = some "Shipped" := by
  have answered :
      (((Server.permissive [.orderPathStep 1 (some "Paid") "Shipped"]).engine.resolve
          Call.forOrder.request Call.forOrder.occasion.now).1.matched.map fun winner =>
        (winner.mapping.scenario, winner.mapping.requiredState)) =
          some (some "order", some "Paid") := by
    decide +kernel
  obtain ⟨winner, matched, data⟩ := Option.map_eq_some_iff.mp answered
  rw [Prod.mk.injEq] at data
  exact ⟨rfl, rfl, ⟨winner, matched, data⟩, by decide +kernel⟩

end Understudy
