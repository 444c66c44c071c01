import Understudy.Mapping

/-!
# Scenarios

Named states that mappings share.  A scenario has no state until it is first moved.  A win of a
mapping with a next state is counted, and once the mapping has the wins it needs the scenario
moves and the count starts again.
-/

namespace Understudy

/-- The position of one scenario. -/
structure Scenario where
  name : String
  state : Option String
  started : Bool
  /-- The wins counted in the current state. -/
  counter : UInt32
  deriving DecidableEq, Repr

/-- A scenario that has not started. -/
def Scenario.new (name : String) : Scenario where
  name := name
  state := none
  started := false
  counter := 0

/-- The scenario in a new state. -/
def Scenario.moveTo (scenario : Scenario) (state : String) : Scenario :=
  { scenario with state := some state, started := true, counter := 0 }

/-- The scenario with one more win, up to the greatest count. -/
def Scenario.countWin (scenario : Scenario) : Scenario :=
  if scenario.counter = 0xFFFFFFFF then scenario
  else { scenario with counter := scenario.counter + 1 }

/-- The scenarios by name. -/
abbrev ScenarioStore := NameMap Scenario

namespace ScenarioStore

/-- The state that gates the mappings of a scenario; none before it has started. -/
def currentState (store : ScenarioStore) (name : String) : Option String :=
  ((store.find? name).filter Scenario.started).bind Scenario.state

/-- The scenario of a name, new if it is not there. -/
def entry (store : ScenarioStore) (name : String) : Scenario :=
  (store.find? name).getD (Scenario.new name)

/-- The store in which the scenario is known. -/
def ensure (store : ScenarioStore) (name : String) : ScenarioStore :=
  if store.contains name then store else store.insert name (Scenario.new name)

/-- The store with a scenario moved to a state. -/
def advance (store : ScenarioStore) (name state : String) : ScenarioStore :=
  store.insert name ((store.entry name).moveTo state)

/-- The wins that move the scenario of a mapping. -/
def requiredWins (mapping : Mapping) : UInt32 :=
  mapping.winsInState.getD 1

/-- The new state after a win of the mapping, if it moves its scenario, and the store. -/
def recordWin (store : ScenarioStore) (mapping : Mapping) : Option String × ScenarioStore :=
  match mapping.scenario, mapping.nextState with
  | some name, some next =>
      let counted := (store.entry name).countWin
      if counted.counter < requiredWins mapping then (none, store.insert name counted)
      else (some next, store.insert name (counted.moveTo next))
  | _, _ => (none, store)

/-- The store with one scenario as if it had never started, if it is known. -/
def resetScenario (store : ScenarioStore) (name : String) : ScenarioStore :=
  if store.contains name then store.insert name (Scenario.new name) else store

/-- The scenarios in ascending order of their names. -/
def all (store : ScenarioStore) : List Scenario :=
  (store.entries.map Prod.snd).mergeSort fun first second => first.name ≤ second.name

end ScenarioStore

end Understudy
