import Understudy.Resolution

/-!
# The engine

The registry, the scenarios and the source of draws behind one handle.  Registering a mapping
makes its scenario known; a mapping that is refused changes neither.
-/

namespace Understudy

/-- Everything that a resolution depends on. -/
structure Engine where
  settings : MatchingSettings
  registry : Registry
  scenarios : ScenarioStore
  draws : Draws

namespace Engine

/-- The engine without mappings and scenarios. -/
def new (settings : MatchingSettings) (draws : Draws) : Engine where
  settings := settings
  registry := Registry.empty
  scenarios := NameMap.empty
  draws := draws

/-- The engine with another registry, and the report of the change in its size. -/
def publish (engine : Engine) (registry : Registry) : Engine × List Event :=
  ({ engine with registry := registry },
    [.registered ((registry.size : Int) - engine.registry.size)])

/-- Puts a mapping into the registry and leaves the scenarios alone. -/
def upsert (engine : Engine) (mapping : Mapping) : Except MappingError (Engine × List Event) :=
  match engine.registry.upsert mapping with
  | .error problem => .error problem
  | .ok registry => .ok (engine.publish registry)

/-- Registers a mapping and makes its scenario known. -/
def register (engine : Engine) (mapping : Mapping) :
    Except MappingError (Engine × List Event) :=
  match engine.upsert mapping with
  | .error problem => .error problem
  | .ok (registered, events) =>
      .ok
        ({ registered with
            scenarios :=
              match mapping.scenario with
              | some name => registered.scenarios.ensure name
              | none => registered.scenarios },
          events)

/-- Removes the mapping of an identifier, which is returned if it was there. -/
def remove (engine : Engine) (id : Identifier) : Option Mapping × Engine × List Event :=
  match engine.registry.find? id with
  | some mapping => (some mapping, engine.publish (engine.registry.remove id))
  | none => (none, engine, [])

/-- Removes all mappings. -/
def resetMappings (engine : Engine) : Engine × List Event :=
  engine.publish Registry.empty

/-- Forgets all scenarios. -/
def resetScenarios (engine : Engine) : Engine :=
  { engine with scenarios := NameMap.empty }

/-- Removes all mappings and forgets all scenarios. -/
def reset (engine : Engine) : Engine × List Event :=
  let (emptied, events) := engine.resetMappings
  (emptied.resetScenarios, events)

/-- The reports of an engine that is given up: its mappings are no longer registered. -/
def retire (engine : Engine) : List Event :=
  [.registered (-(engine.registry.size : Int))]

/-- Resolves a request at an instant, and the engine behind the draws. -/
def resolve (engine : Engine) (request : Request) (now : Instant) :
    Resolution × Engine × List Event :=
  let resolving := resolveAt engine.settings engine.registry engine.scenarios engine.draws
    request now
  (resolving.resolution, { engine with draws := resolving.draws }, resolving.events)

/-- Counts a win, and the new state of the scenario if it moved. -/
def recordWin (engine : Engine) (mapping : Mapping) : Option String × Engine :=
  let (state, scenarios) := engine.scenarios.recordWin mapping
  (state, { engine with scenarios := scenarios })

end Engine

end Understudy
