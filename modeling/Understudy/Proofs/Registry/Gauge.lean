import Understudy.Proofs.Metrics.Counting
import Understudy.Proofs.Registry.Dictionary

/-!
# The gauge of registered mappings

All registries of a process share one gauge.  A change reports by how much it moves the size of its
registry, and a registry that is given up reports its size away, so the gauge moves by what the
sizes of all registries together move by.
-/

namespace Understudy

namespace Engine

/-! ## One engine -/

/-- The events report the difference in the size of the registry and nothing else. -/
structure ReportsSize (before behind : Engine) (events : List Event) : Prop where
  cells_eq : events.flatMap Event.cells = []
  recordings_eq : (events.map Event.recordings).sum = 0
  difference_eq : (events.map Event.difference).sum =
    (behind.registry.size : Int) - before.registry.size

/-- What a change reports; a mapping that is refused reports nothing. -/
def changeReports (engine : Engine) : RegistryChange → List Event
  | .upsert mapping =>
      match engine.upsert mapping with
      | .ok (_, events) => events
      | .error _ => []
  | .remove id => (engine.remove id).2.2
  | .reset => engine.resetMappings.2

variable (engine : Engine)

theorem ReportsSize.refl : engine.ReportsSize engine [] where
  cells_eq := rfl
  recordings_eq := rfl
  difference_eq := (sub_self _).symm

theorem reportsSize_publish (registry : Registry) :
    engine.ReportsSize (engine.publish registry).1 (engine.publish registry).2 where
  cells_eq := rfl
  recordings_eq := rfl
  difference_eq := add_zero _

theorem reportsSize_upsert {mapping : Mapping} {behind : Engine} {events : List Event}
    (inserted : engine.upsert mapping = .ok (behind, events)) :
    engine.ReportsSize behind events := by
  unfold upsert at inserted
  cases published : engine.registry.upsert mapping with
  | error problem => rw [published] at inserted; cases inserted
  | ok registry =>
      rw [published] at inserted
      cases inserted
      exact engine.reportsSize_publish registry

/-- A registration reports what the insertion does, since scenarios are not counted. -/
theorem reportsSize_register {mapping : Mapping} {behind : Engine} {events : List Event}
    (registered : engine.register mapping = .ok (behind, events)) :
    engine.ReportsSize behind events := by
  unfold register at registered
  cases inserted : engine.upsert mapping with
  | error problem => rw [inserted] at registered; cases registered
  | ok result =>
      rw [inserted] at registered
      cases registered
      obtain ⟨cells, recordings, difference⟩ := engine.reportsSize_upsert inserted
      exact ⟨cells, recordings, difference⟩

theorem reportsSize_remove (id : Identifier) :
    engine.ReportsSize (engine.remove id).2.1 (engine.remove id).2.2 := by
  unfold remove
  cases engine.registry.find? id with
  | none => exact .refl engine
  | some mapping => exact engine.reportsSize_publish _

/-- Every change reports the difference that it makes, also one that replaces a mapping, is refused
or removes nothing. -/
theorem reportsSize_change (change : RegistryChange) :
    engine.ReportsSize (engine.change change) (engine.changeReports change) := by
  cases change with
  | upsert mapping =>
      simp only [Engine.change, changeReports]
      cases inserted : engine.upsert mapping with
      | error problem => exact .refl engine
      | ok result => exact engine.reportsSize_upsert inserted
  | remove id => exact engine.reportsSize_remove id
  | reset => exact engine.reportsSize_publish _

end Engine

/-! ## One place for a registry -/

/-- What can happen at a place for a registry: it is created, changed or given up. -/
inductive RegistryStep where
  | create (settings : MatchingSettings) (draws : Draws)
  | change (change : RegistryChange)
  | drop

namespace RegistryStep

/-- The engine at the place behind a step, and its reports.  Only an empty place is filled, and only
what is there is changed or given up. -/
def performOn : Option Engine → RegistryStep → Option Engine × List Event
  | none, .create settings draws => (some (Engine.new settings draws), [])
  | some engine, .change made => (some (engine.change made), engine.changeReports made)
  | some engine, .drop => (none, engine.retire)
  | place, _ => (place, [])

/-- The number of mappings at a place. -/
def sizeAt (place : Option Engine) : Int :=
  place.elim 0 fun engine => engine.registry.size

/-- Every step reports by how much it moves the number of mappings. -/
theorem sum_difference_performOn (place : Option Engine) (step : RegistryStep) :
    ((step.performOn place).2.map Event.difference).sum =
      sizeAt (step.performOn place).1 - sizeAt place := by
  cases place with
  | none =>
      cases step with
      | create settings draws => rfl
      | change made => rfl
      | drop => rfl
  | some engine =>
      cases step with
      | create settings draws => exact (sub_self _).symm
      | change made => exact (engine.reportsSize_change made).difference_eq
      | drop => exact (add_zero _).trans (zero_sub _).symm

end RegistryStep

/-! ## All registries -/

/-- The places for the registries of a process, and the metrics that they share. -/
structure Registries (ι : Type) where
  places : ι → Option Engine
  metrics : Metrics

namespace Registries

variable {ι : Type} [DecidableEq ι]

/-- The process before the first registry is created. -/
def vacant (metrics : Metrics) : Registries ι :=
  ⟨fun _ => none, metrics⟩

/-- The process behind a step at a place. -/
def perform (registries : Registries ι) (step : ι × RegistryStep) : Registries ι where
  places := Function.update registries.places step.1
    (step.2.performOn (registries.places step.1)).1
  metrics := registries.metrics.recordAll (step.2.performOn (registries.places step.1)).2

/-- The process behind several steps. -/
def performAll (registries : Registries ι) (steps : List (ι × RegistryStep)) : Registries ι :=
  steps.foldl perform registries

variable [Fintype ι]

/-- The number of mappings in all registries that are not given up. -/
def size (registries : Registries ι) : Int :=
  ∑ place, RegistryStep.sizeAt (registries.places place)

/-- A step moves the number of mappings by what it moves it at its own place. -/
theorem size_perform (registries : Registries ι) (step : ι × RegistryStep) :
    (registries.perform step).size = registries.size +
      (RegistryStep.sizeAt (step.2.performOn (registries.places step.1)).1 -
        RegistryStep.sizeAt (registries.places step.1)) := by
  have updated : (fun place => RegistryStep.sizeAt ((registries.perform step).places place)) =
      Function.update (fun place => RegistryStep.sizeAt (registries.places place)) step.1
        (RegistryStep.sizeAt (step.2.performOn (registries.places step.1)).1) :=
    funext fun place => Function.apply_update (fun _ => RegistryStep.sizeAt) _ _ _ place
  have others := Finset.add_sum_erase Finset.univ
    (fun place => RegistryStep.sizeAt (registries.places place)) (Finset.mem_univ step.1)
  rw [size, size, updated, Finset.sum_update_of_mem (Finset.mem_univ step.1),
    Finset.sdiff_singleton_eq_erase]
  omega

/-- A step keeps the distance of the gauge from the number of mappings. -/
theorem registered_perform (registries : Registries ι) (step : ι × RegistryStep) :
    (registries.perform step).metrics.registered - (registries.perform step).size =
      registries.metrics.registered - registries.size := by
  have moved : (registries.perform step).metrics.registered =
      registries.metrics.registered +
        (RegistryStep.sizeAt (step.2.performOn (registries.places step.1)).1 -
          RegistryStep.sizeAt (registries.places step.1)) := by
    rw [← RegistryStep.sum_difference_performOn]
    exact Metrics.registered_recordAll _ _
  rw [moved, size_perform, add_sub_add_right_eq_sub]

theorem registered_performAll (registries : Registries ι) (steps : List (ι × RegistryStep)) :
    (registries.performAll steps).metrics.registered - (registries.performAll steps).size =
      registries.metrics.registered - registries.size := by
  induction steps generalizing registries with
  | nil => rfl
  | cons step rest inductionHypothesis =>
      exact (inductionHypothesis (registries.perform step)).trans
        (registries.registered_perform step)

end Registries

/-- Since before the first registry was created, the gauge has moved by the number of mappings in
all registries that are not given up, after every sequence of insertions, replacements, refused
mappings, removals, resets and drops. -/
theorem gauge_moves_by_sizes_of_registries {ι : Type} [Fintype ι] [DecidableEq ι]
    (metrics : Metrics) (steps : List (ι × RegistryStep)) :
    let behind := (Registries.vacant metrics).performAll steps
    behind.metrics.registered - metrics.registered =
      ∑ place, (behind.places place).elim 0 fun engine => (engine.registry.size : Int) := by
  intro behind
  have kept := (Registries.vacant metrics).registered_performAll steps
  have nothing : (Registries.vacant metrics : Registries ι).size = 0 := Finset.sum_const_zero
  rw [nothing, sub_zero] at kept
  have gauge : behind.metrics.registered - behind.size = metrics.registered := kept
  rw [← gauge, sub_sub_cancel]
  rfl

/-- Of two registries the second is given up.  In the first one mapping is replaced, one is refused
and one removed, so that one is left. -/
example :
    let mapping := fun id => Mapping.new (.ofNat id) .empty
    let refused := { mapping 3 with winsInState := some 0 }
    let steps : List (Fin 2 × RegistryStep) :=
      [(0, .create default default), (1, .create default default),
        (0, .change (.upsert (mapping 1))), (1, .change (.upsert (mapping 1))),
        (0, .change (.upsert (mapping 2))), (0, .change (.upsert (mapping 1))),
        (0, .change (.upsert refused)), (1, .drop), (0, .change (.remove (.ofNat 2)))]
    ((Registries.vacant Metrics.zero).performAll steps).metrics.registered = 1 := by
  decide

end Understudy
