import Mathlib.Data.List.Induction
import Understudy.Proofs.History
import Understudy.Proofs.Scenario.Known

/-!
# Counting wins

What the counter of a scenario stands at after any changes of the store.  A count begins anew when
the scenario is created, when it is advanced or reset, and when a win moves it; from then on every
win of a mapping of the scenario with a next state counts once, whichever mapping it is.  A count
stays below the wins that the last of these mappings needs, so it never comes to the greatest one
and no win is lost.
-/

namespace Understudy

/-! ## One win -/

namespace Scenario

variable {scenario : Scenario} {required : UInt32}

theorem moveTo_countWin (scenario : Scenario) (state : String) :
    scenario.countWin.moveTo state =
      { scenario with state := some state, started := true, counter := 0 } := by
  unfold countWin
  split
  · rfl
  · rfl

/-- A count below the greatest one can be raised. -/
theorem toNat_counter_add_one (below : scenario.counter.toNat < 0xFFFFFFFF) :
    (scenario.counter + 1).toNat = scenario.counter.toNat + 1 := by
  rw [UInt32.toNat_add]
  exact Nat.mod_eq_of_lt (Nat.succ_lt_succ below)

/-- A count that more wins are needed for is not the greatest one. -/
theorem countWin_of_lt (short : scenario.counter.toNat + 1 < required.toNat) :
    scenario.countWin = { scenario with counter := scenario.counter + 1 } := by
  rw [countWin, if_neg]
  intro greatest
  have bounded := required.toNat_lt
  rw [greatest] at short
  change 4294967295 + 1 < _ at short
  omega

/-- The greatest count is enough for every mapping, so it makes no difference that it is not
raised. -/
theorem counter_countWin_lt_iff (scenario : Scenario) (required : UInt32) :
    scenario.countWin.counter < required ↔ scenario.counter.toNat + 1 < required.toNat := by
  have requiredBound := required.toNat_lt
  constructor
  · intro below
    rw [UInt32.lt_iff_toNat_lt, countWin] at below
    split at below
    next greatest =>
      rw [greatest] at below
      change 4294967295 < _ at below
      omega
    next different =>
      have notGreatest : scenario.counter.toNat ≠ 4294967295 := fun same =>
        different (UInt32.toNat_inj.mp same)
      have counterBound := scenario.counter.toNat_lt
      have raised := toNat_counter_add_one (show scenario.counter.toNat < 0xFFFFFFFF by omega)
      exact raised ▸ below
  · intro short
    have raised := toNat_counter_add_one (show scenario.counter.toNat < 0xFFFFFFFF by omega)
    rw [countWin_of_lt short, UInt32.lt_iff_toNat_lt]
    exact raised ▸ short

end Scenario

/-! ## Changes -/

/-- A change of the scenarios. -/
inductive ScenarioChange where
  | ensure (name : String)
  | advance (name state : String)
  | recordWin (mapping : Mapping)
  | resetScenario (name : String)
  /-- All scenarios are forgotten. -/
  | reset

namespace ScenarioChange

/-- The scenario that the change is about; the reset of the whole store is about none. -/
def scenario? : ScenarioChange → Option String
  | .ensure name | .advance name _ | .resetScenario name => some name
  | .recordWin mapping => mapping.scenario
  | .reset => none

/-- The change is a win of a mapping of the scenario that has a next state. -/
def isWinOf (name : String) : ScenarioChange → Bool
  | .recordWin mapping => mapping.scenario == some name && mapping.nextState.isSome
  | _ => false

/-- The change is a win that moves the scenario. -/
def moves (name : String) (store : ScenarioStore) : ScenarioChange → Bool
  | .recordWin mapping => mapping.scenario == some name && (store.recordWin mapping).1.isSome
  | _ => false

/-- The wins of the scenario among the changes. -/
def wins (name : String) (changes : List ScenarioChange) : Nat :=
  changes.countP (isWinOf name)

theorem wins_singleton (name : String) (change : ScenarioChange) :
    wins name [change] = if change.isWinOf name then 1 else 0 :=
  List.countP_singleton

theorem wins_append (name : String) (before after : List ScenarioChange) :
    wins name (before ++ after) = wins name before + wins name after :=
  List.countP_append

theorem scenario?_of_isWinOf {name : String} {change : ScenarioChange}
    (win : change.isWinOf name = true) : change.scenario? = some name := by
  cases change with
  | recordWin mapping => exact beq_iff_eq.mp (Bool.and_eq_true_iff.mp win).1
  | ensure _ | advance _ _ | resetScenario _ | reset => cases win

end ScenarioChange

namespace ScenarioStore

/-- The store behind a change. -/
def change (store : ScenarioStore) : ScenarioChange → ScenarioStore
  | .ensure name => store.ensure name
  | .advance name state => store.advance name state
  | .recordWin mapping => (store.recordWin mapping).2
  | .resetScenario name => store.resetScenario name
  | .reset => NameMap.empty

/-- The store behind several changes of one without scenarios. -/
def changedBy (changes : List ScenarioChange) : ScenarioStore :=
  changes.foldl change NameMap.empty

theorem changedBy_concat (changes : List ScenarioChange) (change : ScenarioChange) :
    changedBy (changes ++ [change]) = (changedBy changes).change change :=
  List.foldl_append

/-- The change begins the count of the scenario anew. -/
inductive Begins (name : String) (store : ScenarioStore) : ScenarioChange → Prop where
  | created {change : ScenarioChange} :
      store.contains name = false → (store.change change).contains name = true →
      Begins name store change
  | advanced (state : String) : Begins name store (.advance name state)
  | returned : Begins name store (.resetScenario name)
  | moved {change : ScenarioChange} : change.moves name store = true → Begins name store change

/-- The number of wins that count for the scenario after the changes: those since its count has
last begun, without a win that began it by moving the scenario, and none while it is not known. -/
inductive CountsWins (name : String) (changes : List ScenarioChange) : Nat → Prop where
  | unknown : (changedBy changes).contains name = false → CountsWins name changes 0
  | since {before after : List ScenarioChange} {first : ScenarioChange} :
      (changedBy changes).contains name = true →
      IsLatest (fun before => Begins name (changedBy before)) changes before first after →
      CountsWins name changes
        (ScenarioChange.wins name <|
          if first.moves name (changedBy before) then after else first :: after)

/-! ## One change -/

variable (store : ScenarioStore) {name : String}

theorem entry_insert (name other : String) (scenario : Scenario) :
    ScenarioStore.entry (store.insert name scenario) other =
      if other = name then scenario else store.entry other := by
  rw [entry, NameMap.find?_insert]
  split
  · rfl
  · rfl

theorem entry_of_find? {store : ScenarioStore} {scenario : Scenario}
    (found : store.find? name = some scenario) : store.entry name = scenario := by
  rw [entry, found, Option.getD_some]

theorem entry_of_unknown {store : ScenarioStore} (unknown : store.contains name = false) :
    store.entry name = Scenario.new name := by
  rw [entry, (store.contains_eq_false_iff name).mp unknown, Option.getD_none]

/-- A win moves the scenario if it completes the number that its mapping needs, and is counted
otherwise. -/
theorem recordWin_eq {mapping : Mapping} {next : String}
    (inScenario : mapping.scenario = some name) (hasNext : mapping.nextState = some next) :
    store.recordWin mapping =
      if (requiredWins mapping).toNat ≤ (store.entry name).counter.toNat + 1 then
        (some next, store.insert name
          { store.entry name with state := some next, started := true, counter := 0 })
      else (none, store.insert name
        { store.entry name with counter := (store.entry name).counter + 1 }) := by
  simp only [recordWin, inScenario, hasNext]
  by_cases enough : (requiredWins mapping).toNat ≤ (store.entry name).counter.toNat + 1
  · have reached : ¬(store.entry name).countWin.counter < requiredWins mapping := by
      rw [Scenario.counter_countWin_lt_iff]
      exact Nat.not_lt.mpr enough
    rw [if_neg reached, if_pos enough, Scenario.moveTo_countWin]
  · have short := Nat.lt_of_not_le enough
    rw [if_pos ((Scenario.counter_countWin_lt_iff _ _).mpr short), if_neg enough,
      Scenario.countWin_of_lt short]

/-- A win of a mapping touches no other scenario than its own. -/
theorem find?_recordWin_of_scenario_ne {mapping : Mapping}
    (other : mapping.scenario ≠ some name) :
    (store.recordWin mapping).2.find? name = store.find? name := by
  rw [recordWin]
  split
  next changed next inScenario hasNext =>
    have different : name ≠ changed := fun same =>
      other (inScenario.trans (congrArg some same.symm))
    dsimp only
    split
    · rw [NameMap.find?_insert, if_neg different]
    · rw [NameMap.find?_insert, if_neg different]
  · rfl

/-- A change of another scenario leaves a look-up alone. -/
theorem find?_change_of_scenario?_ne {change : ScenarioChange} (kept : change ≠ .reset)
    (other : change.scenario? ≠ some name) :
    (store.change change).find? name = store.find? name := by
  have different {changed : String} (about : change.scenario? = some changed) : name ≠ changed :=
    fun same => other (about.trans (congrArg some same.symm))
  cases change with
  | ensure changed => rw [ScenarioStore.change, find?_ensure, if_neg (different rfl)]
  | advance changed state =>
      rw [ScenarioStore.change, advance, NameMap.find?_insert, if_neg (different rfl)]
  | recordWin mapping => exact store.find?_recordWin_of_scenario_ne other
  | resetScenario changed =>
      rw [ScenarioStore.change, resetScenario]
      split
      · rw [NameMap.find?_insert, if_neg (different rfl)]
      · rfl
  | reset => exact absurd rfl kept

/-! ## Counters -/

section

variable {store : ScenarioStore} {change : ScenarioChange}

theorem entry_change_of_scenario?_ne (kept : change ≠ .reset)
    (other : change.scenario? ≠ some name) :
    (store.change change).entry name = store.entry name := by
  rw [entry, find?_change_of_scenario?_ne store kept other, entry]

/-- A change that does not begin a count raises it by the win that it is, if it is one. -/
theorem toNat_counter_change (kept : change ≠ .reset)
    (notAdvanced : ∀ state, change ≠ .advance name state) (notReset : change ≠ .resetScenario name)
    (notMoved : change.moves name store = false) :
    ((store.change change).entry name).counter.toNat =
      (store.entry name).counter.toNat + ScenarioChange.wins name [change] := by
  rw [ScenarioChange.wins_singleton]
  by_cases own : change.scenario? = some name
  case neg =>
    have noWin : ¬change.isWinOf name = true := fun win =>
      own (ScenarioChange.scenario?_of_isWinOf win)
    rw [entry_change_of_scenario?_ne kept own, if_neg noWin, Nat.add_zero]
  cases change with
  | ensure changed =>
      cases own
      rw [ScenarioStore.change, entry, find?_ensure, if_pos rfl]
      rfl
  | advance changed state =>
      cases own
      exact absurd rfl (notAdvanced state)
  | recordWin mapping =>
      have inScenario : mapping.scenario = some name := own
      cases hasNext : mapping.nextState with
      | none =>
          simp [ScenarioStore.change, recordWin, ScenarioChange.isWinOf, inScenario, hasNext]
      | some next =>
          rw [ScenarioChange.moves, recordWin_eq store inScenario hasNext] at notMoved
          rw [ScenarioStore.change, recordWin_eq store inScenario hasNext]
          split at notMoved
          next enough => simp [inScenario] at notMoved
          next short =>
            have bounded := (requiredWins mapping).toNat_lt
            have win : (ScenarioChange.recordWin mapping).isWinOf name = true := by
              simp [ScenarioChange.isWinOf, inScenario, hasNext]
            rw [if_neg short, if_pos win, entry_insert, if_pos rfl]
            exact Scenario.toNat_counter_add_one (by omega)
  | resetScenario changed =>
      cases own
      exact absurd rfl notReset
  | reset => exact absurd rfl kept

/-- A win that moves a scenario leaves no wins counted. -/
theorem counter_change_of_moves (moves : change.moves name store = true) :
    ((store.change change).entry name).counter = 0 := by
  cases change with
  | recordWin mapping =>
      obtain ⟨own, moved⟩ := Bool.and_eq_true_iff.mp moves
      have inScenario : mapping.scenario = some name := beq_iff_eq.mp own
      cases hasNext : mapping.nextState with
      | none => simp [recordWin, inScenario, hasNext] at moved
      | some next =>
          rw [recordWin_eq store inScenario hasNext] at moved
          rw [ScenarioStore.change, recordWin_eq store inScenario hasNext]
          split at moved
          next enough => rw [if_pos enough, entry_insert, if_pos rfl]
          next short => cases moved
  | ensure _ | advance _ _ | resetScenario _ | reset => cases moves

theorem counter_advance (store : ScenarioStore) (name state : String) :
    ((store.advance name state).entry name).counter = 0 := by
  rw [advance, entry_insert, if_pos rfl]
  rfl

/-- A scenario that is reset is as new, whether it is known or not. -/
theorem entry_resetScenario (store : ScenarioStore) (name : String) :
    (store.resetScenario name).entry name = Scenario.new name := by
  unfold resetScenario
  split
  next known => rw [entry_insert, if_pos rfl]
  next unknown => exact entry_of_unknown (Bool.eq_false_iff.mpr unknown)

/-- Behind the change that begins a count the count is that of the change alone, and no win if it
moves the scenario. -/
theorem Begins.toNat_counter (begins : Begins name store change)
    (known : (store.change change).contains name = true) :
    ((store.change change).entry name).counter.toNat =
      ScenarioChange.wins name (if change.moves name store then [] else [change]) := by
  cases moves : change.moves name store with
  | true => rw [counter_change_of_moves moves]; rfl
  | false =>
      by_cases advanced : ∃ state, change = .advance name state
      · obtain ⟨state, rfl⟩ := advanced
        exact congrArg UInt32.toNat (counter_advance store name state)
      by_cases returned : change = .resetScenario name
      · subst returned
        exact congrArg (fun scenario => scenario.counter.toNat) (entry_resetScenario store name)
      have kept : change ≠ .reset := by
        rintro rfl
        cases known
      cases begins with
      | created unknown _ =>
          rw [toNat_counter_change kept (not_exists.mp advanced) returned moves,
            entry_of_unknown unknown]
          exact Nat.zero_add _
      | advanced state => exact absurd ⟨state, rfl⟩ advanced
      | returned => exact absurd rfl returned
      | moved moved => exact absurd moved (Bool.eq_false_iff.mp moves)

/-- A change that begins no count leaves the scenario known if it was, and its count raised by the
win that the change is. -/
theorem known_and_toNat_counter_of_not_begins (continues : ¬Begins name store change)
    (known : (store.change change).contains name = true) :
    store.contains name = true ∧
      ((store.change change).entry name).counter.toNat =
        (store.entry name).counter.toNat + ScenarioChange.wins name [change] := by
  have knownBefore : store.contains name = true := by
    by_contra unknown
    exact continues (.created (Bool.eq_false_iff.mpr unknown) known)
  refine ⟨knownBefore, toNat_counter_change ?_ ?_ ?_ ?_⟩
  · rintro rfl
    cases known
  · rintro state rfl
    exact continues (.advanced state)
  · rintro rfl
    exact continues .returned
  · exact Bool.eq_false_iff.mpr fun moves => continues (.moved moves)

end

/-! ## Runs -/

section

variable {changes : List ScenarioChange} {change : ScenarioChange} {count : Nat}

theorem countsWins_iff_of_unknown (unknown : (changedBy changes).contains name = false) :
    CountsWins name changes count ↔ count = 0 := by
  constructor
  · intro counts
    cases counts with
    | unknown _ => rfl
    | since known _ => exact absurd known (Bool.eq_false_iff.mp unknown)
  · rintro rfl
    exact .unknown unknown

/-- After one more change the count is that of the change if it begins the count anew, and else it
is the count before with one more win if the change is one. -/
theorem countsWins_concat_iff (known : (changedBy (changes ++ [change])).contains name = true) :
    CountsWins name (changes ++ [change]) count ↔
      Begins name (changedBy changes) change ∧
          count = ScenarioChange.wins name
            (if change.moves name (changedBy changes) then [] else [change]) ∨
        ¬Begins name (changedBy changes) change ∧
          ∃ earlier, CountsWins name changes earlier ∧
            count = earlier + ScenarioChange.wins name [change] := by
  have knownBehind := known
  rw [changedBy_concat] at knownBehind
  constructor
  · intro counts
    cases counts with
    | unknown unknown => exact absurd known (Bool.eq_false_iff.mp unknown)
    | since _ latest =>
        rcases isLatest_concat_iff.mp latest with
          ⟨begins, rfl, rfl, rfl⟩ | ⟨continues, middle, rfl, earlier⟩
        · exact .inl ⟨begins, rfl⟩
        · have knownBefore := (known_and_toNat_counter_of_not_begins continues knownBehind).1
          refine .inr ⟨continues, _, .since knownBefore earlier, ?_⟩
          rw [← ScenarioChange.wins_append]
          split
          · rfl
          · rfl
  · rintro (⟨begins, rfl⟩ | ⟨continues, earlier, counts, rfl⟩)
    · exact .since known (isLatest_concat_iff.mpr (.inl ⟨begins, rfl, rfl, rfl⟩))
    · cases counts with
      | unknown unknown =>
          have knownBefore := (known_and_toNat_counter_of_not_begins continues knownBehind).1
          exact absurd knownBefore (Bool.eq_false_iff.mp unknown)
      | @since before after first _ latest =>
          have counts := CountsWins.since known
            (isLatest_concat_iff.mpr (.inr ⟨continues, after, rfl, latest⟩))
          rw [← ScenarioChange.wins_append]
          split
          next moved => rwa [if_pos moved] at counts
          next kept => rwa [if_neg kept] at counts

/-- The counter of a scenario is the number of its wins that count; that of an unknown scenario
would be that of a new one. -/
theorem countsWins_iff :
    CountsWins name changes count ↔
      count = ((changedBy changes).entry name).counter.toNat := by
  induction changes using List.reverseRecOn generalizing count with
  | nil => exact countsWins_iff_of_unknown rfl
  | append_singleton changes change inductionHypothesis =>
      cases known : (changedBy (changes ++ [change])).contains name with
      | false =>
          rw [countsWins_iff_of_unknown known, entry_of_unknown known]
          rfl
      | true =>
          rw [countsWins_concat_iff known]
          rw [changedBy_concat] at known ⊢
          by_cases begins : Begins name (changedBy changes) change
          · rw [begins.toNat_counter known]
            simp [begins]
          · rw [(known_and_toNat_counter_of_not_begins begins known).2]
            simp [begins, inductionHypothesis]

end

end ScenarioStore

/-- After any changes of a store without scenarios the counter of a known scenario is the number of
its wins since its count has last begun.  One more win of a mapping with a next state moves the
scenario there, with no wins counted, exactly if that number and this win are as many as the mapping
needs; otherwise it is counted, and the state stays as it is.  No change of a scenario but the reset
of the whole store touches another one. -/
theorem scenario_moves_exactly_after_required_wins (changes : List ScenarioChange)
    (name : String) :
    let store := ScenarioStore.changedBy changes
    (∀ scenario, store.find? name = some scenario → ∀ count,
      ScenarioStore.CountsWins name changes count ↔ count = scenario.counter.toNat) ∧
    (∀ mapping next count, mapping.scenario = some name → mapping.nextState = some next →
      ScenarioStore.CountsWins name changes count →
        let required := (mapping.winsInState.getD 1).toNat
        let earlier := store.entry name
        (required ≤ count + 1 →
          (store.recordWin mapping).1 = some next ∧
          (store.recordWin mapping).2.find? name =
            some { earlier with state := some next, started := true, counter := 0 }) ∧
        (count + 1 < required →
          (store.recordWin mapping).1 = none ∧
          ∃ counter : UInt32, counter.toNat = count + 1 ∧
            (store.recordWin mapping).2.find? name = some { earlier with counter := counter })) ∧
    ∀ change, change ≠ .reset → ∀ other, change.scenario? ≠ some other →
      (store.change change).find? other = store.find? other := by
  intro store
  refine ⟨?counters, ?wins, ?frame⟩
  case counters =>
    intro scenario found count
    rw [ScenarioStore.countsWins_iff, ScenarioStore.entry_of_find? found]
  case wins =>
    intro mapping next count inScenario hasNext counts required earlier
    obtain rfl := ScenarioStore.countsWins_iff.mp counts
    have outcome := store.recordWin_eq inScenario hasNext
    constructor
    · intro enough
      rw [outcome.trans (if_pos enough)]
      exact ⟨rfl, by rw [NameMap.find?_insert, if_pos rfl]⟩
    · intro short
      rw [outcome.trans (if_neg (Nat.not_le.mpr short))]
      have bounded : required ≤ 0xFFFFFFFF :=
        Nat.le_of_lt_succ (mapping.winsInState.getD 1).toNat_lt
      refine ⟨rfl, earlier.counter + 1, ?_, by rw [NameMap.find?_insert, if_pos rfl]⟩
      exact Scenario.toNat_counter_add_one (Nat.lt_of_succ_lt (Nat.lt_of_lt_of_le short bounded))
  case frame =>
    intro change kept other different
    exact store.find?_change_of_scenario?_ne kept different

/-- Wins of different mappings count together, and the one that needs the fewest moves the order. -/
example :
    let mapping := fun id wins => { Mapping.new (.ofNat id) .empty with
      scenario := some "order", nextState := some "paid", winsInState := some wins }
    let changes : List ScenarioChange :=
      [.recordWin (mapping 1 3), .ensure "order", .recordWin (mapping 2 2),
        .recordWin (mapping 1 3), .advance "return" "open", .recordWin (mapping 1 3)]
    (ScenarioStore.changedBy changes).all =
      [⟨"order", some "paid", true, 2⟩, ⟨"return", some "open", true, 0⟩] := by
  cbv

end Understudy
