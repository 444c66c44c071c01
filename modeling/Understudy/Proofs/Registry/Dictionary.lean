import Understudy.Engine
import Understudy.Proofs.History
import Understudy.Proofs.Registry
import Understudy.Proofs.Score.Mean

/-!
# The registry as a dictionary

What is registered after any changes of the registry.  An identifier is bound to the last valid
mapping that was registered under it, as long as no later removal or reset unbinds it.  It enters
when it is bound and was not bound before, and a replacement leaves its place to it.  The registered
mappings are those that are bound, each once, in the order in which their identifiers entered.
-/

namespace Understudy

/-! ## Valid mappings -/

namespace Mapping

theorem validate_eq_ok_iff (mapping : Mapping) :
    mapping.validate = .ok () ↔ mapping.problem? = none := by
  unfold validate
  cases mapping.problem? with
  | none => simp
  | some problem => simp

/-- The probability of a valid mapping lies between zero and one and is no NaN. -/
theorem probability_bounds {mapping : Mapping} (valid : mapping.problem? = none)
    {probability : Float} (present : mapping.probability = some probability) :
    0 ≤ probability ∧ probability ≤ 1 ∧ probability.isNaN = false := by
  have accepted : isProbability probability = true := by
    cases isProbability : isProbability probability with
    | true => rfl
    | false => simp [problem?, present, Option.filter, isProbability] at valid
  rw [isProbability, Bool.and_eq_true, decide_eq_true_iff, decide_eq_true_iff] at accepted
  exact ⟨accepted.1, accepted.2, isNaN_eq_false_of_nonneg accepted.1⟩

end Mapping

/-! ## Changes -/

/-- A change of the registered mappings. -/
inductive RegistryChange where
  | upsert (mapping : Mapping)
  | remove (id : Identifier)
  | reset

namespace RegistryChange

/-- The change registers a valid mapping under its identifier. -/
def Binds (id : Identifier) (mapping : Mapping) : RegistryChange → Prop
  | .upsert registered => registered = mapping ∧ mapping.id = id ∧ mapping.problem? = none
  | .remove _ | .reset => False

/-- The change leaves nothing registered under the identifier. -/
def Unbinds (id : Identifier) : RegistryChange → Prop
  | .upsert _ => False
  | .remove removed => removed = id
  | .reset => True

/-- The change decides what is registered under the identifier. -/
def Decides (id : Identifier) (change : RegistryChange) : Prop :=
  change.Unbinds id ∨ ∃ mapping, change.Binds id mapping

theorem Binds.not_unbinds {id : Identifier} {mapping : Mapping} {change : RegistryChange}
    (binds : change.Binds id mapping) : ¬change.Unbinds id := by
  cases change with
  | upsert registered => exact not_false
  | remove removed => cases binds
  | reset => cases binds

theorem decides_upsert_iff {id : Identifier} {mapping : Mapping} :
    (upsert mapping).Decides id ↔ mapping.id = id ∧ mapping.problem? = none := by
  constructor
  · rintro (unbinds | ⟨_, rfl, same, valid⟩)
    · cases unbinds
    · exact ⟨same, valid⟩
  · rintro ⟨same, valid⟩
    exact .inr ⟨mapping, rfl, same, valid⟩

theorem decides_remove_iff {id removed : Identifier} :
    (remove removed).Decides id ↔ removed = id := by
  constructor
  · rintro (same | ⟨_, binds⟩)
    · exact same
    · cases binds
  · exact .inl

theorem decides_reset (id : Identifier) : reset.Decides id :=
  .inl trivial

end RegistryChange

open RegistryChange

/-! ## Bindings -/

/-- The last of the changes that decides on the identifier registers the mapping under it. -/
def BoundTo (id : Identifier) (mapping : Mapping) : List RegistryChange → Prop :=
  Since (fun _ change => change.Binds id mapping) (Decides id)

/-- The change at that position binds the identifier, which was not bound before, and no later one
unbinds it. -/
def EntersAt (id : Identifier) (position : Nat) : List RegistryChange → Prop :=
  Since
    (fun before change => before.length = position ∧ (∀ mapping, ¬BoundTo id mapping before) ∧
      ∃ mapping, change.Binds id mapping)
    (Unbinds id)

/-- Both identifiers are bound, and the first one has entered earlier. -/
def EntersBefore (changes : List RegistryChange) (first second : Identifier) : Prop :=
  ∃ earlier later, EntersAt first earlier changes ∧ EntersAt second later changes ∧
    earlier < later

section

variable {changes : List RegistryChange} {change : RegistryChange} {id : Identifier}
variable {mapping : Mapping} {position : Nat}

theorem not_boundTo_nil : ¬BoundTo id mapping [] :=
  not_since_nil

theorem boundTo_concat_iff : BoundTo id mapping (changes ++ [change]) ↔
    change.Binds id mapping ∨ BoundTo id mapping changes ∧ ¬change.Decides id :=
  since_concat_iff

theorem entersAt_concat_iff : EntersAt id position (changes ++ [change]) ↔
    (changes.length = position ∧ (∀ mapping, ¬BoundTo id mapping changes) ∧
      ∃ mapping, change.Binds id mapping) ∨
      EntersAt id position changes ∧ ¬change.Unbinds id :=
  since_concat_iff

/-- An entry lasts through a change that does not unbind the identifier. -/
theorem EntersAt.concat (enters : EntersAt id position changes) (kept : ¬change.Unbinds id) :
    EntersAt id position (changes ++ [change]) :=
  entersAt_concat_iff.mpr (.inr ⟨enters, kept⟩)

/-- What an identifier is bound to has this identifier and is valid. -/
theorem BoundTo.id_eq_and_valid (bound : BoundTo id mapping changes) :
    mapping.id = id ∧ mapping.problem? = none := by
  obtain ⟨before, change, after, -, binds, -⟩ := bound
  cases change with
  | upsert registered => exact binds.2
  | remove removed => cases binds
  | reset => cases binds

theorem EntersAt.lt_length (enters : EntersAt id position changes) : position < changes.length := by
  obtain ⟨before, change, after, rfl, ⟨rfl, -, -⟩, -⟩ := enters
  rw [List.length_append, List.length_cons]
  omega

theorem EntersAt.exists_boundTo (enters : EntersAt id position changes) :
    ∃ mapping, BoundTo id mapping changes := by
  induction changes using List.reverseRecOn with
  | nil => exact absurd enters not_since_nil
  | append_singleton changes change inductionHypothesis =>
      by_cases binds : ∃ mapping, change.Binds id mapping
      · obtain ⟨mapping, binds⟩ := binds
        exact ⟨mapping, boundTo_concat_iff.mpr (.inl binds)⟩
      · rcases entersAt_concat_iff.mp enters with ⟨-, -, bindsNow⟩ | ⟨earlier, kept⟩
        · exact absurd bindsNow binds
        · obtain ⟨mapping, bound⟩ := inductionHypothesis earlier
          exact ⟨mapping, boundTo_concat_iff.mpr (.inr ⟨bound, not_or.mpr ⟨kept, binds⟩⟩)⟩

theorem BoundTo.exists_entersAt (bound : BoundTo id mapping changes) :
    ∃ position, EntersAt id position changes := by
  induction changes using List.reverseRecOn generalizing mapping with
  | nil => exact absurd bound not_boundTo_nil
  | append_singleton changes change inductionHypothesis =>
      rcases boundTo_concat_iff.mp bound with binds | ⟨earlier, undecided⟩
      · -- a binding of an identifier that is bound already is a replacement
        by_cases replaces : ∃ replaced, BoundTo id replaced changes
        · obtain ⟨replaced, earlier⟩ := replaces
          obtain ⟨position, enters⟩ := inductionHypothesis earlier
          exact ⟨position, enters.concat binds.not_unbinds⟩
        · exact ⟨changes.length,
            entersAt_concat_iff.mpr (.inl ⟨rfl, not_exists.mp replaces, mapping, binds⟩)⟩
      · obtain ⟨position, enters⟩ := inductionHypothesis earlier
        exact ⟨position, enters.concat (not_or.mp undecided).1⟩

/-- An identifier that is bound has entered once. -/
theorem EntersAt.unique {other : Nat} (enters : EntersAt id position changes)
    (otherEnters : EntersAt id other changes) : position = other := by
  induction changes using List.reverseRecOn with
  | nil => exact absurd enters not_since_nil
  | append_singleton changes change inductionHypothesis =>
      rcases entersAt_concat_iff.mp enters with ⟨rfl, free, -⟩ | ⟨earlier, -⟩
      · rcases entersAt_concat_iff.mp otherEnters with ⟨rfl, -, -⟩ | ⟨bound, -⟩
        · rfl
        · obtain ⟨mapping, bound⟩ := bound.exists_boundTo
          exact absurd bound (free mapping)
      · rcases entersAt_concat_iff.mp otherEnters with ⟨-, free, -⟩ | ⟨otherEarlier, -⟩
        · obtain ⟨mapping, bound⟩ := earlier.exists_boundTo
          exact absurd bound (free mapping)
        · exact inductionHypothesis earlier otherEarlier

theorem EntersBefore.concat {first second : Identifier}
    (before : EntersBefore changes first second) (firstKept : ¬change.Unbinds first)
    (secondKept : ¬change.Unbinds second) :
    EntersBefore (changes ++ [change]) first second := by
  obtain ⟨earlier, later, firstEnters, secondEnters, less⟩ := before
  exact ⟨earlier, later, firstEnters.concat firstKept, secondEnters.concat secondKept, less⟩

end

/-! ## What one change preserves -/

/-- The mappings are those that are bound after the changes, each once, in the order in which their
identifiers entered. -/
structure ListsBindings (changes : List RegistryChange) (mappings : List Mapping) : Prop where
  distinct : (mappings.map Mapping.id).Nodup
  mem_iff : ∀ mapping, mapping ∈ mappings ↔ BoundTo mapping.id mapping changes
  ordered : (mappings.map Mapping.id).Pairwise (EntersBefore changes)

namespace ListsBindings

theorem nil : ListsBindings [] [] where
  distinct := .nil
  mem_iff _ := iff_of_false List.not_mem_nil not_boundTo_nil
  ordered := .nil

variable {changes : List RegistryChange} {mappings : List Mapping}

theorem mem_ids_iff (lists : ListsBindings changes mappings) (id : Identifier) :
    id ∈ mappings.map Mapping.id ↔ ∃ mapping, BoundTo id mapping changes := by
  rw [List.mem_map]
  constructor
  · rintro ⟨mapping, member, rfl⟩
    exact ⟨mapping, (lists.mem_iff mapping).mp member⟩
  · rintro ⟨mapping, bound⟩
    obtain ⟨rfl, -⟩ := bound.id_eq_and_valid
    exact ⟨mapping, (lists.mem_iff mapping).mpr bound, rfl⟩

/-- A valid mapping takes the place of the one with its identifier, or the last place. -/
theorem register (lists : ListsBindings changes mappings) {mapping : Mapping}
    (valid : mapping.problem? = none) :
    ListsBindings (changes ++ [.upsert mapping]) (Registry.place mapping mappings) where
  distinct := by
    rw [Registry.ids_place]
    split
    · exact lists.distinct
    · next absent =>
        refine List.nodup_append.mpr ⟨lists.distinct, List.nodup_singleton _, ?_⟩
        intro id member last isLast same
        rw [same, List.mem_singleton.mp isLast] at member
        exact absent member
  mem_iff other := by
    rw [Registry.mem_place_iff lists.distinct, boundTo_concat_iff, lists.mem_iff,
      decides_upsert_iff]
    constructor
    · rintro (rfl | ⟨bound, different⟩)
      · exact .inl ⟨rfl, rfl, valid⟩
      · exact .inr ⟨bound, fun decides => different decides.1.symm⟩
    · rintro (⟨rfl, -⟩ | ⟨bound, undecided⟩)
      · exact .inl rfl
      · exact .inr ⟨bound, fun same => undecided ⟨same.symm, valid⟩⟩
  ordered := by
    have kept : (mappings.map Mapping.id).Pairwise (EntersBefore (changes ++ [.upsert mapping])) :=
      lists.ordered.imp fun before => before.concat not_false not_false
    rw [Registry.ids_place]
    split
    · exact kept
    · next absent =>
        refine List.pairwise_append.mpr ⟨kept, List.pairwise_singleton _ _, ?_⟩
        intro id member last isLast
        obtain rfl := List.mem_singleton.mp isLast
        -- every identifier has entered earlier, and that of the mapping enters with this change
        obtain ⟨bound, boundTo⟩ := (lists.mem_ids_iff id).mp member
        obtain ⟨position, enters⟩ := boundTo.exists_entersAt
        have free : ∀ other, ¬BoundTo mapping.id other changes := fun other boundBefore =>
          absent ((lists.mem_ids_iff mapping.id).mpr ⟨other, boundBefore⟩)
        have entersNow : EntersAt mapping.id changes.length (changes ++ [.upsert mapping]) :=
          entersAt_concat_iff.mpr (.inl ⟨rfl, free, mapping, rfl, rfl, valid⟩)
        exact ⟨position, changes.length, enters.concat not_false, entersNow, enters.lt_length⟩

/-- A mapping that is refused leaves all bindings as they are. -/
theorem refuse (lists : ListsBindings changes mappings) {mapping : Mapping}
    (invalid : mapping.problem? ≠ none) :
    ListsBindings (changes ++ [.upsert mapping]) mappings where
  distinct := lists.distinct
  mem_iff other := by
    rw [lists.mem_iff, boundTo_concat_iff, decides_upsert_iff]
    constructor
    · exact fun bound => .inr ⟨bound, fun decides => invalid decides.2⟩
    · rintro (⟨rfl, -, valid⟩ | ⟨bound, -⟩)
      · exact absurd valid invalid
      · exact bound
  ordered := lists.ordered.imp fun before => before.concat not_false not_false

/-- A removal leaves out the mapping with the identifier. -/
theorem remove (lists : ListsBindings changes mappings) (id : Identifier) :
    ListsBindings (changes ++ [.remove id]) (Registry.remove ⟨mappings⟩ id).mappings := by
  rw [Registry.mappings_remove lists.distinct]
  have mem_iff : ∀ mapping, mapping ∈ mappings.filter (fun mapping => mapping.id != id) ↔
      BoundTo mapping.id mapping (changes ++ [.remove id]) := by
    intro mapping
    rw [List.mem_filter, bne_iff_ne, lists.mem_iff, boundTo_concat_iff, decides_remove_iff]
    constructor
    · exact fun ⟨bound, different⟩ => .inr ⟨bound, different.symm⟩
    · rintro (binds | ⟨bound, different⟩)
      · cases binds
      · exact ⟨bound, Ne.symm different⟩
  have sublist : (mappings.filter fun mapping => mapping.id != id).Sublist mappings :=
    List.filter_sublist
  refine ⟨lists.distinct.sublist (sublist.map _), mem_iff, ?_⟩
  apply (lists.ordered.sublist (sublist.map _)).imp_of_mem
  intro first second firstMember secondMember before
  have different : ∀ other ∈ (mappings.filter fun mapping => mapping.id != id).map Mapping.id,
      id ≠ other := by
    intro other member
    obtain ⟨mapping, filtered, rfl⟩ := List.mem_map.mp member
    exact (bne_iff_ne.mp (List.mem_filter.mp filtered).2).symm
  exact before.concat (different first firstMember) (different second secondMember)

/-- A reset leaves nothing bound. -/
theorem reset : ListsBindings (changes ++ [.reset]) [] where
  distinct := .nil
  mem_iff mapping := by
    refine iff_of_false List.not_mem_nil fun bound => ?_
    rcases boundTo_concat_iff.mp bound with binds | ⟨-, undecided⟩
    · cases binds
    · exact undecided (decides_reset mapping.id)
  ordered := .nil

end ListsBindings

/-! ## Runs -/

namespace Engine

/-- The engine behind a change; a mapping that is refused changes nothing. -/
def change (engine : Engine) : RegistryChange → Engine
  | .upsert mapping =>
      match engine.upsert mapping with
      | .ok (changed, _) => changed
      | .error _ => engine
  | .remove id => (engine.remove id).2.1
  | .reset => engine.resetMappings.1

/-- The engine behind several changes. -/
def changeAll (engine : Engine) (changes : List RegistryChange) : Engine :=
  changes.foldl change engine

variable (engine : Engine)

/-- A mapping is refused exactly for the problem that validation finds. -/
theorem upsert_eq_error_iff (mapping : Mapping) (problem : MappingError) :
    engine.upsert mapping = .error problem ↔ mapping.validate = .error problem := by
  unfold upsert Registry.upsert Mapping.validate
  cases mapping.problem? with
  | none => simp
  | some found => simp

theorem change_upsert_of_valid {mapping : Mapping} (valid : mapping.problem? = none) :
    (engine.change (.upsert mapping)).registry =
      ⟨Registry.place mapping engine.registry.mappings⟩ := by
  rw [change, upsert, Registry.upsert, valid]
  rfl

theorem change_upsert_of_refused {mapping : Mapping} {problem : MappingError}
    (refused : engine.upsert mapping = .error problem) :
    engine.change (.upsert mapping) = engine := by
  rw [change, refused]

theorem fst_remove (id : Identifier) : (engine.remove id).1 = engine.registry.find? id := by
  unfold remove
  cases engine.registry.find? id with
  | none => rfl
  | some mapping => rfl

/-- The registry behind a removal is that without the identifier, also where it is not bound. -/
theorem registry_remove (id : Identifier) :
    (engine.remove id).2.1.registry = engine.registry.remove id := by
  unfold remove
  cases found : engine.registry.find? id with
  | none =>
      have absent : engine.registry.mappings.eraseP (fun mapping => mapping.id == id) =
          engine.registry.mappings :=
        List.eraseP_of_forall_not (List.find?_eq_none.mp found)
      exact congrArg Registry.mk absent.symm
  | some mapping => rfl

variable {engine}

/-- One more change leaves listed what is bound after it. -/
theorem listsBindings_change {changes : List RegistryChange}
    (lists : ListsBindings changes engine.registry.mappings) (change : RegistryChange) :
    ListsBindings (changes ++ [change]) (engine.change change).registry.mappings := by
  cases change with
  | upsert mapping =>
      cases problem : mapping.problem? with
      | none =>
          rw [change_upsert_of_valid engine problem]
          exact lists.register problem
      | some reason =>
          have refused : engine.upsert mapping = .error reason := by
            rw [upsert, Registry.upsert, problem]
          rw [change_upsert_of_refused engine refused]
          exact lists.refuse (by simp [problem])
  | remove id =>
      rw [change, registry_remove]
      exact lists.remove id
  | reset => exact .reset

/-- After any changes of an engine without mappings, what is bound is listed. -/
theorem listsBindings_changeAll (settings : MatchingSettings) (draws : Draws)
    (changes : List RegistryChange) :
    ListsBindings changes ((new settings draws).changeAll changes).registry.mappings := by
  induction changes using List.reverseRecOn with
  | nil => exact .nil
  | append_singleton changes change inductionHypothesis =>
      rw [changeAll, List.foldl_append]
      exact listsBindings_change inductionHypothesis change

end Engine

/-- After any changes of an engine without mappings its registry is a dictionary in the order of
insertion.  Its mappings have distinct identifiers and are valid, each identifier is bound to what
was last registered under it, and the mappings stand in the order in which their identifiers
entered, each of which did so once.  A look-up, the size and a removal agree with the mappings.  A
mapping is refused exactly for what validation finds, and then nothing changes. -/
theorem registry_is_insertion_ordered_dictionary (settings : MatchingSettings) (draws : Draws)
    (changes : List RegistryChange) :
    let engine := (Engine.new settings draws).changeAll changes
    let mappings := engine.registry.mappings
    (mappings.map Mapping.id).Nodup ∧
    (∀ mapping ∈ mappings, mapping.validate = .ok () ∧
      ∀ probability, mapping.probability = some probability →
        0 ≤ probability ∧ probability ≤ 1 ∧ probability.isNaN = false) ∧
    (∀ id mapping, mapping ∈ mappings ∧ mapping.id = id ↔ BoundTo id mapping changes) ∧
    (∀ mapping ∈ mappings, ∃! position, EntersAt mapping.id position changes) ∧
    mappings.Pairwise (fun first second => EntersBefore changes first.id second.id) ∧
    (∀ id mapping, engine.registry.find? id = some mapping ↔
      mapping ∈ mappings ∧ mapping.id = id) ∧
    engine.registry.size = mappings.length ∧
    (∀ id mapping, (engine.remove id).1 = some mapping ↔
      mapping ∈ mappings ∧ mapping.id = id) ∧
    (∀ id, (engine.remove id).2.1.registry.mappings =
      mappings.filter fun mapping => mapping.id != id) ∧
    ∀ mapping problem,
      (engine.upsert mapping = .error problem ↔ mapping.validate = .error problem) ∧
      (engine.upsert mapping = .error problem → engine.change (.upsert mapping) = engine) := by
  intro engine mappings
  have lists : ListsBindings changes mappings :=
    Engine.listsBindings_changeAll settings draws changes
  have found : ∀ id mapping, engine.registry.find? id = some mapping ↔
      mapping ∈ mappings ∧ mapping.id = id :=
    fun id mapping => Registry.find?_eq_some_iff lists.distinct
  refine ⟨lists.distinct, ?valid, ?bound, ?entered, List.pairwise_map.mp lists.ordered, found, rfl,
    ?removed, ?left, ?refused⟩
  case valid =>
    intro mapping member
    obtain ⟨-, valid⟩ := ((lists.mem_iff mapping).mp member).id_eq_and_valid
    exact ⟨mapping.validate_eq_ok_iff.mpr valid, fun _ => mapping.probability_bounds valid⟩
  case bound =>
    intro id mapping
    constructor
    · rintro ⟨member, rfl⟩
      exact (lists.mem_iff mapping).mp member
    · intro bound
      obtain ⟨rfl, -⟩ := bound.id_eq_and_valid
      exact ⟨(lists.mem_iff mapping).mpr bound, rfl⟩
  case entered =>
    intro mapping member
    obtain ⟨position, enters⟩ := ((lists.mem_iff mapping).mp member).exists_entersAt
    exact ⟨position, enters, fun other otherEnters => otherEnters.unique enters⟩
  case removed =>
    intro id mapping
    rw [Engine.fst_remove]
    exact found id mapping
  case left =>
    intro id
    rw [Engine.registry_remove]
    exact Registry.mappings_remove lists.distinct id
  case refused =>
    intro mapping problem
    exact ⟨engine.upsert_eq_error_iff mapping problem, engine.change_upsert_of_refused⟩

/-- The first mapping is replaced in its place, a mapping of no wins is refused, and the second
enters again behind the third. -/
example :
    let mapping := fun id priority => { Mapping.new (.ofNat id) .empty with priority := priority }
    let refused := { mapping 1 8 with winsInState := some 0 }
    (((Engine.new default (.replaying [])).changeAll [.upsert (mapping 1 1), .upsert (mapping 2 2),
      .upsert (mapping 3 3), .upsert (mapping 1 4), .upsert refused, .remove (.ofNat 2),
      .upsert (mapping 2 5)]).registry.mappings.map Mapping.priority) = [4, 3, 5] := by
  decide

end Understudy
