import Mathlib.Data.List.Nodup
import Understudy.Registry

/-!
# Registration

Where a mapping goes when it is registered.  A mapping is registered in any case, and one with a
new identifier is appended.  Where the identifiers are distinct, a registered mapping takes the
place of the one with its identifier, a removal leaves out that one, and a look-up finds it.
-/

namespace Understudy.Registry

theorem mem_place (mapping : Mapping) (mappings : List Mapping) :
    mapping ∈ place mapping mappings := by
  induction mappings with
  | nil => exact List.mem_singleton_self mapping
  | cons other rest inductionHypothesis =>
      rw [place]
      split
      · exact List.mem_cons_self
      · exact List.mem_cons_of_mem _ inductionHypothesis

theorem eq_or_mem_of_mem_place {mapping other : Mapping} {mappings : List Mapping}
    (member : other ∈ place mapping mappings) : other = mapping ∨ other ∈ mappings := by
  induction mappings with
  | nil => exact .inl (List.mem_singleton.mp member)
  | cons first rest inductionHypothesis =>
      rw [place] at member
      split at member
      · exact (List.mem_cons.mp member).imp_right (List.mem_cons_of_mem _)
      · rcases List.mem_cons.mp member with rfl | inRest
        · exact .inr List.mem_cons_self
        · exact (inductionHypothesis inRest).imp_right (List.mem_cons_of_mem _)

theorem place_eq_append {mapping : Mapping} {mappings : List Mapping}
    (fresh : ∀ other ∈ mappings, other.id ≠ mapping.id) :
    place mapping mappings = mappings ++ [mapping] := by
  induction mappings with
  | nil => rfl
  | cons other rest inductionHypothesis =>
      have different : ¬(other.id == mapping.id) = true := by
        simpa using fresh other List.mem_cons_self
      rw [place, if_neg different,
        inductionHypothesis fun next member => fresh next (List.mem_cons_of_mem _ member),
        List.cons_append]

theorem forall_ne_of_find?_eq_none {registry : Registry} {id : Identifier}
    (absent : registry.find? id = none) : ∀ mapping ∈ registry.mappings, mapping.id ≠ id := by
  intro mapping member
  simpa using List.find?_eq_none.mp absent mapping member

/-- A valid mapping with a new identifier is registered behind all others. -/
theorem upsert_of_fresh {registry : Registry} {mapping : Mapping}
    (valid : mapping.problem? = none) (fresh : ∀ other ∈ registry.mappings, other.id ≠ mapping.id) :
    registry.upsert mapping = .ok ⟨registry.mappings ++ [mapping]⟩ := by
  rw [upsert, valid]
  exact congrArg (fun mappings => Except.ok (Registry.mk mappings)) (place_eq_append fresh)

/-- The identifiers stay as they are, with a new one at the end. -/
theorem ids_place (mapping : Mapping) (mappings : List Mapping) :
    (place mapping mappings).map Mapping.id =
      if mapping.id ∈ mappings.map Mapping.id then mappings.map Mapping.id
      else mappings.map Mapping.id ++ [mapping.id] := by
  induction mappings with
  | nil => rfl
  | cons other rest inductionHypothesis =>
      rw [place]
      by_cases same : other.id = mapping.id
      · rw [if_pos (beq_iff_eq.mpr same), if_pos (by simp [same]), List.map_cons, List.map_cons,
          same]
      · have different : ¬(other.id == mapping.id) = true := by simpa using same
        rw [if_neg different, List.map_cons, inductionHypothesis]
        by_cases present : mapping.id ∈ rest.map Mapping.id
        · have presentBehind : mapping.id ∈ (other :: rest).map Mapping.id :=
            List.mem_cons_of_mem _ present
          rw [if_pos present, if_pos presentBehind, List.map_cons]
        · have absent : mapping.id ∉ (other :: rest).map Mapping.id := by
            rw [List.map_cons, List.mem_cons, not_or]
            exact ⟨fun equal => same equal.symm, present⟩
          rw [if_neg present, if_neg absent, List.map_cons, List.cons_append]

section

variable {mappings : List Mapping} (distinct : (mappings.map Mapping.id).Nodup)
include distinct

theorem mem_place_iff {mapping other : Mapping} :
    other ∈ place mapping mappings ↔
      other = mapping ∨ other ∈ mappings ∧ other.id ≠ mapping.id := by
  induction mappings with
  | nil => simp [place]
  | cons first rest inductionHypothesis =>
      obtain ⟨fresh, restDistinct⟩ := List.nodup_cons.mp distinct
      rw [place]
      by_cases same : first.id = mapping.id
      · -- the first mapping is replaced, and no other has its identifier
        have others : ∀ later ∈ rest, later.id ≠ mapping.id := by
          intro later member equal
          exact fresh (List.mem_map.mpr ⟨later, member, equal.trans same.symm⟩)
        rw [if_pos (beq_iff_eq.mpr same), List.mem_cons, List.mem_cons]
        constructor
        · rintro (rfl | inRest)
          · exact .inl rfl
          · exact .inr ⟨.inr inRest, others other inRest⟩
        · rintro (rfl | ⟨rfl | inRest, different⟩)
          · exact .inl rfl
          · exact absurd same different
          · exact .inr inRest
      · have different : ¬(first.id == mapping.id) = true := by simpa using same
        rw [if_neg different, List.mem_cons, List.mem_cons, inductionHypothesis restDistinct]
        constructor
        · rintro (rfl | rfl | ⟨inRest, unequal⟩)
          · exact .inr ⟨.inl rfl, same⟩
          · exact .inl rfl
          · exact .inr ⟨.inr inRest, unequal⟩
        · rintro (rfl | ⟨rfl | inRest, unequal⟩)
          · exact .inr (.inl rfl)
          · exact .inl rfl
          · exact .inr (.inr ⟨inRest, unequal⟩)

/-- A removal leaves out the mapping with the identifier, and no other. -/
theorem mappings_remove (id : Identifier) :
    (remove ⟨mappings⟩ id).mappings = mappings.filter fun mapping => mapping.id != id := by
  change mappings.eraseP (fun mapping => mapping.id == id) = _
  induction mappings with
  | nil => rfl
  | cons first rest inductionHypothesis =>
      obtain ⟨fresh, restDistinct⟩ := List.nodup_cons.mp distinct
      by_cases same : first.id = id
      · have others : ∀ later ∈ rest, (later.id != id) = true := by
          intro later member
          rw [bne_iff_ne]
          intro equal
          exact fresh (List.mem_map.mpr ⟨later, member, equal.trans same.symm⟩)
        rw [List.eraseP_cons_of_pos (by simpa using same), List.filter_cons_of_neg (by simp [same]),
          List.filter_eq_self.mpr others]
      · rw [List.eraseP_cons_of_neg (by simpa using same),
          List.filter_cons_of_pos (by simpa using same), inductionHypothesis restDistinct]

/-- A look-up finds the mapping with the identifier. -/
theorem find?_eq_some_iff {id : Identifier} {mapping : Mapping} :
    find? ⟨mappings⟩ id = some mapping ↔ mapping ∈ mappings ∧ mapping.id = id := by
  rw [find?]
  constructor
  · intro found
    exact ⟨List.mem_of_find?_eq_some found, by simpa using List.find?_some found⟩
  · rintro ⟨member, rfl⟩
    cases found : mappings.find? fun other => other.id == mapping.id with
    | none => exact absurd (List.find?_eq_none.mp found mapping member) (by simp)
    | some other =>
        have same : other.id = mapping.id := by simpa using List.find?_some found
        rw [List.inj_on_of_nodup_map distinct (List.mem_of_find?_eq_some found) member same]

end

end Understudy.Registry
