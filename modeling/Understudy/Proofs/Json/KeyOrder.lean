import Understudy.Proofs.Json.Normalization

/-!
# The order of keys

The members of an object may be listed in any order as long as each key is there once.  `sortKeys`
lists them in ascending order at every depth.  It gives values that differ in the order of keys
alone the same form, whether two values agree does not depend on it, and up to it agreement is
equality of normal forms.
-/

namespace Understudy

namespace Json

mutual

/-- The value with the keys of every object in ascending order. -/
def sortKeys : Json → Json
  | .array items => .array (sortKeysItems items)
  | .object members => ofMembers (sortKeysMembers members)
  | other => other

/-- The items with the keys of every object in ascending order. -/
def sortKeysItems : List Json → List Json
  | [] => []
  | item :: items => sortKeys item :: sortKeysItems items

/-- The members with the keys of every object in their values in ascending order. -/
def sortKeysMembers : List (String × Json) → List (String × Json)
  | [] => []
  | (key, value) :: members => (key, sortKeys value) :: sortKeysMembers members

end

/-- Equality of values, members of objects in any order. -/
def same (first second : Json) : Bool :=
  equal first.sortKeys second.sortKeys

/-! ## Members one by one -/

theorem uniqueKeysMembers_iff {members : List (String × Json)} :
    UniqueKeysMembers members ↔ ∀ member ∈ members, member.2.UniqueKeys := by
  induction members with
  | nil => simp [UniqueKeysMembers]
  | cons member rest inductionHypothesis =>
      rw [UniqueKeysMembers, inductionHypothesis, List.forall_mem_cons]

theorem orderedMembers_iff {members : List (String × Json)} :
    OrderedMembers members ↔ ∀ member ∈ members, member.2.Ordered := by
  induction members with
  | nil => simp [OrderedMembers]
  | cons member rest inductionHypothesis =>
      rw [OrderedMembers, inductionHypothesis, List.forall_mem_cons]

theorem sortKeysItems_eq_map (items : List Json) : sortKeysItems items = items.map sortKeys := by
  induction items with
  | nil => rfl
  | cons item rest inductionHypothesis => rw [sortKeysItems, inductionHypothesis, List.map_cons]

theorem sortKeysMembers_eq_map (members : List (String × Json)) :
    sortKeysMembers members = members.map fun member => (member.1, sortKeys member.2) := by
  induction members with
  | nil => rfl
  | cons member rest inductionHypothesis =>
      rw [sortKeysMembers, inductionHypothesis, List.map_cons]

@[simp]
theorem length_sortKeysMembers (members : List (String × Json)) :
    (sortKeysMembers members).length = members.length := by
  rw [sortKeysMembers_eq_map, List.length_map]

@[simp]
theorem map_fst_sortKeysMembers (members : List (String × Json)) :
    (sortKeysMembers members).map Prod.fst = members.map Prod.fst := by
  rw [sortKeysMembers_eq_map, List.map_map]
  rfl

theorem agreesMembers_eq_all (ignoreCase : Bool) (expected actual : List (String × Json)) :
    agreesMembers ignoreCase expected actual =
      expected.all fun member => (actual.lookup member.1).any (agrees ignoreCase member.2) := by
  induction expected with
  | nil => rw [agreesMembers, List.all_nil]
  | cons member rest inductionHypothesis =>
      rw [agreesMembers, inductionHypothesis, List.all_cons]
      cases actual.lookup member.1 <;> rfl

theorem lookup_sortKeysMembers (members : List (String × Json)) (key : String) :
    (sortKeysMembers members).lookup key = (members.lookup key).map sortKeys := by
  induction members with
  | nil => rfl
  | cons member rest inductionHypothesis =>
      rw [sortKeysMembers, NameMap.lookup_cons, NameMap.lookup_cons, inductionHypothesis]
      split <;> rfl

/-! ## Sorted values -/

mutual

theorem ordered_sortKeys (value : Json) : value.sortKeys.Ordered := by
  cases value with
  | array items => exact orderedItems_sortKeysItems items
  | object members =>
      exact ⟨(NameMap.ofList _).ascending, orderedMembers_iff.mpr <|
        NameMap.forall_mem_ofList (forall_ordered_sortKeysMembers members)⟩
  | _ => trivial
termination_by structural value

theorem orderedItems_sortKeysItems (items : List Json) : OrderedItems (sortKeysItems items) := by
  cases items with
  | nil => trivial
  | cons item rest => exact ⟨ordered_sortKeys item, orderedItems_sortKeysItems rest⟩
termination_by structural items

theorem forall_ordered_sortKeysMembers (members : List (String × Json)) :
    ∀ member ∈ sortKeysMembers members, member.2.Ordered := by
  cases members with
  | nil => exact nofun
  | cons member rest =>
      rcases member with ⟨key, value⟩
      rw [sortKeysMembers]
      exact List.forall_mem_cons.mpr
        ⟨ordered_sortKeys value, forall_ordered_sortKeysMembers rest⟩
termination_by structural members

end

/-- Members of different keys are collected in some order. -/
theorem entries_sortKeysMembers_perm {members : List (String × Json)}
    (nodup : (members.map Prod.fst).Nodup) :
    (NameMap.ofList (sortKeysMembers members)).entries.Perm (sortKeysMembers members) :=
  NameMap.entries_ofList_perm (by rwa [map_fst_sortKeysMembers])

/-- Objects that list the same members in different orders are sorted into one. -/
theorem sortKeys_object_of_perm {first second : List (String × Json)} (perm : first.Perm second)
    (nodup : (first.map Prod.fst).Nodup) :
    (object first).sortKeys = (object second).sortKeys := by
  have secondNodup : (second.map Prod.fst).Nodup := (perm.map Prod.fst).nodup_iff.mp nodup
  have membersPerm : (sortKeysMembers first).Perm (sortKeysMembers second) := by
    rw [sortKeysMembers_eq_map, sortKeysMembers_eq_map]
    exact perm.map _
  have entriesPerm := (entries_sortKeysMembers_perm nodup).trans
    (membersPerm.trans (entries_sortKeysMembers_perm secondNodup).symm)
  rw [sortKeys, sortKeys, ofMembers, ofMembers]
  exact congrArg object (NameMap.eq_of_perm entriesPerm (NameMap.ofList _).ascending
    (NameMap.ofList _).ascending)

/-! ## Agreement in any order of keys -/

/-- The order of members is nothing to a look-up of each of them. -/
theorem agreesMembers_of_perm (ignoreCase : Bool)
    {expected expected' actual actual' : List (String × Json)}
    (expectedPerm : expected'.Perm expected) (actualPerm : actual'.Perm actual)
    (nodup : (actual'.map Prod.fst).Nodup) :
    agreesMembers ignoreCase expected' actual' = agreesMembers ignoreCase expected actual := by
  rw [agreesMembers_eq_all, agreesMembers_eq_all, expectedPerm.all_eq]
  simp only [NameMap.lookup_of_perm actualPerm nodup]

mutual

/-- Whether values agree does not depend on the order of keys. -/
theorem agrees_sortKeys (ignoreCase : Bool) (expected actual : Json)
    (expectedUnique : expected.UniqueKeys) (actualUnique : actual.UniqueKeys) :
    agrees ignoreCase expected.sortKeys actual.sortKeys = agrees ignoreCase expected actual := by
  cases expected with
  | null => cases actual <;> rfl
  | boolean value => cases actual <;> rfl
  | integer value => cases actual <;> rfl
  | decimal value => cases actual <;> rfl
  | text value => cases actual <;> rfl
  | array items =>
      cases actual with
      | array others =>
          rw [sortKeys, sortKeys, agrees, agrees,
            agreesItems_sortKeysItems ignoreCase items others expectedUnique actualUnique,
            sortKeysItems_eq_map, sortKeysItems_eq_map, List.length_map, List.length_map]
      | _ => rfl
  | object members =>
      cases actual with
      | object others =>
          have expectedPerm := entries_sortKeysMembers_perm expectedUnique.1
          have actualPerm := entries_sortKeysMembers_perm actualUnique.1
          have nodup := NameMap.nodup_names_of_ascending
            (NameMap.ofList (sortKeysMembers others)).ascending
          rw [sortKeys, sortKeys, ofMembers, ofMembers, agrees, agrees, expectedPerm.length_eq,
            actualPerm.length_eq, length_sortKeysMembers, length_sortKeysMembers,
            agreesMembers_of_perm ignoreCase expectedPerm actualPerm nodup,
            agreesMembers_sortKeysMembers ignoreCase members others expectedUnique.2
              (uniqueKeysMembers_iff.mp actualUnique.2)]
      | _ => rfl
termination_by structural expected

theorem agreesItems_sortKeysItems (ignoreCase : Bool) (expected actual : List Json)
    (expectedUnique : UniqueKeysItems expected) (actualUnique : UniqueKeysItems actual) :
    agreesItems ignoreCase (sortKeysItems expected) (sortKeysItems actual) =
      agreesItems ignoreCase expected actual := by
  cases expected with
  | nil => simp [sortKeysItems, agreesItems]
  | cons item rest =>
      cases actual with
      | nil => simp [sortKeysItems, agreesItems]
      | cons other otherRest =>
          rw [sortKeysItems, sortKeysItems, agreesItems, agreesItems,
            agrees_sortKeys ignoreCase item other expectedUnique.1 actualUnique.1,
            agreesItems_sortKeysItems ignoreCase rest otherRest expectedUnique.2 actualUnique.2]
termination_by structural expected

theorem agreesMembers_sortKeysMembers (ignoreCase : Bool) (expected actual : List (String × Json))
    (expectedUnique : UniqueKeysMembers expected)
    (actualUnique : ∀ member ∈ actual, member.2.UniqueKeys) :
    agreesMembers ignoreCase (sortKeysMembers expected) (sortKeysMembers actual) =
      agreesMembers ignoreCase expected actual := by
  cases expected with
  | nil => simp [sortKeysMembers, agreesMembers]
  | cons member rest =>
      rcases member with ⟨key, value⟩
      rw [sortKeysMembers, agreesMembers, agreesMembers, lookup_sortKeysMembers,
        agreesMembers_sortKeysMembers ignoreCase rest actual expectedUnique.2 actualUnique]
      cases found : actual.lookup key with
      | none => rfl
      | some other =>
          obtain ⟨before, after, rfl, -⟩ := List.lookup_eq_some_iff.mp found
          have otherUnique : other.UniqueKeys := actualUnique (key, other) (by simp)
          simp only [Option.map_some,
            agrees_sortKeys ignoreCase value other expectedUnique.1 otherUnique]
termination_by structural expected

end

/-! ## Normal forms in any order of keys -/

mutual

/-- Lowering texts and sorting keys may change places. -/
theorem sortKeys_foldCase (value : Json) : value.foldCase.sortKeys = value.sortKeys.foldCase := by
  cases value with
  | array items => exact congrArg array (sortKeysItems_foldCaseItems items)
  | object members =>
      rw [foldCase, sortKeys, sortKeys, sortKeysMembers_foldCaseMembers members,
        foldCaseMembers_eq_map, ofMembers, ofMembers, NameMap.ofList_map foldCase, foldCase,
        foldCaseMembers_eq_map]
      rfl
  | _ => rfl
termination_by structural value

theorem sortKeysItems_foldCaseItems (items : List Json) :
    sortKeysItems (foldCaseItems items) = foldCaseItems (sortKeysItems items) := by
  cases items with
  | nil => rfl
  | cons item rest =>
      rw [foldCaseItems, sortKeysItems, sortKeysItems, foldCaseItems, sortKeys_foldCase item,
        sortKeysItems_foldCaseItems rest]
termination_by structural items

theorem sortKeysMembers_foldCaseMembers (members : List (String × Json)) :
    sortKeysMembers (foldCaseMembers members) = foldCaseMembers (sortKeysMembers members) := by
  cases members with
  | nil => rfl
  | cons member rest =>
      rcases member with ⟨key, value⟩
      rw [foldCaseMembers, sortKeysMembers, sortKeysMembers, foldCaseMembers,
        sortKeys_foldCase value, sortKeysMembers_foldCaseMembers rest]
termination_by structural members

end

theorem sortKeys_norm (ignoreCase : Bool) (value : Json) :
    (norm ignoreCase value).sortKeys = norm ignoreCase value.sortKeys := by
  cases ignoreCase with
  | false => rfl
  | true => exact sortKeys_foldCase value

/-- Values agree exactly if their normal forms are the same. -/
theorem agrees_eq_same_norm (ignoreCase : Bool) {expected actual : Json}
    (expectedUnique : expected.UniqueKeys) (actualUnique : actual.UniqueKeys) :
    agrees ignoreCase expected actual = same (norm ignoreCase expected) (norm ignoreCase actual) := by
  rw [same, sortKeys_norm, sortKeys_norm,
    ← agrees_eq_equal_norm ignoreCase _ _ (ordered_sortKeys expected) (ordered_sortKeys actual),
    agrees_sortKeys ignoreCase expected actual expectedUnique actualUnique]

/-- The values of documents are the same exactly if they are equal member by member. -/
theorem same_eq_equal_of_ordered {first second : Json} (firstOrdered : first.Ordered)
    (secondOrdered : second.Ordered) : same first second = equal first second :=
  calc same first second = agrees false first second :=
        (agrees_eq_same_norm false (uniqueKeys_of_ordered firstOrdered)
          (uniqueKeys_of_ordered secondOrdered)).symm
    _ = equal first second := agrees_eq_equal_norm false first second firstOrdered secondOrdered

end Json

end Understudy
