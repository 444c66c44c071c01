import Understudy.Json.Equality
import Understudy.Proofs.NameMap
import Understudy.Proofs.Score.Equality

/-!
# Agreement of JSON values

A JSON value agrees with itself, also when the case of texts is ignored.  This needs what every
value of a document has: an object has each key once, so that a look-up finds the member it is
asked for, and no double is a NaN, which would differ from itself.
-/

namespace Understudy

namespace Json

mutual

/-- No double in the value is a NaN. -/
def Numeric : Json → Prop
  | .decimal value => value.isNaN = false
  | .array items => NumericItems items
  | .object members => NumericMembers members
  | _ => True

/-- No double in the items is a NaN. -/
def NumericItems : List Json → Prop
  | [] => True
  | item :: items => Numeric item ∧ NumericItems items

/-- No double in the member values is a NaN. -/
def NumericMembers : List (String × Json) → Prop
  | [] => True
  | (_, value) :: members => Numeric value ∧ NumericMembers members

end

mutual

/-- Every object in the value has each key once. -/
def UniqueKeys : Json → Prop
  | .array items => UniqueKeysItems items
  | .object members => (members.map Prod.fst).Nodup ∧ UniqueKeysMembers members
  | _ => True

/-- Every object in the items has each key once. -/
def UniqueKeysItems : List Json → Prop
  | [] => True
  | item :: items => UniqueKeys item ∧ UniqueKeysItems items

/-- Every object in the member values has each key once. -/
def UniqueKeysMembers : List (String × Json) → Prop
  | [] => True
  | (_, value) :: members => UniqueKeys value ∧ UniqueKeysMembers members

end

/-- A value that a JSON document can hold. -/
structure WellFormed (value : Json) : Prop where
  ordered : value.Ordered
  numeric : value.Numeric

mutual

/-- Ascending keys are there once each. -/
theorem uniqueKeys_of_ordered {value : Json} (ordered : value.Ordered) : value.UniqueKeys := by
  cases value with
  | array items => exact uniqueKeysItems_of_orderedItems ordered
  | object members =>
      exact ⟨NameMap.nodup_names_of_ascending ordered.1,
        uniqueKeysMembers_of_orderedMembers ordered.2⟩
  | _ => trivial
termination_by structural value

theorem uniqueKeysItems_of_orderedItems {items : List Json} (ordered : OrderedItems items) :
    UniqueKeysItems items := by
  cases items with
  | nil => trivial
  | cons item rest =>
      exact ⟨uniqueKeys_of_ordered ordered.1, uniqueKeysItems_of_orderedItems ordered.2⟩
termination_by structural items

theorem uniqueKeysMembers_of_orderedMembers {members : List (String × Json)}
    (ordered : OrderedMembers members) : UniqueKeysMembers members := by
  cases members with
  | nil => trivial
  | cons member rest =>
      exact ⟨uniqueKeys_of_ordered ordered.1, uniqueKeysMembers_of_orderedMembers ordered.2⟩
termination_by structural members

end

mutual

theorem agrees_self (ignoreCase : Bool) (value : Json) (unique : value.UniqueKeys)
    (numeric : value.Numeric) : agrees ignoreCase value value = true := by
  cases value with
  | null => simp [agrees]
  | boolean value => simp [agrees]
  | integer value => simp [agrees]
  | decimal value => simpa [agrees] using beq_self_of_isNaN_eq_false numeric
  | text value => simp [agrees]
  | array items =>
      simp only [agrees, BEq.rfl, Bool.true_and]
      exact agreesItems_self ignoreCase items unique numeric
  | object members =>
      simp only [agrees, BEq.rfl, Bool.true_and]
      exact agreesMembers_of_subset ignoreCase members members unique.1 (List.Subset.refl _)
        unique.2 numeric

theorem agreesItems_self (ignoreCase : Bool) (items : List Json) (unique : UniqueKeysItems items)
    (numeric : NumericItems items) : agreesItems ignoreCase items items = true := by
  cases items with
  | nil => simp [agreesItems]
  | cons item rest =>
      simp only [agreesItems, Bool.and_eq_true]
      exact ⟨agrees_self ignoreCase item unique.1 numeric.1,
        agreesItems_self ignoreCase rest unique.2 numeric.2⟩

/-- Members that all stand in an object agree with it. -/
theorem agreesMembers_of_subset (ignoreCase : Bool) (members whole : List (String × Json))
    (nodup : (whole.map Prod.fst).Nodup) (subset : members ⊆ whole)
    (unique : UniqueKeysMembers members)
    (numeric : NumericMembers members) : agreesMembers ignoreCase members whole = true := by
  cases members with
  | nil => simp [agreesMembers]
  | cons member rest =>
      rcases member with ⟨key, value⟩
      have found : whole.lookup key = some value :=
        (NameMap.lookup_eq_some_iff_mem nodup).mpr (subset List.mem_cons_self)
      simp only [agreesMembers, found, Bool.and_eq_true]
      exact ⟨agrees_self ignoreCase value unique.1 numeric.1,
        agreesMembers_of_subset ignoreCase rest whole nodup
          (List.subset_of_cons_subset subset) unique.2 numeric.2⟩

end

end Json

end Understudy
