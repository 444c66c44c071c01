import Understudy.Proofs.Json.KeyOrder

/-!
# Agreement as an equivalence

Agreement of JSON values is equality of their normal forms, with members of objects in any order.
It is therefore symmetric and transitive, a value without a NaN agrees with itself, and the order of
keys is nothing to it.  Heeding case it is equality of the values, and ignoring case only adds to
it.
-/

namespace Understudy

namespace Json

/-! ## Equality of values -/

mutual

theorem equal_comm (first second : Json) : equal first second = equal second first := by
  cases first with
  | null => cases second <;> rfl
  | boolean value =>
      cases second with
      | boolean other => exact BEq.comm
      | _ => rfl
  | integer value =>
      cases second with
      | integer other => exact BEq.comm
      | _ => rfl
  | decimal value =>
      cases second with
      | decimal other => exact BEq.comm
      | _ => rfl
  | text value =>
      cases second with
      | text other => exact BEq.comm
      | _ => rfl
  | array items =>
      cases second with
      | array others => exact equalItems_comm items others
      | _ => rfl
  | object members =>
      cases second with
      | object others => exact equalMembers_comm members others
      | _ => rfl
termination_by structural first

theorem equalItems_comm (first second : List Json) :
    equalItems first second = equalItems second first := by
  cases first with
  | nil => cases second <;> rfl
  | cons item rest =>
      cases second with
      | nil => rfl
      | cons other otherRest =>
          rw [equalItems, equalItems, equal_comm item other, equalItems_comm rest otherRest]
termination_by structural first

theorem equalMembers_comm (first second : List (String × Json)) :
    equalMembers first second = equalMembers second first := by
  cases first with
  | nil => cases second <;> rfl
  | cons member rest =>
      cases second with
      | nil => rfl
      | cons other otherRest =>
          rcases member with ⟨key, value⟩
          rcases other with ⟨otherKey, otherValue⟩
          rw [equalMembers, equalMembers, equal_comm value otherValue,
            equalMembers_comm rest otherRest, BEq.comm (a := key)]
termination_by structural first

end

mutual

theorem equal_trans {first second third : Json} (left : equal first second = true)
    (right : equal second third = true) : equal first third = true := by
  cases first with
  | null =>
      cases second with
      | null => exact right
      | _ => cases left
  | boolean value =>
      cases second with
      | boolean other =>
          cases third with
          | boolean last => exact BEq.trans left right
          | _ => cases right
      | _ => cases left
  | integer value =>
      cases second with
      | integer other =>
          cases third with
          | integer last => exact BEq.trans left right
          | _ => cases right
      | _ => cases left
  | decimal value =>
      cases second with
      | decimal other =>
          cases third with
          | decimal last => exact BEq.trans left right
          | _ => cases right
      | _ => cases left
  | text value =>
      cases second with
      | text other =>
          cases third with
          | text last => exact BEq.trans left right
          | _ => cases right
      | _ => cases left
  | array items =>
      cases second with
      | array others =>
          cases third with
          | array last => exact equalItems_trans left right
          | _ => cases right
      | _ => cases left
  | object members =>
      cases second with
      | object others =>
          cases third with
          | object last => exact equalMembers_trans left right
          | _ => cases right
      | _ => cases left
termination_by structural first

theorem equalItems_trans {first second third : List Json} (left : equalItems first second = true)
    (right : equalItems second third = true) : equalItems first third = true := by
  cases first with
  | nil =>
      cases second with
      | nil => exact right
      | cons => cases left
  | cons item rest =>
      cases second with
      | nil => cases left
      | cons other otherRest =>
          cases third with
          | nil => cases right
          | cons last lastRest =>
              rw [equalItems, Bool.and_eq_true] at left right ⊢
              exact ⟨equal_trans left.1 right.1, equalItems_trans left.2 right.2⟩
termination_by structural first

theorem equalMembers_trans {first second third : List (String × Json)}
    (left : equalMembers first second = true) (right : equalMembers second third = true) :
    equalMembers first third = true := by
  cases first with
  | nil =>
      cases second with
      | nil => exact right
      | cons => cases left
  | cons member rest =>
      cases second with
      | nil => cases left
      | cons other otherRest =>
          cases third with
          | nil => cases right
          | cons last lastRest =>
              rcases member with ⟨key, value⟩
              rw [equalMembers, Bool.and_eq_true, Bool.and_eq_true] at left right ⊢
              exact ⟨⟨BEq.trans left.1.1 right.1.1, equal_trans left.1.2 right.1.2⟩,
                equalMembers_trans left.2 right.2⟩
termination_by structural first

end

theorem same_comm (first second : Json) : same first second = same second first :=
  equal_comm first.sortKeys second.sortKeys

theorem same_trans {first second third : Json} (left : same first second = true)
    (right : same second third = true) : same first third = true :=
  equal_trans left right

/-! ## Ignoring case -/

mutual

/-- What agrees heeding case agrees ignoring it. -/
theorem agrees_ignoring_of_agrees {expected actual : Json}
    (agree : agrees false expected actual = true) : agrees true expected actual = true := by
  cases expected with
  | text value =>
      cases actual with
      | text other =>
          obtain rfl : value = other := beq_iff_eq.mp agree
          exact beq_self_eq_true (Text.toLower value)
      | _ => cases agree
  | array items =>
      cases actual with
      | array others =>
          rw [agrees, Bool.and_eq_true] at agree ⊢
          exact ⟨agree.1, agreesItems_ignoring_of_agreesItems agree.2⟩
      | _ => cases agree
  | object members =>
      cases actual with
      | object others =>
          rw [agrees, Bool.and_eq_true] at agree ⊢
          exact ⟨agree.1, agreesMembers_ignoring_of_agreesMembers agree.2⟩
      | _ => cases agree
  | _ => cases actual <;> exact agree
termination_by structural expected

theorem agreesItems_ignoring_of_agreesItems {expected actual : List Json}
    (agree : agreesItems false expected actual = true) :
    agreesItems true expected actual = true := by
  cases expected with
  | nil => exact agree
  | cons item rest =>
      cases actual with
      | nil => exact agree
      | cons other otherRest =>
          rw [agreesItems, Bool.and_eq_true] at agree ⊢
          exact ⟨agrees_ignoring_of_agrees agree.1, agreesItems_ignoring_of_agreesItems agree.2⟩
termination_by structural expected

theorem agreesMembers_ignoring_of_agreesMembers {expected actual : List (String × Json)}
    (agree : agreesMembers false expected actual = true) :
    agreesMembers true expected actual = true := by
  cases expected with
  | nil => exact agree
  | cons member rest =>
      rcases member with ⟨key, value⟩
      rw [agreesMembers, Bool.and_eq_true] at agree ⊢
      refine ⟨?_, agreesMembers_ignoring_of_agreesMembers agree.2⟩
      cases found : actual.lookup key with
      | none => simp [found] at agree
      | some other =>
          rw [found] at agree
          exact agrees_ignoring_of_agrees agree.1
termination_by structural expected

end

end Json

open Json

/-- Agreement of values whose objects have each key once is equality of their normal forms, which
have all texts in lower case if case is ignored; the members of objects may stand in any order, and
for the values of documents the equality is that of members in order.  So agreement is reflexive
where there is no NaN, symmetric and transitive, and the order of keys is nothing to it; heeding
case it is equality of the values, and ignoring case never takes an agreement away. -/
theorem agreement_is_equality_of_normal_forms (ignoreCase : Bool) {first second third : Json}
    (firstUnique : first.UniqueKeys) (secondUnique : second.UniqueKeys)
    (thirdUnique : third.UniqueKeys) :
    agrees ignoreCase first second = same (norm ignoreCase first) (norm ignoreCase second) ∧
    (first.Ordered → second.Ordered →
      agrees ignoreCase first second = equal (norm ignoreCase first) (norm ignoreCase second) ∧
      same first second = equal first second) ∧
    (first.Numeric → agrees ignoreCase first first = true) ∧
    agrees ignoreCase first second = agrees ignoreCase second first ∧
    (agrees ignoreCase first second = true → agrees ignoreCase second third = true →
      agrees ignoreCase first third = true) ∧
    (second.sortKeys = third.sortKeys →
      agrees ignoreCase first second = agrees ignoreCase first third ∧
      agrees ignoreCase second first = agrees ignoreCase third first) ∧
    agrees false first second = same first second ∧
    (agrees false first second = true → agrees true first second = true) := by
  have normal : ∀ {expected actual : Json}, expected.UniqueKeys → actual.UniqueKeys →
      agrees ignoreCase expected actual = same (norm ignoreCase expected) (norm ignoreCase actual) :=
    fun expectedUnique actualUnique => agrees_eq_same_norm ignoreCase expectedUnique actualUnique
  refine ⟨normal firstUnique secondUnique, fun firstOrdered secondOrdered => ⟨?_, ?_⟩,
    agrees_self ignoreCase first firstUnique, ?_, ?_, fun sortedEq => ⟨?_, ?_⟩,
    agrees_eq_same_norm false firstUnique secondUnique, agrees_ignoring_of_agrees⟩
  · exact agrees_eq_equal_norm ignoreCase first second firstOrdered secondOrdered
  · exact same_eq_equal_of_ordered firstOrdered secondOrdered
  · rw [normal firstUnique secondUnique, normal secondUnique firstUnique, same_comm]
  · rw [normal firstUnique secondUnique, normal secondUnique thirdUnique,
      normal firstUnique thirdUnique]
    exact same_trans
  · rw [← agrees_sortKeys ignoreCase first second firstUnique secondUnique, sortedEq,
      agrees_sortKeys ignoreCase first third firstUnique thirdUnique]
  · rw [← agrees_sortKeys ignoreCase second first secondUnique firstUnique, sortedEq,
      agrees_sortKeys ignoreCase third first thirdUnique firstUnique]

/-- Ignoring case, a customer in small letters agrees with the one in capitals whichever key comes
first; heeding case it does not. -/
theorem customer_in_other_words_agrees :
    let listed : List (String × Json) := [("name", .text "ALICE"), ("age", .integer 30)]
    let reordered : List (String × Json) := [("age", .integer 30), ("name", .text "ALICE")]
    let lowered : Json := .object [("name", .text "alice"), ("age", .integer 30)]
    (Json.object listed).UniqueKeys ∧ (Json.object reordered).UniqueKeys ∧ lowered.UniqueKeys ∧
      agrees true lowered (.object listed) = true ∧
      agrees true lowered (.object reordered) = true ∧
      agrees false lowered (.object reordered) = false := by
  intro listed reordered lowered
  have listedUnique : (Json.object listed).UniqueKeys := ⟨by decide, trivial, trivial, trivial⟩
  have reorderedUnique : (Json.object reordered).UniqueKeys :=
    ⟨by decide, trivial, trivial, trivial⟩
  have loweredUnique : lowered.UniqueKeys := ⟨by decide, trivial, trivial, trivial⟩
  have sortedEq : (Json.object listed).sortKeys = (Json.object reordered).sortKeys :=
    sortKeys_object_of_perm (.swap _ _ _) listedUnique.1
  have agree : agrees true lowered (.object listed) = true := by decide +kernel
  obtain ⟨-, -, -, -, -, inAnyOrder, -⟩ :=
    agreement_is_equality_of_normal_forms true loweredUnique listedUnique reorderedUnique
  exact ⟨listedUnique, reorderedUnique, loweredUnique, agree,
    (inAnyOrder sortedEq).1.symm.trans agree, by decide +kernel⟩

end Understudy
