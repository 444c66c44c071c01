import Understudy.Proofs.Json.Agreement

/-!
# Agreement as equality of normal forms

The look-up of members tells ordered values apart exactly as their equality does.  The keys of two
objects ascend, so if each key of the one is found in the other and both have as many, the keys are
the same in the same order, and every look-up meets the member in the same place.  Agreement up to
case is therefore equality with all texts in lower case.
-/

namespace Understudy

namespace Json

/-! ## Normal forms -/

theorem foldCaseItems_eq_map (items : List Json) : foldCaseItems items = items.map foldCase := by
  induction items with
  | nil => rfl
  | cons item rest inductionHypothesis =>
      rw [foldCaseItems, inductionHypothesis, List.map_cons]

theorem foldCaseMembers_eq_map (members : List (String × Json)) :
    foldCaseMembers members = members.map fun member => (member.1, foldCase member.2) := by
  induction members with
  | nil => rfl
  | cons member rest inductionHypothesis =>
      rw [foldCaseMembers, inductionHypothesis, List.map_cons]

theorem norm_array (ignoreCase : Bool) (items : List Json) :
    norm ignoreCase (.array items) = .array (items.map (norm ignoreCase)) := by
  cases ignoreCase with
  | false => exact congrArg Json.array (List.map_id items).symm
  | true => exact congrArg Json.array (foldCaseItems_eq_map items)

theorem norm_object (ignoreCase : Bool) (members : List (String × Json)) :
    norm ignoreCase (.object members) =
      .object (members.map fun member => (member.1, norm ignoreCase member.2)) := by
  cases ignoreCase with
  | false => exact congrArg Json.object (List.map_id members).symm
  | true => exact congrArg Json.object (foldCaseMembers_eq_map members)

/-! ## Keys -/

/-- Every key of members that are found in an object is one of its keys. -/
theorem keys_subset_of_agreesMembers {ignoreCase : Bool} {expected actual : List (String × Json)}
    (agree : agreesMembers ignoreCase expected actual = true) :
    expected.map Prod.fst ⊆ actual.map Prod.fst := by
  induction expected with
  | nil => exact List.nil_subset _
  | cons member rest inductionHypothesis =>
      rw [agreesMembers, Bool.and_eq_true] at agree
      refine List.cons_subset.mpr ⟨?_, inductionHypothesis agree.2⟩
      cases found : actual.lookup member.1 with
      | none =>
          rw [found] at agree
          exact absurd agree.1 Bool.false_ne_true
      | some value =>
          obtain ⟨before, after, rfl, -⟩ := List.lookup_eq_some_iff.mp found
          simp

/-- Members that are found in an object of as many members have the same keys in the same order. -/
theorem keys_eq_of_agreesMembers {ignoreCase : Bool} {expected actual : List (String × Json)}
    (expectedAscending : expected.Pairwise fun first second => first.1 < second.1)
    (actualAscending : actual.Pairwise fun first second => first.1 < second.1)
    (lengthEq : expected.length = actual.length)
    (agree : agreesMembers ignoreCase expected actual = true) :
    expected.map Prod.fst = actual.map Prod.fst := by
  have ascending := List.pairwise_map.mpr expectedAscending
  have nodup := NameMap.nodup_names_of_ascending expectedAscending
  -- distinct keys that are all found among no more keys are those keys in some order
  have perm : (expected.map Prod.fst).Perm (actual.map Prod.fst) :=
    (nodup.subperm (keys_subset_of_agreesMembers agree)).perm_of_length_le (by simp [lengthEq])
  exact perm.eq_of_pairwise (fun first second _ _ less greater =>
    absurd less (String.lt_asymm greater)) ascending (List.pairwise_map.mpr actualAscending)

/-- Equal members have the same keys in the same order. -/
theorem keys_eq_of_equalMembers {first second : List (String × Json)}
    (equalAll : equalMembers first second = true) :
    first.map Prod.fst = second.map Prod.fst := by
  induction first generalizing second with
  | nil =>
      cases second with
      | nil => rfl
      | cons member rest => cases equalAll
  | cons member rest inductionHypothesis =>
      cases second with
      | nil => cases equalAll
      | cons other otherRest =>
          rw [equalMembers, Bool.and_eq_true, Bool.and_eq_true, beq_iff_eq] at equalAll
          rw [List.map_cons, List.map_cons, equalAll.1.1, inductionHypothesis equalAll.2]

/-! ## Values -/

mutual

/-- Ordered values agree exactly if their normal forms are equal. -/
theorem agrees_eq_equal_norm (ignoreCase : Bool) (expected actual : Json)
    (expectedOrdered : expected.Ordered) (actualOrdered : actual.Ordered) :
    agrees ignoreCase expected actual =
      equal (norm ignoreCase expected) (norm ignoreCase actual) := by
  cases expected with
  | null => cases actual <;> cases ignoreCase <;> simp [agrees, equal, norm, foldCase]
  | boolean value => cases actual <;> cases ignoreCase <;> simp [agrees, equal, norm, foldCase]
  | integer value => cases actual <;> cases ignoreCase <;> simp [agrees, equal, norm, foldCase]
  | decimal value => cases actual <;> cases ignoreCase <;> simp [agrees, equal, norm, foldCase]
  | text value => cases actual <;> cases ignoreCase <;> simp [agrees, equal, norm, foldCase]
  | array items =>
      cases actual with
      | array others =>
          rw [norm_array, norm_array, agrees, equal]
          exact agreesItems_eq_equalItems ignoreCase items others expectedOrdered actualOrdered
      | _ => cases ignoreCase <;> simp [agrees, equal, norm, foldCase]
  | object members =>
      cases actual with
      | object others =>
          rw [norm_object, norm_object, agrees, equal]
          by_cases keysEq : members.map Prod.fst = others.map Prod.fst
          · have lengthEq : members.length = others.length := by
              simpa using congrArg List.length keysEq
            rw [lengthEq, BEq.rfl, Bool.true_and]
            exact agreesMembers_eq_equalMembers ignoreCase members others others actualOrdered.1
              (List.Subset.refl _) keysEq expectedOrdered.2 actualOrdered.2
          · have different : ¬(members.length == others.length &&
                agreesMembers ignoreCase members others) = true := by
              rw [Bool.and_eq_true, beq_iff_eq]
              exact fun agree => keysEq
                (keys_eq_of_agreesMembers expectedOrdered.1 actualOrdered.1 agree.1 agree.2)
            have unequal : ¬equalMembers
                (members.map fun member => (member.1, norm ignoreCase member.2))
                (others.map fun member => (member.1, norm ignoreCase member.2)) = true :=
              fun equalAll => keysEq (by
                simpa [Function.comp_def] using keys_eq_of_equalMembers equalAll)
            rw [Bool.eq_false_iff.mpr different, Bool.eq_false_iff.mpr unequal]
      | _ => cases ignoreCase <;> simp [agrees, equal, norm, foldCase]
termination_by structural expected

theorem agreesItems_eq_equalItems (ignoreCase : Bool) (expected actual : List Json)
    (expectedOrdered : OrderedItems expected) (actualOrdered : OrderedItems actual) :
    (expected.length == actual.length && agreesItems ignoreCase expected actual) =
      equalItems (expected.map (norm ignoreCase)) (actual.map (norm ignoreCase)) := by
  cases expected with
  | nil => cases actual <;> simp [agreesItems, equalItems]
  | cons item rest =>
      cases actual with
      | nil => simp [equalItems]
      | cons other otherRest =>
          have first :=
            agrees_eq_equal_norm ignoreCase item other expectedOrdered.1 actualOrdered.1
          have behind := agreesItems_eq_equalItems ignoreCase rest otherRest expectedOrdered.2
            actualOrdered.2
          rw [List.map_cons, List.map_cons, equalItems, ← first, ← behind, agreesItems,
            Bool.and_left_comm]
          simp
termination_by structural expected

/-- Members with the keys of members of an object agree with it if they equal those members. -/
theorem agreesMembers_eq_equalMembers (ignoreCase : Bool)
    (expected actual whole : List (String × Json))
    (ascending : whole.Pairwise fun first second => first.1 < second.1) (subset : actual ⊆ whole)
    (keysEq : expected.map Prod.fst = actual.map Prod.fst)
    (expectedOrdered : OrderedMembers expected) (actualOrdered : OrderedMembers actual) :
    agreesMembers ignoreCase expected whole =
      equalMembers (expected.map fun member => (member.1, norm ignoreCase member.2))
        (actual.map fun member => (member.1, norm ignoreCase member.2)) := by
  cases expected with
  | nil =>
      obtain rfl := List.map_eq_nil_iff.mp keysEq.symm
      simp [agreesMembers, equalMembers]
  | cons member rest =>
      cases actual with
      | nil => cases keysEq
      | cons other otherRest =>
          rcases member with ⟨key, value⟩
          rcases other with ⟨otherKey, otherValue⟩
          obtain ⟨rfl, restKeys⟩ := List.cons.inj keysEq
          have found : whole.lookup key = some otherValue :=
            NameMap.lookup_eq_some_of_mem ascending (subset List.mem_cons_self)
          have first :=
            agrees_eq_equal_norm ignoreCase value otherValue expectedOrdered.1 actualOrdered.1
          have behind := agreesMembers_eq_equalMembers ignoreCase rest otherRest whole ascending
            (List.subset_of_cons_subset subset) restKeys expectedOrdered.2 actualOrdered.2
          simp only [agreesMembers, found, List.map_cons, equalMembers, BEq.rfl, Bool.true_and,
            first, behind]
termination_by structural expected

end

end Json

end Understudy
