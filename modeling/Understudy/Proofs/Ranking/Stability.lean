import Understudy.Proofs.Ranking.Least

/-!
# Stable sorts

What it means that a list is another one sorted by a key: the same items in the order of their
keys, and those of one key as they were given.  The merge sort is such a list and the only one.
A key counts only by how it compares the items.
-/

namespace Understudy

variable {α κ ρ : Type*} [LinearOrder κ] [LinearOrder ρ]

/-- A list is another one sorted by a key, with the items of one key in the given order. -/
structure StablySorts (key : α → κ) (items sorted : List α) : Prop where
  perm : sorted.Perm items
  ascending : sorted.Pairwise fun first second => key first ≤ key second
  /-- The items of one key are listed as they were given. -/
  stable : ∀ value, sorted.filter (fun item => key item = value) =
    items.filter fun item => key item = value

theorem stablySorts_mergeSort (key : α → κ) (items : List α) :
    StablySorts key items (items.mergeSort (precedesBy key)) where
  perm := List.mergeSort_perm items _
  ascending :=
    (List.pairwise_mergeSort (precedesBy_trans key) (precedesBy_total key) items).imp
      of_decide_eq_true
  stable value := by
    have ordered : (items.filter fun item => key item = value).Pairwise fun first second =>
        precedesBy key first second = true := by
      rw [List.pairwise_filter]
      refine List.pairwise_of_forall fun first second firstKey secondKey => ?_
      rw [decide_eq_true_eq] at firstKey secondKey
      exact decide_eq_true (firstKey.trans secondKey.symm).le
    -- items that stand in order already are not moved past each other
    have listed := List.sublist_mergeSort (precedesBy_trans key) (precedesBy_total key) ordered
      List.filter_sublist
    have sublist := listed.filter fun item => key item = value
    rw [List.filter_filter] at sublist
    simp only [Bool.and_self] at sublist
    have length := ((List.mergeSort_perm items (precedesBy key)).filter fun item =>
      key item = value).length_eq
    exact (sublist.eq_of_length length.symm).symm

theorem mem_iff_of_filter_eq {key : α → κ} {sorted other : List α}
    (same : ∀ value, sorted.filter (fun item => key item = value) =
      other.filter fun item => key item = value) (item : α) : item ∈ sorted ↔ item ∈ other := by
  have both := congrArg (item ∈ ·) (same (key item))
  simpa [List.mem_filter] using both

/-- Ascending lists that list the same items for every key are equal. -/
theorem eq_of_ascending_of_filter_eq {key : α → κ} {sorted other : List α}
    (ascending : sorted.Pairwise fun first second => key first ≤ key second)
    (otherAscending : other.Pairwise fun first second => key first ≤ key second)
    (same : ∀ value, sorted.filter (fun item => key item = value) =
      other.filter fun item => key item = value) : sorted = other := by
  induction sorted generalizing other with
  | nil =>
      cases other with
      | nil => rfl
      | cons first rest =>
          exact absurd ((mem_iff_of_filter_eq same first).mpr List.mem_cons_self)
            List.not_mem_nil
  | cons first rest inductionHypothesis =>
      cases other with
      | nil =>
          exact absurd ((mem_iff_of_filter_eq same first).mp List.mem_cons_self)
            List.not_mem_nil
      | cons otherFirst otherRest =>
          obtain ⟨later, ascendingRest⟩ := List.pairwise_cons.mp ascending
          obtain ⟨otherLater, otherAscendingRest⟩ := List.pairwise_cons.mp otherAscending
          have least : ∀ item ∈ first :: rest, key first ≤ key item :=
            List.forall_mem_cons.mpr ⟨le_rfl, later⟩
          have otherLeast : ∀ item ∈ otherFirst :: otherRest, key otherFirst ≤ key item :=
            List.forall_mem_cons.mpr ⟨le_rfl, otherLater⟩
          have keyEq : key otherFirst = key first :=
            le_antisymm (otherLeast first ((mem_iff_of_filter_eq same first).mp List.mem_cons_self))
              (least otherFirst ((mem_iff_of_filter_eq same otherFirst).mpr List.mem_cons_self))
          -- both heads are the first items of their common key
          have heads := same (key first)
          simp only [List.filter_cons, keyEq, decide_true, if_true, List.cons.injEq] at heads
          obtain ⟨rfl, -⟩ := heads
          refine congrArg (first :: ·)
            (inductionHypothesis ascendingRest otherAscendingRest fun value => ?_)
          have both := same value
          rw [List.filter_cons, List.filter_cons] at both
          split at both
          · exact (List.cons.inj both).2
          · exact both

theorem StablySorts.unique {key : α → κ} {items sorted other : List α}
    (sorts : StablySorts key items sorted) (otherSorts : StablySorts key items other) :
    sorted = other :=
  eq_of_ascending_of_filter_eq sorts.ascending otherSorts.ascending fun value =>
    (sorts.stable value).trans (otherSorts.stable value).symm

/-- A key that compares the items in the same way sorts them in the same way. -/
theorem StablySorts.of_le_iff {key : α → κ} {other : α → ρ} {items sorted : List α}
    (sorts : StablySorts key items sorted)
    (alike : ∀ first ∈ items, ∀ second ∈ items,
      key first ≤ key second ↔ other first ≤ other second) :
    StablySorts other items sorted where
  perm := sorts.perm
  ascending := sorts.ascending.imp_of_mem fun firstMember secondMember =>
    (alike _ (sorts.perm.subset firstMember) _ (sorts.perm.subset secondMember)).mp
  stable value := by
    by_cases taken : ∃ item ∈ items, other item = value
    · obtain ⟨item, member, rfl⟩ := taken
      have sameTest : ∀ candidate ∈ items,
          decide (other candidate = other item) = decide (key candidate = key item) := by
        intro candidate candidateMember
        rw [decide_eq_decide, le_antisymm_iff, le_antisymm_iff,
          alike candidate candidateMember item member, alike item member candidate candidateMember]
      rw [List.filter_congr sameTest, ← sorts.stable,
        List.filter_congr fun candidate candidateMember =>
          sameTest candidate (sorts.perm.subset candidateMember)]
    · have never : ∀ list : List α, list ⊆ items →
          list.filter (fun item => other item = value) = [] := by
        intro list sublist
        rw [List.filter_eq_nil_iff]
        intro item member equal
        exact taken ⟨item, sublist member, of_decide_eq_true equal⟩
      rw [never sorted sorts.perm.subset, never items (List.Subset.refl items)]

end Understudy
