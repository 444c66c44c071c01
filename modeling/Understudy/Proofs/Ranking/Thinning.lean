import Understudy.Proofs.Ranking.Least

/-!
# Thinned lists

Lists from which some items are left out.  Maps and filters of a list carry over to its thinned
form, and the head of a stable sort stays the same as long as it is not an item that may be left
out: the positions of the others ascend as before.
-/

namespace Understudy

universe u v

/-- The second list is the first one, possibly without some of the items that may be dropped. -/
inductive Thins {α : Type u} (mayDrop : α → Prop) : List α → List α → Prop where
  | nil : Thins mayDrop [] []
  | keep (item : α) {items kept : List α} :
      Thins mayDrop items kept → Thins mayDrop (item :: items) (item :: kept)
  | drop {item : α} {items kept : List α} :
      mayDrop item → Thins mayDrop items kept → Thins mayDrop (item :: items) kept

namespace Thins

variable {α : Type u} {β : Type v} {mayDrop : α → Prop} {items kept : List α}

/-! ## Ways to thin a list -/

theorem refl (items : List α) : Thins mayDrop items items := by
  induction items with
  | nil => exact .nil
  | cons item rest inductionHypothesis => exact .keep item inductionHypothesis

/-- One item is left out. -/
theorem erase {item : α} (dropped : mayDrop item) (before after : List α) :
    Thins mayDrop (before ++ item :: after) (before ++ after) := by
  induction before with
  | nil => exact .drop dropped (.refl after)
  | cons first rest inductionHypothesis => exact .keep first inductionHypothesis

/-- All items that fail a test are left out. -/
theorem filter_self {test : α → Bool}
    (dropped : ∀ item ∈ items, test item = false → mayDrop item) :
    Thins mayDrop items (items.filter test) := by
  induction items with
  | nil => exact .nil
  | cons item rest inductionHypothesis =>
      have thinned := inductionHypothesis fun other member =>
        dropped other (List.mem_cons_of_mem _ member)
      cases passes : test item with
      | true =>
          rw [List.filter_cons_of_pos passes]
          exact .keep item thinned
      | false =>
          rw [List.filter_cons_of_neg (by rw [passes]; exact Bool.false_ne_true)]
          exact .drop (dropped item List.mem_cons_self passes) thinned

/-! ## What a thinned list keeps -/

theorem sublist (thins : Thins mayDrop items kept) : kept.Sublist items := by
  induction thins with
  | nil => exact .slnil
  | keep item _ inductionHypothesis => exact inductionHypothesis.cons_cons item
  | drop _ _ inductionHypothesis => exact inductionHypothesis.cons _

theorem mem_of_not_mayDrop (thins : Thins mayDrop items kept) {item : α} (member : item ∈ items)
    (remains : ¬mayDrop item) : item ∈ kept := by
  induction thins with
  | nil => exact member
  | keep first _ inductionHypothesis =>
      rcases List.mem_cons.mp member with rfl | inRest
      · exact List.mem_cons_self
      · exact List.mem_cons_of_mem _ (inductionHypothesis inRest)
  | drop dropped _ inductionHypothesis =>
      rcases List.mem_cons.mp member with rfl | inRest
      · exact absurd dropped remains
      · exact inductionHypothesis inRest

theorem filter (thins : Thins mayDrop items kept) (test : α → Bool) :
    Thins mayDrop (items.filter test) (kept.filter test) := by
  induction thins with
  | nil => exact .nil
  | keep item _ inductionHypothesis =>
      by_cases passes : test item = true
      · rw [List.filter_cons_of_pos passes, List.filter_cons_of_pos passes]
        exact .keep item inductionHypothesis
      · rw [List.filter_cons_of_neg passes, List.filter_cons_of_neg passes]
        exact inductionHypothesis
  | @drop item _ _ dropped _ inductionHypothesis =>
      by_cases passes : test item = true
      · rw [List.filter_cons_of_pos passes]
        exact .drop dropped inductionHypothesis
      · rw [List.filter_cons_of_neg passes]
        exact inductionHypothesis

theorem filterMap (thins : Thins mayDrop items kept) {image : α → Option β}
    {mayDropImage : β → Prop}
    (dropped : ∀ item result, mayDrop item → image item = some result → mayDropImage result) :
    Thins mayDropImage (items.filterMap image) (kept.filterMap image) := by
  induction thins with
  | nil => exact .nil
  | keep item _ inductionHypothesis =>
      cases found : image item with
      | none =>
          rw [List.filterMap_cons_none found, List.filterMap_cons_none found]
          exact inductionHypothesis
      | some result =>
          rw [List.filterMap_cons_some found, List.filterMap_cons_some found]
          exact .keep result inductionHypothesis
  | @drop item _ _ itemDropped _ inductionHypothesis =>
      cases found : image item with
      | none =>
          rw [List.filterMap_cons_none found]
          exact inductionHypothesis
      | some result =>
          rw [List.filterMap_cons_some found]
          exact .drop (dropped item result itemDropped found) inductionHypothesis

/-- A thinned form of the images comes from a thinned form of the items. -/
theorem exists_map_eq {image : β → α} {origins : List β}
    (thins : Thins mayDrop (origins.map image) kept) :
    ∃ keptOrigins, Thins (fun origin => mayDrop (image origin)) origins keptOrigins ∧
      keptOrigins.map image = kept := by
  induction origins generalizing kept with
  | nil =>
      cases thins with
      | nil => exact ⟨[], .nil, rfl⟩
  | cons origin rest inductionHypothesis =>
      cases thins with
      | keep _ later =>
          obtain ⟨keptOrigins, thinned, images⟩ := inductionHypothesis later
          exact ⟨origin :: keptOrigins, .keep origin thinned, by rw [List.map_cons, images]⟩
      | drop dropped later =>
          obtain ⟨keptOrigins, thinned, images⟩ := inductionHypothesis later
          exact ⟨keptOrigins, .drop dropped thinned, images⟩

/-! ## The head of a stable sort -/

/-- Leaving out items that are not the head of a stable sort leaves the head as it is. -/
theorem head?_mergeSort_eq {κ : Type*} [LinearOrder κ] {key : α → κ}
    (thins : Thins mayDrop items kept)
    (remains : ∀ head, (items.mergeSort (precedesBy key)).head? = some head → ¬mayDrop head) :
    (kept.mergeSort (precedesBy key)).head? = (items.mergeSort (precedesBy key)).head? := by
  cases isHead : (items.mergeSort (precedesBy key)).head? with
  | none =>
      have sorted := List.head?_eq_none_iff.mp isHead
      have empty : items = [] := by
        rw [← List.length_eq_zero_iff, ← List.length_mergeSort items, sorted, List.length_nil]
      obtain rfl : kept = [] := List.sublist_nil.mp (empty ▸ thins.sublist)
      rw [List.mergeSort_nil, List.head?_nil]
  | some head =>
      -- number the items, so that the kept ones stand at some of the same positions
      have values : items.zipIdx.map Prod.fst = items := List.zipIdx_map_fst 0 items
      have ascending : items.zipIdx.Pairwise fun first second => first.2 < second.2 := by
        have positions := List.pairwise_lt_range' (s := 0) (n := items.length)
        rwa [← List.zipIdx_map_snd, List.pairwise_map] at positions
      have notDropped := remains head isHead
      rw [← values] at thins isHead
      obtain ⟨keptPlaced, placedThins, keptValues⟩ := thins.exists_map_eq
      obtain ⟨position, member, least⟩ := (head?_mergeSort_eq_some_iff ascending).mp isHead
      rw [← keptValues, head?_mergeSort_eq_some_iff (ascending.sublist placedThins.sublist)]
      refine ⟨position, placedThins.mem_of_not_mayDrop member notDropped, ?_⟩
      intro entry entryMember
      exact least entry (placedThins.sublist.subset entryMember)

end Thins

end Understudy
