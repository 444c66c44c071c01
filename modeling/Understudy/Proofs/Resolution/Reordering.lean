import Understudy.Proofs.Resolution.Irrelevance

/-!
# Registries in another order

What a resolution makes of the same mappings in another order.  Where no draw is made the
candidates are the same ones, so that both rankings list the same keys.  Only candidates that
agree in everything the rankings look at can take each other's place.
-/

namespace Understudy

/-! ## Candidates that rank alike -/

/-- Nothing that the rankings look at tells the candidates apart. -/
structure Candidate.RanksAlike (first second : Candidate) : Prop where
  priority : first.mapping.priority = second.mapping.priority
  average : first.result.average = second.result.average
  count : first.result.count = second.result.count
  probability : first.mapping.probability = second.mapping.probability
  updatedAt : first.mapping.updatedAt = second.mapping.updatedAt

namespace Candidate

theorem probabilityKey_eq_iff {first second : Candidate} :
    first.probabilityKey = second.probabilityKey ↔
      first.mapping.probability = second.mapping.probability := by
  unfold probabilityKey
  cases first.mapping.probability with
  | none => cases second.mapping.probability <;> simp
  | some probability =>
      cases second.mapping.probability with
      | none => simp
      | some other =>
          rw [WithTop.coe_inj, OrderDual.toDual_inj, Score.place_injective.eq_iff,
            Option.some_inj]

theorem perfectKey_eq_iff {first second : Candidate} :
    first.perfectKey = second.perfectKey ↔ first.RanksAlike second := by
  simp only [perfectKey, toLex_inj, Prod.mk.injEq, OrderDual.toDual_inj,
    Score.place_injective.eq_iff, probabilityKey_eq_iff, Instant.place_injective.eq_iff]
  constructor
  · rintro ⟨priority, average, count, probability, updatedAt⟩
    exact ⟨priority, average, count, probability, updatedAt⟩
  · rintro ⟨priority, average, count, probability, updatedAt⟩
    exact ⟨priority, average, count, probability, updatedAt⟩

/-- Both rankings look at the same things. -/
theorem closestKey_eq_iff {first second : Candidate} :
    first.closestKey = second.closestKey ↔ first.RanksAlike second := by
  simp only [closestKey, toLex_inj, Prod.mk.injEq, OrderDual.toDual_inj,
    Score.place_injective.eq_iff, probabilityKey_eq_iff, Instant.place_injective.eq_iff]
  constructor
  · rintro ⟨average, count, priority, probability, updatedAt⟩
    exact ⟨priority, average, count, probability, updatedAt⟩
  · rintro ⟨priority, average, count, probability, updatedAt⟩
    exact ⟨average, count, priority, probability, updatedAt⟩

/-- A candidate that can be the answer: in the permissive mode one that can be the closest match,
in the strict mode a perfect one. -/
def CanAnswer (settings : MatchingSettings) (candidate : Candidate) : Prop :=
  if settings.allowPartial then candidate.CanBeClosest else candidate.result.isPerfect

end Candidate

/-! ## Reordered candidates -/

/-- Sorts of the same items list the same keys. -/
theorem map_key_mergeSort_of_perm {α κ : Type*} [LinearOrder κ] (key : α → κ)
    {items others : List α} (reordered : items.Perm others) :
    (items.mergeSort (precedesBy key)).map key = (others.mergeSort (precedesBy key)).map key := by
  have ascending : ∀ list : List α,
      ((list.mergeSort (precedesBy key)).map key).Pairwise (· ≤ ·) := by
    intro list
    rw [List.pairwise_map]
    exact (List.pairwise_mergeSort (precedesBy_trans key) (precedesBy_total key) list).imp
      of_decide_eq_true
  have sameItems : (items.mergeSort (precedesBy key)).Perm (others.mergeSort (precedesBy key)) :=
    (List.mergeSort_perm _ _).trans (reordered.trans (List.mergeSort_perm _ _).symm)
  exact (sameItems.map key).eq_of_pairwise (fun _ _ _ _ => le_antisymm) (ascending items)
    (ascending others)

section

variable {now : Instant} {mappings : List Mapping}

theorem sampleOne_fst_of_no_draw {mapping : Mapping} (noDraw : mapping.takesDraw now = false)
    (draws : Draws) :
    (sampleOne now mapping draws).1 =
      (mapping.isTimeValid now && mapping.probability.isNone) := by
  unfold Mapping.takesDraw at noDraw
  unfold sampleOne
  cases valid : mapping.isTimeValid now with
  | false => rfl
  | true =>
      cases present : mapping.probability with
      | none => rfl
      | some probability =>
          rw [valid, present] at noDraw
          have never : probability ≤ 0 := by simpa using noDraw
          simp [never]

/-- Without draws the mappings that take part are those in their window without a probability. -/
theorem sample_of_no_draw (noDraw : ∀ mapping ∈ mappings, mapping.takesDraw now = false)
    (draws : Draws) :
    sample now mappings draws =
      (mappings.filter fun mapping => mapping.isTimeValid now && mapping.probability.isNone,
        draws) := by
  induction mappings with
  | nil => rfl
  | cons mapping rest inductionHypothesis =>
      obtain ⟨headNoDraw, restNoDraw⟩ := List.forall_mem_cons.mp noDraw
      simp only [sample, sampleOne_fst_of_no_draw headNoDraw, sampleOne_snd_of_no_draw headNoDraw,
        inductionHypothesis restNoDraw, List.filter_cons]

theorem candidates_perm (store : ScenarioStore) (request : Request) (draws : Draws)
    {reordered : List Mapping} (perm : mappings.Perm reordered)
    (noDraw : ∀ mapping ∈ mappings, mapping.takesDraw now = false) :
    ((sample now mappings draws).1.filterMap (candidate? store request)).Perm
      ((sample now reordered draws).1.filterMap (candidate? store request)) := by
  have noDrawReordered : ∀ mapping ∈ reordered, mapping.takesDraw now = false :=
    fun mapping member => noDraw mapping (perm.mem_iff.mpr member)
  rw [sample_of_no_draw noDraw, sample_of_no_draw noDrawReordered]
  exact (perm.filter _).filterMap _

end

theorem eq_of_rel {α : Type*} {related : α → α → Prop} {first second : Option α}
    (rel : Option.Rel related first second)
    (same : ∀ value other, first = some value → second = some other → related value other →
      value = other) : first = second := by
  cases rel with
  | none => rfl
  | some both => rw [same _ _ rfl rfl both]

section

variable {κ : Type*} [LinearOrder κ] {order : Candidate → Candidate → Ordering}
variable {key : Candidate → κ} {candidates reordered : List Candidate}

/-- The first ranked candidates rank alike. -/
theorem ranksAlike_head?_sortCandidates (orders : OrdersBy order key)
    (keyEqIff : ∀ first second, key first = key second ↔ first.RanksAlike second)
    (test : Candidate → Bool) (perm : candidates.Perm reordered) :
    Option.Rel Candidate.RanksAlike (sortCandidates order (candidates.filter test)).head?
      (sortCandidates order (reordered.filter test)).head? := by
  have keys := map_key_mergeSort_of_perm key (perm.filter test)
  rw [sortCandidates, sortCandidates, orders.isLE_eq_precedesBy]
  have headKeys := congrArg List.head? keys
  rw [List.head?_map, List.head?_map] at headKeys
  cases first : ((candidates.filter test).mergeSort (precedesBy key)).head? with
  | none =>
      rw [first, Option.map_none, eq_comm, Option.map_eq_none_iff] at headKeys
      rw [headKeys]
      exact .none
  | some winner =>
      rw [first, Option.map_some, eq_comm, Option.map_eq_some_iff] at headKeys
      obtain ⟨other, found, keyEq⟩ := headKeys
      rw [found]
      exact .some ((keyEqIff winner other).mp keyEq.symm)

end

/-! ## Reordered registries -/

/-- Contenders among those admitted that rank alike are the same candidate. -/
def RankedApart (store : ScenarioStore) (draws : Draws) (request : Request) (now : Instant)
    (mappings : List Mapping) (admits : Candidate → Prop) : Prop :=
  ∀ position candidate otherPosition other,
    Contends store draws request now mappings position candidate → admits candidate →
      Contends store draws request now mappings otherPosition other → admits other →
        candidate.RanksAlike other → candidate = other

/-- The first ranked of those that pass a test, for the same mappings in two orders. -/
theorem head?_sortCandidates_of_perm {κ : Type*} [LinearOrder κ]
    {order : Candidate → Candidate → Ordering} {key : Candidate → κ} (orders : OrdersBy order key)
    (keyEqIff : ∀ first second, key first = key second ↔ first.RanksAlike second)
    (test : Candidate → Bool) {admits : Candidate → Prop}
    (tests : ∀ candidate, test candidate ↔ admits candidate) (store : ScenarioStore)
    (draws : Draws) (request : Request) {now : Instant} {mappings reordered : List Mapping}
    (perm : mappings.Perm reordered)
    (noDraw : ∀ mapping ∈ mappings, mapping.takesDraw now = false) :
    let ranking := fun mappings => sortCandidates order
      (((sample now mappings draws).1.filterMap (candidate? store request)).filter test)
    Option.Rel Candidate.RanksAlike (ranking mappings).head? (ranking reordered).head? ∧
      (RankedApart store draws request now mappings admits →
        (ranking mappings).head? = (ranking reordered).head?) := by
  intro ranking
  have candidates := candidates_perm store request draws perm noDraw
  have alike := ranksAlike_head?_sortCandidates orders keyEqIff test candidates
  refine ⟨alike, fun apart => eq_of_rel alike ?_⟩
  intro winner other first second ranksAlike
  have contends := mem_sortCandidates_iff order tests store draws request now mappings
  obtain ⟨position, placed, admitted⟩ := (contends winner).mp (List.mem_of_mem_head? first)
  -- the other one contends in the first order as well
  have otherMember := List.mem_mergeSort.mp (List.mem_of_mem_head? second)
  have otherBefore := (candidates.filter test).mem_iff.mpr otherMember
  obtain ⟨otherPosition, otherPlaced, otherAdmitted⟩ :=
    (contends other).mp (List.mem_mergeSort.mpr otherBefore)
  exact apart position winner otherPosition other placed admitted otherPlaced otherAdmitted
    ranksAlike

/-- A registry in another order, of mappings for which no draw is made, gives an answer and a
closest match that rank like those of the first order.  They are the same ones if no two
different contenders for them rank alike. -/
theorem reordered_registry_answers_alike (settings : MatchingSettings) (store : ScenarioStore)
    (draws : Draws) (request : Request) (now : Instant) {mappings reordered : List Mapping}
    (perm : mappings.Perm reordered)
    (noDraw : ∀ mapping ∈ mappings, mapping.takesDraw now = false) :
    let first := resolveAt settings ⟨mappings⟩ store draws request now
    let second := resolveAt settings ⟨reordered⟩ store draws request now
    Option.Rel Candidate.RanksAlike first.resolution.matched second.resolution.matched ∧
      Option.Rel Candidate.RanksAlike first.resolution.closest second.resolution.closest ∧
      (RankedApart store draws request now mappings (Candidate.CanAnswer settings) →
        first.resolution.matched = second.resolution.matched) ∧
      (RankedApart store draws request now mappings Candidate.CanBeClosest →
        first.resolution.closest = second.resolution.closest) ∧
      first.draws = draws ∧ second.draws = draws := by
  intro first second
  have noDrawReordered : ∀ mapping ∈ reordered, mapping.takesDraw now = false :=
    fun mapping member => noDraw mapping (perm.mem_iff.mpr member)
  have closest := head?_sortCandidates_of_perm Candidate.ordersBy_closestKey
    (fun _ _ => Candidate.closestKey_eq_iff) Candidate.canBeClosest Candidate.canBeClosest_iff
    store draws request perm noDraw
  have perfect := head?_sortCandidates_of_perm Candidate.ordersBy_perfectKey
    (fun _ _ => Candidate.perfectKey_eq_iff) (fun candidate => candidate.result.isPerfect)
    (fun _ => Iff.rfl) store draws request perm noDraw
  have answer : Option.Rel Candidate.RanksAlike first.resolution.matched
        second.resolution.matched ∧
      (RankedApart store draws request now mappings (Candidate.CanAnswer settings) →
        first.resolution.matched = second.resolution.matched) := by
    unfold Candidate.CanAnswer
    cases mode : settings.allowPartial with
    | false =>
        simp only [first, second, matched_of_strict _ _ _ _ _ mode]
        exact perfect
    | true =>
        simp only [first, second, matched_of_permissive _ _ _ _ _ mode]
        exact closest
  exact ⟨answer.1, closest.1, answer.2, closest.2,
    congrArg Prod.snd (sample_of_no_draw noDraw draws),
    congrArg Prod.snd (sample_of_no_draw noDrawReordered draws)⟩

/-- Two mappings of different priorities are ranked apart, so that the same one answers in both
orders; the other one, which is never sampled, has no part in it. -/
theorem swapped_registry_answers_alike :
    let first := { Mapping.new (.ofNat 1) .empty with probability := some 0 }
    let second := Mapping.new (.ofNat 2) .empty
    let third := { Mapping.new (.ofNat 3) .empty with priority := -1 }
    (([first, second, third].Perm [third, second, first] ∧
        ∀ mapping ∈ [first, second, third], mapping.takesDraw .epoch = false) ∧
      RankedApart .empty default (Request.new "GET" "/") .epoch [first, second, third]
        (Candidate.CanAnswer default)) ∧
      (resolveAt default ⟨[first, second, third]⟩ .empty default (Request.new "GET" "/")
          .epoch).resolution.matched =
        (resolveAt default ⟨[third, second, first]⟩ .empty default (Request.new "GET" "/")
          .epoch).resolution.matched := by
  intro first second third
  have perm : [first, second, third].Perm [third, second, first] :=
    (List.reverse_perm [first, second, third]).symm
  have noDraw : ∀ mapping ∈ [first, second, third], mapping.takesDraw .epoch = false := by
    intro mapping member
    simp only [List.mem_cons, List.not_mem_nil, or_false] at member
    rcases member with rfl | rfl | rfl
    · decide
    · rfl
    · rfl
  have apart : RankedApart .empty default (Request.new "GET" "/") .epoch [first, second, third]
      (Candidate.CanAnswer default) := by
    have contenders : ∀ position candidate, Contends .empty default (Request.new "GET" "/") .epoch
        [first, second, third] position candidate →
          candidate = ⟨second, ⟨[]⟩⟩ ∨ candidate = ⟨third, ⟨[]⟩⟩ := by
      rintro position ⟨owner, result⟩ ⟨registered, _, sampledIn, evaluated⟩
      match position with
      | 0 =>
          obtain rfl : first = owner := Option.some.inj registered
          exact absurd (by decide : (0 : Float) ≤ 0) (sampledIn 0 rfl).1
      | 1 =>
          obtain rfl : second = owner := Option.some.inj registered
          exact .inl (congrArg _ (Except.ok.inj evaluated).symm)
      | 2 =>
          obtain rfl : third = owner := Option.some.inj registered
          exact .inr (congrArg _ (Except.ok.inj evaluated).symm)
      | _ + 3 => cases registered
    intro position candidate otherPosition other contends _ otherContends _ ranksAlike
    rcases contenders position candidate contends with rfl | rfl
    · rcases contenders otherPosition other otherContends with rfl | rfl
      · rfl
      · exact absurd ranksAlike.priority (by decide)
    · rcases contenders otherPosition other otherContends with rfl | rfl
      · exact absurd ranksAlike.priority (by decide)
      · rfl
  exact ⟨⟨⟨perm, noDraw⟩, apart⟩,
    (reordered_registry_answers_alike default .empty default (Request.new "GET" "/") .epoch perm
      noDraw).2.2.1 apart⟩

end Understudy
