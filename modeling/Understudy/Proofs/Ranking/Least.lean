import Understudy.Proofs.Score.Equality
import Understudy.Ranking

/-!
# Least candidates

The orders of candidates as lexicographic keys, and the head of a stable sort as the least key.
A key lists what an order looks at in its order of importance; `OrderDual` marks what descends,
and an absent probability is the top.  Stability makes the position in the given list the last
component, so that the head of the sorted list is one element and not only one up to ties.
-/

namespace Understudy

open OrderDual

/-! ## The head of a stable sort -/

section StableHead

variable {α κ : Type*} [LinearOrder κ]

/-- Comparison by a key, as a sort takes it. -/
def precedesBy (key : α → κ) (first second : α) : Bool :=
  decide (key first ≤ key second)

theorem precedesBy_trans (key : α → κ) (first second third : α)
    (left : precedesBy key first second) (right : precedesBy key second third) :
    precedesBy key first third := by
  simp only [precedesBy, decide_eq_true_eq] at left right ⊢
  exact left.trans right

theorem precedesBy_total (key : α → κ) (first second : α) :
    precedesBy key first second || precedesBy key second first := by
  simp only [precedesBy, Bool.or_eq_true, decide_eq_true_eq]
  exact le_total _ _

/-- The head of a stable sort precedes every element of the list. -/
theorem key_head_le {key : α → κ} {items : List α} {head : α} {rest : List α}
    (sorted : items.mergeSort (precedesBy key) = head :: rest) {item : α}
    (member : item ∈ items) : key head ≤ key item := by
  have ordered := List.pairwise_mergeSort (precedesBy_trans key) (precedesBy_total key) items
  rw [sorted, List.pairwise_cons] at ordered
  have inSorted : item ∈ head :: rest := by
    rw [← sorted]
    exact List.mem_mergeSort.mpr member
  rcases List.mem_cons.mp inSorted with equal | inRest
  · rw [equal]
  · simpa [precedesBy] using ordered.1 item inRest

/-- The head of a stable sort of items at ascending positions has the least key, and among those
of that key the first position. -/
theorem exists_position_of_head?_mergeSort {key : α → κ} {items : List (α × Nat)}
    (ascending : items.Pairwise fun first second => first.2 < second.2) {head : α}
    (isHead : ((items.map Prod.fst).mergeSort (precedesBy key)).head? = some head) :
    ∃ position, (head, position) ∈ items ∧
      ∀ entry ∈ items, toLex (key head, position) ≤ toLex (key entry.1, entry.2) := by
  induction items with
  | nil => simp at isHead
  | cons entry rest inductionHypothesis =>
      rcases entry with ⟨first, place⟩
      obtain ⟨later, ascendingRest⟩ := List.pairwise_cons.mp ascending
      obtain ⟨front, back, sorted, sortedRest, before⟩ :=
        List.mergeSort_cons (precedesBy_trans key) (precedesBy_total key) first
          (rest.map Prod.fst)
      rw [List.map_cons] at isHead
      cases front with
      | nil =>
          -- no later item strictly precedes the first one
          have headEq : first = head := by simpa [sorted] using isHead
          subst headEq
          refine ⟨place, List.mem_cons_self, ?_⟩
          intro other member
          rw [Prod.Lex.toLex_le_toLex]
          rcases List.mem_cons.mp member with rfl | inRest
          · exact .inr ⟨rfl, le_rfl⟩
          · have keyLe := key_head_le sorted (List.mem_cons_of_mem _ (List.mem_map_of_mem inRest))
            rcases keyLe.lt_or_eq with less | equal
            · exact .inl less
            · exact .inr ⟨equal, (later other inRest).le⟩
      | cons least front =>
          -- a later item strictly precedes the first one, so the rest decides
          have headEq : least = head := by simpa [sorted] using isHead
          subst headEq
          have strict : key least < key first := by
            simpa [precedesBy] using before least List.mem_cons_self
          obtain ⟨position, member, smallest⟩ :=
            inductionHypothesis ascendingRest (by simp [sortedRest])
          refine ⟨position, List.mem_cons_of_mem _ member, ?_⟩
          intro other otherMember
          rcases List.mem_cons.mp otherMember with rfl | inRest
          · exact Prod.Lex.toLex_le_toLex.mpr (.inl strict)
          · exact smallest other inRest

/-- The head of a stable sort is exactly the item whose key and position are least. -/
theorem head?_mergeSort_eq_some_iff {key : α → κ} {items : List (α × Nat)}
    (ascending : items.Pairwise fun first second => first.2 < second.2) {winner : α} :
    ((items.map Prod.fst).mergeSort (precedesBy key)).head? = some winner ↔
      ∃ position, (winner, position) ∈ items ∧
        ∀ entry ∈ items, toLex (key winner, position) ≤ toLex (key entry.1, entry.2) := by
  constructor
  · exact exists_position_of_head?_mergeSort ascending
  · rintro ⟨position, member, smallest⟩
    cases sorted : (items.map Prod.fst).mergeSort (precedesBy key) with
    | nil =>
        have length := congrArg List.length sorted
        simp only [List.length_mergeSort, List.length_map, List.length_nil] at length
        rw [List.length_eq_zero_iff] at length
        simp [length] at member
    | cons head rest =>
        have isHead : ((items.map Prod.fst).mergeSort (precedesBy key)).head? = some head := by
          rw [sorted, List.head?_cons]
        obtain ⟨headPosition, headMember, headSmallest⟩ :=
          exists_position_of_head?_mergeSort ascending isHead
        have equal := le_antisymm (headSmallest _ member) (smallest _ headMember)
        have positionEq : headPosition = position :=
          congrArg (fun entry => (ofLex entry).2) equal
        have distinct : (items.map Prod.snd).Nodup := by
          rw [List.Nodup, List.pairwise_map]
          exact ascending.imp fun less => less.ne
        have entryEq : (head, headPosition) = (winner, position) :=
          List.inj_on_of_nodup_map distinct headMember member positionEq
        rw [List.head?_cons, (Prod.mk.inj entryEq).1]

end StableHead

/-! ## Orders by a key -/

/-- An order of values is the order of a key. -/
structure OrdersBy {α κ : Type*} [LT κ] (order : α → α → Ordering) (key : α → κ) : Prop where
  lt_iff : ∀ first second, order first second = .lt ↔ key first < key second
  eq_iff : ∀ first second, order first second = .eq ↔ key first = key second

namespace OrdersBy

variable {α : Type*}

theorem isLE_iff {κ : Type*} [PartialOrder κ] {order : α → α → Ordering} {key : α → κ}
    (orders : OrdersBy order key) (first second : α) :
    (order first second).isLE ↔ key first ≤ key second := by
  rw [Ordering.isLE_iff_eq_lt_or_eq_eq, orders.lt_iff, orders.eq_iff, le_iff_lt_or_eq]

theorem isLE_eq_precedesBy {κ : Type*} [LinearOrder κ] {order : α → α → Ordering} {key : α → κ}
    (orders : OrdersBy order key) :
    (fun first second => (order first second).isLE) = precedesBy key := by
  funext first second
  rw [Bool.eq_iff_iff, orders.isLE_iff, precedesBy, decide_eq_true_eq]

theorem natural (value : α → Nat) : OrdersBy (compareOn value) value where
  lt_iff _ _ := Nat.compare_eq_lt
  eq_iff _ _ := Nat.compare_eq_eq

/-- Between linear orders it is enough that the lesser of two values has the lesser key. -/
theorem of_lt_iff {κ : Type*} [LinearOrder κ] {value : α → Int} {key : α → κ}
    (ltIff : ∀ first second, value first < value second ↔ key first < key second) :
    OrdersBy (compareOn value) key where
  lt_iff first second := Int.compare_eq_lt.trans (ltIff first second)
  eq_iff first second := by
    rw [compareOn, Int.compare_eq_eq, le_antisymm_iff, le_antisymm_iff, ← not_lt, ← not_lt,
      ltIff, ltIff, not_lt, not_lt]

theorem integer (value : α → Int) : OrdersBy (compareOn value) value :=
  of_lt_iff fun _ _ => Iff.rfl

/-- Comparison of the negated value orders from high to low. -/
theorem descending (value : α → Int) :
    OrdersBy (compareOn fun item => -value item) fun item => toDual (value item) :=
  of_lt_iff fun first second => by
    rw [toDual_lt_toDual]
    exact Int.neg_lt_neg_iff

/-- A second order behind a first one is the lexicographic order of both keys. -/
theorem lexicographic {κ ρ : Type*} [Preorder κ] [Preorder ρ]
    {primary secondary : α → α → Ordering} {key : α → κ} {restKey : α → ρ}
    (orders : OrdersBy primary key) (rest : OrdersBy secondary restKey) :
    OrdersBy (compareLex primary secondary) fun item => toLex (key item, restKey item) where
  lt_iff first second := by
    rw [Prod.Lex.toLex_lt_toLex, ← orders.lt_iff, ← orders.eq_iff, ← rest.lt_iff, compareLex,
      Ordering.then_eq_lt]
  eq_iff first second := by
    rw [toLex_inj, Prod.mk.injEq, ← orders.eq_iff, ← rest.eq_iff, compareLex,
      Ordering.then_eq_eq]

end OrdersBy

theorem compareLex_assoc {α : Type*} (primary secondary tertiary : α → α → Ordering) :
    compareLex (compareLex primary secondary) tertiary =
      compareLex primary (compareLex secondary tertiary) := by
  funext first second
  exact Ordering.then_assoc _ _ _

/-- A comparison that was made before decides nothing more. -/
theorem compareLex_self_compareLex {α : Type*} (primary secondary : α → α → Ordering) :
    compareLex primary (compareLex primary secondary) = compareLex primary secondary := by
  funext first second
  rw [compareLex, compareLex]
  cases primary first second <;> rfl

/-! ## The keys of candidates -/

theorem Instant.place_injective : Function.Injective Instant.place := by
  rintro ⟨second, fraction, _, _, bound⟩ ⟨otherSecond, otherFraction, _, _, otherBound⟩ same
  simp only [place] at same
  obtain rfl : second = otherSecond := by omega
  obtain rfl : fraction = otherFraction := by omega
  rfl

namespace Candidate

/-- The probability from high to low, and an absent one behind all others. -/
def probabilityKey (candidate : Candidate) : WithTop ℤᵒᵈ :=
  match candidate.mapping.probability with
  | some probability => (toDual (Score.place probability) : ℤᵒᵈ)
  | none => ⊤

/-- What perfect matches are ranked by: priority, average score from high to low, number of
conditions, probability from high to low, and last update from late to early. -/
def perfectKey (candidate : Candidate) : ℤ ×ₗ ℤᵒᵈ ×ₗ ℕ ×ₗ WithTop ℤᵒᵈ ×ₗ ℤᵒᵈ :=
  toLex (candidate.mapping.priority,
    toLex (toDual (Score.place candidate.result.average),
      toLex (candidate.result.count,
        toLex (candidate.probabilityKey,
          toDual candidate.mapping.updatedAt.place))))

/-- What the closest matches are ranked by: average score from high to low, number of conditions,
priority, probability from high to low, and last update from late to early. -/
def closestKey (candidate : Candidate) : ℤᵒᵈ ×ₗ ℕ ×ₗ ℤ ×ₗ WithTop ℤᵒᵈ ×ₗ ℤᵒᵈ :=
  toLex (toDual (Score.place candidate.result.average),
    toLex (candidate.result.count,
      toLex (candidate.mapping.priority,
        toLex (candidate.probabilityKey,
          toDual candidate.mapping.updatedAt.place))))

theorem ordersBy_probabilityKey : OrdersBy (compareOn probabilityPlace) probabilityKey := by
  have placeBound := Score.place_ge
  refine .of_lt_iff fun first second => ?_
  rw [probabilityPlace, probabilityPlace, probabilityKey, probabilityKey]
  cases first.mapping.probability with
  | none =>
      cases second.mapping.probability with
      | none => simp
      | some probability =>
          have := placeBound probability
          simp only [not_top_lt, iff_false]
          omega
  | some probability =>
      cases second.mapping.probability with
      | none =>
          have := placeBound probability
          simp only [WithTop.coe_lt_top, iff_true]
          omega
      | some other =>
          rw [WithTop.coe_lt_coe, toDual_lt_toDual]
          exact Int.neg_lt_neg_iff

theorem ordersBy_tailOrder : OrdersBy tailOrder fun candidate =>
    toLex (candidate.probabilityKey, toDual candidate.mapping.updatedAt.place) :=
  ordersBy_probabilityKey.lexicographic
    (OrdersBy.descending fun candidate : Candidate => candidate.mapping.updatedAt.place)

/-- The quality ends with the number of conditions, so that this is compared in vain behind it. -/
theorem compareLex_rank_compareLex_count (order : Candidate → Candidate → Ordering) :
    compareLex (fun first second => MatchResult.rank first.result second.result)
        (compareLex (compareOn fun candidate => candidate.result.count) order) =
      compareLex (fun first second => MatchResult.rank first.result second.result) order := by
  change compareLex (compareLex _ (compareOn fun candidate : Candidate => candidate.result.count))
      _ = compareLex (compareLex _ (compareOn fun candidate : Candidate => candidate.result.count)) _
  rw [compareLex_assoc, compareLex_self_compareLex, compareLex_assoc]

theorem closestOrder_eq : closestOrder =
    compareLex (fun first second => MatchResult.rank first.result second.result)
      (compareLex (compareOn fun candidate => candidate.mapping.priority) tailOrder) :=
  compareLex_rank_compareLex_count _

theorem perfectOrder_eq : perfectOrder =
    compareLex (compareOn fun candidate => candidate.mapping.priority)
      (compareLex (fun first second => MatchResult.rank first.result second.result) tailOrder) := by
  rw [perfectOrder, compareLex_rank_compareLex_count]

theorem ordersBy_closestKey : OrdersBy closestOrder closestKey := by
  have behindCount :=
    (OrdersBy.natural fun candidate : Candidate => candidate.result.count).lexicographic
      ((OrdersBy.integer fun candidate => candidate.mapping.priority).lexicographic
        ordersBy_tailOrder)
  have orders := (OrdersBy.descending fun candidate =>
    Score.place candidate.result.average).lexicographic behindCount
  rw [← compareLex_assoc] at orders
  rw [closestOrder_eq]
  exact orders

theorem ordersBy_perfectKey : OrdersBy perfectOrder perfectKey := by
  have behindAverage := (OrdersBy.descending fun candidate =>
    Score.place candidate.result.average).lexicographic
      ((OrdersBy.natural fun candidate => candidate.result.count).lexicographic ordersBy_tailOrder)
  rw [← compareLex_assoc] at behindAverage
  rw [perfectOrder_eq]
  exact (OrdersBy.integer fun candidate => candidate.mapping.priority).lexicographic behindAverage

end Candidate

/-! ## The first ranked candidate -/

/-- The first of sorted candidates at ascending positions is the one whose key and position are
least among those that pass a test. -/
theorem head?_sortCandidates_filter_eq_some_iff {κ : Type*} [LinearOrder κ]
    {order : Candidate → Candidate → Ordering} {key : Candidate → κ}
    (orders : OrdersBy order key) (test : Candidate → Bool) {placed : List (Candidate × Nat)}
    (ascending : placed.Pairwise fun first second => first.2 < second.2) {winner : Candidate} :
    (sortCandidates order ((placed.map Prod.fst).filter test)).head? = some winner ↔
      ∃ position, (winner, position) ∈ placed ∧ test winner ∧
        ∀ entry ∈ placed, test entry.1 →
          toLex (key winner, position) ≤ toLex (key entry.1, entry.2) := by
  have filtered : (placed.map Prod.fst).filter test =
      (placed.filter fun entry => test entry.1).map Prod.fst := by
    rw [List.filter_map]
    rfl
  rw [sortCandidates, orders.isLE_eq_precedesBy, filtered,
    head?_mergeSort_eq_some_iff (ascending.filter _)]
  simp only [List.mem_filter, and_assoc, and_imp]

end Understudy
