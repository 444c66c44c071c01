import Understudy.Proofs.Ranking.Stability

/-!
# Lawful comparisons

The comparisons of results and of candidates are total preorders, and what they cannot tell apart
agrees in everything that they look at.  They see a double by its place in the order of all doubles,
which its bits decide, so all of this holds of any patterns of 64 bits, whichever NaN they stand
for.  A ranking lists the candidates that pass its test, none lost and none added, and those that it
cannot tell apart in the order in which they were given.
-/

namespace Understudy

/-! ## Lawful comparisons -/

section

variable {α β κ ρ : Type*}

/-- A comparison is a total preorder in which only items with the same key are equal. -/
structure ComparesLawfully (order : α → α → Ordering) (key : α → κ) : Prop where
  self : ∀ item, order item item = .eq
  swap : ∀ first second, order second first = (order first second).swap
  trans : ∀ first second third,
    (order first second).isLE → (order second third).isLE → (order first third).isLE
  eq_iff : ∀ first second, order first second = .eq ↔ key first = key second

/-- A comparison of what a function makes of the items is as lawful. -/
theorem ComparesLawfully.onFun {order : β → β → Ordering} {key : β → κ}
    (lawful : ComparesLawfully order key) (image : α → β) :
    ComparesLawfully (Function.onFun order image) (key ∘ image) where
  self item := lawful.self (image item)
  swap first second := lawful.swap (image first) (image second)
  trans first second third := lawful.trans (image first) (image second) (image third)
  eq_iff first second := lawful.eq_iff (image first) (image second)

/-- A list is another one sorted by a comparison, with equal items in the given order. -/
structure SortsStablyBy (order : α → α → Ordering) (items sorted : List α) : Prop where
  perm : sorted.Perm items
  ascending : sorted.Pairwise fun first second => (order first second).isLE
  stable : ∀ item, sorted.filter (fun other => order other item = .eq) =
    items.filter fun other => order other item = .eq

namespace OrdersBy

variable [LinearOrder κ] {order : α → α → Ordering} {key : α → κ}

theorem gt_iff (orders : OrdersBy order key) (first second : α) :
    order first second = .gt ↔ key second < key first := by
  rw [← not_le, ← orders.isLE_iff]
  cases order first second <;> simp

/-- The order of a key is lawful, and equality under it is agreement in what the key tells. -/
theorem comparesLawfully (orders : OrdersBy order key) {told : α → ρ}
    (tells : ∀ first second, key first = key second ↔ told first = told second) :
    ComparesLawfully order told where
  self item := (orders.eq_iff item item).mpr rfl
  swap first second := by
    cases compared : order first second with
    | lt => exact (orders.gt_iff second first).mpr ((orders.lt_iff first second).mp compared)
    | eq => exact (orders.eq_iff second first).mpr ((orders.eq_iff first second).mp compared).symm
    | gt => exact (orders.lt_iff second first).mpr ((orders.gt_iff first second).mp compared)
  trans first second third := by
    rw [orders.isLE_iff, orders.isLE_iff, orders.isLE_iff]
    exact le_trans
  eq_iff first second := (orders.eq_iff first second).trans (tells first second)

theorem onFun {order : β → β → Ordering} {key : β → κ} (orders : OrdersBy order key)
    (image : α → β) : OrdersBy (Function.onFun order image) (key ∘ image) where
  lt_iff first second := orders.lt_iff (image first) (image second)
  eq_iff first second := orders.eq_iff (image first) (image second)

/-- The merge sort by the order of a key is stable under the order itself. -/
theorem sortsStablyBy_mergeSort (orders : OrdersBy order key) (items : List α) :
    SortsStablyBy order items
      (items.mergeSort fun first second => (order first second).isLE) := by
  have sorts := stablySorts_mergeSort key items
  rw [orders.isLE_eq_precedesBy]
  exact {
    perm := sorts.perm
    ascending := sorts.ascending.imp (orders.isLE_iff _ _).mpr
    stable := fun item => by simpa only [orders.eq_iff] using sorts.stable (key item) }

end OrdersBy

end

/-! ## What the comparisons look at -/

/-- What a comparison of results looks at: the bits of the mean score, and the number of
conditions. -/
@[ext]
structure Quality where
  average : UInt64
  count : Nat

namespace Quality

/-- The better match comes first: higher average, then fewer conditions. -/
def order : Quality → Quality → Ordering :=
  compareLex (compareOn fun quality => -(Score.placeOfBits quality.average))
    (compareOn fun quality => quality.count)

/-- The key of the comparison. -/
def key (quality : Quality) : ℤᵒᵈ ×ₗ ℕ :=
  toLex (OrderDual.toDual (Score.placeOfBits quality.average), quality.count)

theorem ordersBy_key : OrdersBy order key := by
  have orders := (OrdersBy.descending fun quality : Quality =>
    Score.placeOfBits quality.average).lexicographic
      (OrdersBy.natural fun quality => quality.count)
  exact orders

theorem key_injective : Function.Injective key := by
  rintro ⟨average, count⟩ ⟨otherAverage, otherCount⟩ same
  simpa [key, Score.placeOfBits_injective.eq_iff] using same

theorem comparesLawfully_order : ComparesLawfully order id :=
  ordersBy_key.comparesLawfully fun _ _ => key_injective.eq_iff

end Quality

/-- What the rankings look at in a candidate, with doubles as their bits. -/
@[ext]
structure Standing where
  priority : Int
  quality : Quality
  probability : Option UInt64
  updatedAt : Instant

namespace Standing

/-- The place of a probability, descending, with an absent one behind all others. -/
def placeOfProbability : Option UInt64 → Int
  | some bits => -(Score.placeOfBits bits)
  | none => 0x10000000000000000

theorem placeOfProbability_injective : Function.Injective placeOfProbability := by
  intro first second placeEq
  cases first with
  | none =>
      cases second with
      | none => rfl
      | some other =>
          have bound := Score.placeOfBits_ge other
          simp only [placeOfProbability] at placeEq
          omega
  | some bits =>
      cases second with
      | none =>
          have bound := Score.placeOfBits_ge bits
          simp only [placeOfProbability] at placeEq
          omega
      | some other =>
          exact congrArg some (Score.placeOfBits_injective (Int.neg_inj.mp placeEq))

/-- The order of what decides last: the probability, then the last update. -/
def tailOrder : Standing → Standing → Ordering :=
  compareLex (compareOn fun standing => placeOfProbability standing.probability)
    (compareOn fun standing => -standing.updatedAt.place)

/-- The order in which the closest match comes first. -/
def closestOrder : Standing → Standing → Ordering :=
  compareLex (Function.onFun Quality.order quality) <|
    compareLex (compareOn fun standing => standing.priority) tailOrder

/-- The order in which the best perfect match comes first. -/
def perfectOrder : Standing → Standing → Ordering :=
  compareLex (compareOn fun standing => standing.priority) <|
    compareLex (Function.onFun Quality.order quality) tailOrder

theorem ordersBy_tailOrder : OrdersBy tailOrder fun standing =>
    toLex (placeOfProbability standing.probability,
      OrderDual.toDual standing.updatedAt.place) := by
  have orders := (OrdersBy.integer fun standing : Standing =>
    placeOfProbability standing.probability).lexicographic
      (OrdersBy.descending fun standing => standing.updatedAt.place)
  exact orders

theorem comparesLawfully_closestOrder : ComparesLawfully closestOrder id := by
  have orders := (Quality.ordersBy_key.onFun Standing.quality).lexicographic
    ((OrdersBy.integer fun standing => standing.priority).lexicographic ordersBy_tailOrder)
  -- every part of a standing is told by its own component of the key
  refine orders.comparesLawfully fun first second => ?_
  simp [Quality.key_injective.eq_iff, placeOfProbability_injective.eq_iff,
    Instant.place_injective.eq_iff, Standing.ext_iff, and_left_comm]

theorem comparesLawfully_perfectOrder : ComparesLawfully perfectOrder id := by
  have orders := (OrdersBy.integer fun standing : Standing => standing.priority).lexicographic
    ((Quality.ordersBy_key.onFun Standing.quality).lexicographic ordersBy_tailOrder)
  refine orders.comparesLawfully fun first second => ?_
  simp [Quality.key_injective.eq_iff, placeOfProbability_injective.eq_iff,
    Instant.place_injective.eq_iff, Standing.ext_iff]

end Standing

/-! ## Results and candidates -/

/-- What a comparison of results looks at in a result. -/
def MatchResult.quality (result : MatchResult) : Quality where
  average := result.average.toBits
  count := result.count

theorem MatchResult.rank_eq_onFun : rank = Function.onFun Quality.order quality :=
  rfl

namespace Candidate

/-- What the rankings look at in a candidate. -/
def standing (candidate : Candidate) : Standing where
  priority := candidate.mapping.priority
  quality := candidate.result.quality
  probability := candidate.mapping.probability.map Float.toBits
  updatedAt := candidate.mapping.updatedAt

theorem probabilityPlace_eq (candidate : Candidate) :
    candidate.probabilityPlace = Standing.placeOfProbability candidate.standing.probability := by
  rw [probabilityPlace, standing]
  cases candidate.mapping.probability with
  | none => rfl
  | some probability => rfl

theorem tailOrder_eq_onFun : tailOrder = Function.onFun Standing.tailOrder standing := by
  rw [tailOrder, funext probabilityPlace_eq]
  rfl

theorem closestOrder_eq_onFun :
    closestOrder = Function.onFun Standing.closestOrder standing := by
  rw [closestOrder_eq, tailOrder_eq_onFun]
  rfl

theorem perfectOrder_eq_onFun :
    perfectOrder = Function.onFun Standing.perfectOrder standing := by
  rw [perfectOrder_eq, tailOrder_eq_onFun]
  rfl

end Candidate

/-- The comparisons of results, of closest matches and of perfect matches are total preorders, in
which only what agrees in every key is equal.  They compare the keys alone, and do so as lawfully
where a double is any pattern of bits.  Both rankings list exactly the candidates that pass their
test, in ascending order, and equal ones as they were given. -/
theorem rankings_compare_lawfully_and_sort_stably :
    (ComparesLawfully MatchResult.rank MatchResult.quality ∧
      ComparesLawfully Candidate.closestOrder Candidate.standing ∧
      ComparesLawfully Candidate.perfectOrder Candidate.standing) ∧
    (MatchResult.rank = Function.onFun Quality.order MatchResult.quality ∧
      ComparesLawfully Quality.order id) ∧
    (Candidate.closestOrder = Function.onFun Standing.closestOrder Candidate.standing ∧
      ComparesLawfully Standing.closestOrder id) ∧
    (Candidate.perfectOrder = Function.onFun Standing.perfectOrder Candidate.standing ∧
      ComparesLawfully Standing.perfectOrder id) ∧
    ∀ candidates : List Candidate,
      SortsStablyBy Candidate.closestOrder (candidates.filter Candidate.canBeClosest)
          (rankClosest candidates) ∧
        SortsStablyBy Candidate.perfectOrder
          (candidates.filter fun candidate => candidate.result.isPerfect)
          (rankPerfect candidates) := by
  have rank := Quality.comparesLawfully_order
  have closest := Standing.comparesLawfully_closestOrder
  have perfect := Standing.comparesLawfully_perfectOrder
  refine ⟨⟨?rank, ?closest, ?perfect⟩, ⟨MatchResult.rank_eq_onFun, rank⟩,
    ⟨Candidate.closestOrder_eq_onFun, closest⟩, ⟨Candidate.perfectOrder_eq_onFun, perfect⟩,
    fun candidates => ⟨?closestSorts, ?perfectSorts⟩⟩
  case rank => exact rank.onFun MatchResult.quality
  case closest =>
    rw [Candidate.closestOrder_eq_onFun]
    exact closest.onFun Candidate.standing
  case perfect =>
    rw [Candidate.perfectOrder_eq_onFun]
    exact perfect.onFun Candidate.standing
  case closestSorts => exact Candidate.ordersBy_closestKey.sortsStablyBy_mergeSort _
  case perfectSorts => exact Candidate.ordersBy_perfectKey.sortsStablyBy_mergeSort _

/-- A NaN comes before one if its sign bit is clear and behind it if the bit is set, and the positive
zero comes before the negative one. -/
example :
    Quality.order ⟨0x7FF8000000000000, 1⟩ ⟨0x3FF0000000000000, 1⟩ = .lt ∧
      Quality.order ⟨0x3FF0000000000000, 1⟩ ⟨0xFFF8000000000000, 1⟩ = .lt ∧
      Quality.order ⟨0, 1⟩ ⟨0x8000000000000000, 1⟩ = .lt := by
  decide

end Understudy
