import Understudy.Proofs.Matching.Evaluation
import Understudy.Proofs.Ranking.Least
import Understudy.Proofs.Resolution.Contenders

/-!
# The winner of a resolution

Which candidate a resolution answers with and which one it calls the closest, as the least
contender by a lexicographic key.  The strict answer is the least perfect contender.  The closest
match is the least one that scores and, if its mapping belongs to the administration, is perfect;
it is found in the same way in both modes.
-/

namespace Understudy

/-- The winner contends and is admitted, and no other admitted contender has a lower key or, with
the same key, an earlier position. -/
def Leads {κ : Type*} [LinearOrder κ] (store : ScenarioStore) (draws : Draws) (request : Request)
    (now : Instant) (mappings : List Mapping) (key : Candidate → κ) (admits : Candidate → Prop)
    (winner : Candidate) : Prop :=
  ∃ position, Contends store draws request now mappings position winner ∧ admits winner ∧
    ∀ otherPosition other, Contends store draws request now mappings otherPosition other →
      admits other → toLex (key winner, position) ≤ toLex (key other, otherPosition)

/-- A contender that can be the closest match. -/
def Candidate.CanBeClosest (candidate : Candidate) : Prop :=
  0 < candidate.result.average ∧ (candidate.mapping.isAdmin = false ∨ candidate.result.isPerfect)

theorem Candidate.canBeClosest_iff (candidate : Candidate) :
    candidate.canBeClosest ↔ candidate.CanBeClosest := by
  simp [canBeClosest, CanBeClosest, and_comm]

instance (candidate : Candidate) : Decidable candidate.CanBeClosest :=
  decidable_of_iff _ candidate.canBeClosest_iff

/-- A perfect candidate with conditions can be the closest match. -/
theorem Candidate.canBeClosest_of_isPerfect {candidate : Candidate}
    (perfect : candidate.result.isPerfect = true) (positive : 0 < candidate.result.count)
    (bounded : candidate.result.count < 2 ^ 53) : candidate.CanBeClosest := by
  refine ⟨?_, .inr perfect⟩
  rw [MatchResult.average_of_isPerfect perfect positive bounded]
  decide

/-- No other contender that is admitted has a lower key. -/
theorem Leads.key_le {κ : Type*} [LinearOrder κ] {store : ScenarioStore} {draws : Draws}
    {request : Request} {now : Instant} {mappings : List Mapping} {key : Candidate → κ}
    {admits : Candidate → Prop} {winner : Candidate}
    (leads : Leads store draws request now mappings key admits winner) {position : Nat}
    {other : Candidate} (contends : Contends store draws request now mappings position other)
    (admitted : admits other) : key winner ≤ key other := by
  obtain ⟨place, -, -, least⟩ := leads
  exact Prod.Lex.monotone_fst _ _ (least position other contends admitted)

/-- Of two candidates the one with the lower key has the greater mean score. -/
theorem Candidate.place_average_le {winner other : Candidate}
    (keyLe : winner.closestKey ≤ other.closestKey) :
    Score.place other.result.average ≤ Score.place winner.result.average :=
  OrderDual.toDual_le_toDual.mp (Prod.Lex.monotone_fst _ _ keyLe)

section

variable {κ : Type*} [LinearOrder κ] {order : Candidate → Candidate → Ordering}
variable {key : Candidate → κ} {test : Candidate → Bool} {admits : Candidate → Prop}

/-- The first of the sorted candidates that pass a test leads those that it admits. -/
theorem head?_sortCandidates_eq_some_iff (orders : OrdersBy order key)
    (tests : ∀ candidate, test candidate ↔ admits candidate) (store : ScenarioStore)
    (draws : Draws) (request : Request) (now : Instant) (mappings : List Mapping)
    (winner : Candidate) :
    (sortCandidates order
        (((sample now mappings draws).1.filterMap (candidate? store request)).filter test)).head? =
          some winner ↔
      Leads store draws request now mappings key admits winner := by
  obtain ⟨placed, candidates, ascending, members⟩ :=
    exists_placed_candidates store draws request now mappings
  rw [← candidates, head?_sortCandidates_filter_eq_some_iff orders test ascending]
  simp only [Prod.forall, members, tests, Leads]
  constructor
  · rintro ⟨position, contends, admitted, least⟩
    exact ⟨position, contends, admitted, fun otherPosition other => least other otherPosition⟩
  · rintro ⟨position, contends, admitted, least⟩
    exact ⟨position, contends, admitted, fun other otherPosition => least otherPosition other⟩

theorem mem_sortCandidates_iff (order : Candidate → Candidate → Ordering)
    (tests : ∀ candidate, test candidate ↔ admits candidate) (store : ScenarioStore)
    (draws : Draws) (request : Request) (now : Instant) (mappings : List Mapping)
    (candidate : Candidate) :
    candidate ∈ sortCandidates order
        (((sample now mappings draws).1.filterMap (candidate? store request)).filter test) ↔
      ∃ position,
        Contends store draws request now mappings position candidate ∧ admits candidate := by
  obtain ⟨placed, candidates, -, members⟩ :=
    exists_placed_candidates store draws request now mappings
  rw [← candidates, sortCandidates, List.mem_mergeSort, List.mem_filter, List.mem_map, tests]
  constructor
  · rintro ⟨⟨⟨_, position⟩, member, rfl⟩, admitted⟩
    exact ⟨position, (members _ _).mp member, admitted⟩
  · rintro ⟨position, contends, admitted⟩
    exact ⟨⟨(candidate, position), (members _ _).mpr contends, rfl⟩, admitted⟩

theorem isSome_head?_sortCandidates_iff (tests : ∀ candidate, test candidate ↔ admits candidate)
    (store : ScenarioStore) (draws : Draws) (request : Request) (now : Instant)
    (mappings : List Mapping) :
    (sortCandidates order
        (((sample now mappings draws).1.filterMap (candidate? store request)).filter
          test)).head?.isSome ↔
      ∃ position candidate,
        Contends store draws request now mappings position candidate ∧ admits candidate := by
  have members := mem_sortCandidates_iff order tests store draws request now mappings
  rw [List.isSome_head?]
  constructor
  · intro nonempty
    obtain ⟨candidate, member⟩ := List.exists_mem_of_ne_nil _ nonempty
    obtain ⟨position, contends⟩ := (members candidate).mp member
    exact ⟨position, candidate, contends⟩
  · rintro ⟨position, candidate, contends⟩
    exact List.ne_nil_of_mem ((members candidate).mpr ⟨position, contends⟩)

end

section

variable (settings : MatchingSettings) (registry : Registry) (store : ScenarioStore)
variable (draws : Draws) (request : Request) (now : Instant)

theorem matched_of_strict {settings : MatchingSettings} (strict : settings.allowPartial = false) :
    (resolveAt settings registry store draws request now).resolution.matched =
      (rankPerfect ((sample now registry.mappings draws).1.filterMap
        (candidate? store request))).head? := by
  simp [resolveAt, resolveUnder, resolveAmong, strict]

theorem matched_of_permissive {settings : MatchingSettings}
    (permissive : settings.allowPartial = true) :
    (resolveAt settings registry store draws request now).resolution.matched =
      (resolveAt settings registry store draws request now).resolution.closest := by
  simp [resolveAt, resolveUnder, resolveAmong, permissive]

/-- The closest match leads the contenders that can be it. -/
theorem closest_eq_some_iff (winner : Candidate) :
    (resolveAt settings registry store draws request now).resolution.closest = some winner ↔
      Leads store draws request now registry.mappings Candidate.closestKey
        Candidate.CanBeClosest winner :=
  head?_sortCandidates_eq_some_iff Candidate.ordersBy_closestKey Candidate.canBeClosest_iff
    store draws request now registry.mappings winner

theorem closest_isSome_iff :
    (resolveAt settings registry store draws request now).resolution.closest.isSome ↔
      ∃ position candidate,
        Contends store draws request now registry.mappings position candidate ∧
          candidate.CanBeClosest :=
  isSome_head?_sortCandidates_iff Candidate.canBeClosest_iff
    store draws request now registry.mappings

/-- The strict answer leads the perfect contenders. -/
theorem matched_eq_some_iff_of_strict {settings : MatchingSettings}
    (strict : settings.allowPartial = false) (winner : Candidate) :
    (resolveAt settings registry store draws request now).resolution.matched = some winner ↔
      Leads store draws request now registry.mappings Candidate.perfectKey
        (fun candidate => candidate.result.isPerfect) winner := by
  rw [matched_of_strict registry store draws request now strict]
  exact head?_sortCandidates_eq_some_iff Candidate.ordersBy_perfectKey (fun _ => Iff.rfl)
    store draws request now registry.mappings winner

theorem matched_isSome_iff_of_strict {settings : MatchingSettings}
    (strict : settings.allowPartial = false) :
    (resolveAt settings registry store draws request now).resolution.matched.isSome ↔
      ∃ position candidate,
        Contends store draws request now registry.mappings position candidate ∧
          candidate.result.isPerfect := by
  rw [matched_of_strict registry store draws request now strict]
  exact isSome_head?_sortCandidates_iff (fun _ => Iff.rfl) store draws request now
    registry.mappings

theorem exists_contends_of_closest {winner : Candidate}
    (closest : (resolveAt settings registry store draws request now).resolution.closest =
      some winner) :
    ∃ position, Contends store draws request now registry.mappings position winner := by
  obtain ⟨position, contends, -⟩ :=
    (closest_eq_some_iff settings registry store draws request now winner).mp closest
  exact ⟨position, contends⟩

/-- In both modes the answer is a contender. -/
theorem exists_contends_of_matched {winner : Candidate}
    (matched : (resolveAt settings registry store draws request now).resolution.matched =
      some winner) :
    ∃ position, Contends store draws request now registry.mappings position winner := by
  cases mode : settings.allowPartial with
  | false =>
      obtain ⟨position, contends, -⟩ :=
        (matched_eq_some_iff_of_strict registry store draws request now mode winner).mp matched
      exact ⟨position, contends⟩
  | true =>
      rw [matched_of_permissive registry store draws request now mode] at matched
      exact exists_contends_of_closest settings registry store draws request now matched

end

/-- The strict mode answers exactly if there is a perfect contender, and then with the one whose
key and position are least. -/
theorem strict_answer_leads_perfect_contenders {settings : MatchingSettings}
    (strict : settings.allowPartial = false) (registry : Registry) (store : ScenarioStore)
    (draws : Draws) (request : Request) (now : Instant) :
    ((resolveAt settings registry store draws request now).resolution.matched.isSome ↔
      ∃ position candidate,
        Contends store draws request now registry.mappings position candidate ∧
          candidate.result.isPerfect) ∧
    ∀ winner,
      (resolveAt settings registry store draws request now).resolution.matched = some winner ↔
        Leads store draws request now registry.mappings Candidate.perfectKey
          (fun candidate => candidate.result.isPerfect) winner :=
  ⟨matched_isSome_iff_of_strict registry store draws request now strict,
    matched_eq_some_iff_of_strict registry store draws request now strict⟩

/-- Of two mappings without conditions the later one answers if its priority is lower. -/
theorem lower_priority_answers :
    (default : MatchingSettings).allowPartial = false ∧
      (resolveAt default
          ⟨[Mapping.new (.ofNat 1) .empty,
            { Mapping.new (.ofNat 2) .empty with priority := -1 }]⟩
          .empty default (Request.new "GET" "/") .epoch).resolution.matched =
        some ⟨{ Mapping.new (.ofNat 2) .empty with priority := -1 }, ⟨[]⟩⟩ := by
  refine ⟨rfl, ((strict_answer_leads_perfect_contenders rfl _ _ _ _ _).2 _).mpr
    ⟨1, ⟨rfl, rfl, nofun, rfl⟩, rfl, ?_⟩⟩
  rintro place ⟨owner, result⟩ ⟨registered, _, _, evaluated⟩ _
  match place with
  | 0 =>
      obtain rfl : _ = owner := Option.some.inj registered
      have lower : (-1 : Int) < 0 := by decide
      exact Prod.Lex.toLex_le_toLex.mpr (.inl (Prod.Lex.toLex_lt_toLex.mpr (.inl lower)))
  | 1 =>
      obtain rfl : _ = owner := Option.some.inj registered
      have resultEq : ⟨[]⟩ = result := Except.ok.inj evaluated
      rw [← resultEq]
  | _ + 2 => cases registered

/-- There is a closest match exactly if there is a contender that scores and, if its mapping
belongs to the administration, is perfect; then it is the one whose key and position are least.
The settings have no influence on it, and the permissive mode answers with it. -/
theorem closest_leads_scoring_contenders (settings : MatchingSettings) (registry : Registry)
    (store : ScenarioStore) (draws : Draws) (request : Request) (now : Instant) :
    ((resolveAt settings registry store draws request now).resolution.closest.isSome ↔
      ∃ position candidate,
        Contends store draws request now registry.mappings position candidate ∧
          candidate.CanBeClosest) ∧
    (∀ winner,
      (resolveAt settings registry store draws request now).resolution.closest = some winner ↔
        Leads store draws request now registry.mappings Candidate.closestKey
          Candidate.CanBeClosest winner) ∧
    (∀ otherSettings,
      (resolveAt otherSettings registry store draws request now).resolution.closest =
        (resolveAt settings registry store draws request now).resolution.closest) ∧
    (resolveAt { settings with allowPartial := true } registry store draws request
        now).resolution.matched =
      (resolveAt settings registry store draws request now).resolution.closest :=
  ⟨closest_isSome_iff settings registry store draws request now,
    closest_eq_some_iff settings registry store draws request now, fun _ => rfl,
    matched_of_permissive registry store draws request now rfl⟩

/-- Three mappings meet a half of their conditions.  The one of the administration is left out, and
of the others the later one has the lower priority. -/
example :
    let half := fun id priority admin => { Mapping.new (.ofNat id)
        { RequestMatcher.empty with
          custom := [⟨"first", fun _ _ => .scored 1⟩, ⟨"second", fun _ _ => .scored 0⟩] } with
      priority := priority, isAdmin := admin }
    let resolution := (resolveAt default ⟨[half 1 (-2) true, half 2 0 false, half 3 (-1) false]⟩
      .empty default (Request.new "GET" "/a") .epoch).resolution
    resolution.closest =
        some ⟨half 3 (-1) false, ⟨[⟨"first", 1, none⟩, ⟨"second", 0, none⟩]⟩⟩ := by
  intro half resolution
  refine (closest_eq_some_iff _ _ _ _ _ _ _).mpr ⟨2, ⟨rfl, rfl, nofun, rfl⟩, by decide, ?_⟩
  rintro place ⟨owner, result⟩ ⟨registered, _, _, evaluated⟩ admitted
  match place with
  | 0 =>
      obtain rfl : half 1 (-2) true = owner := Option.some.inj registered
      obtain rfl : _ = result := Except.ok.inj evaluated
      exact absurd admitted (by decide)
  | 1 =>
      obtain rfl : half 2 0 false = owner := Option.some.inj registered
      obtain rfl : _ = result := Except.ok.inj evaluated
      decide
  | 2 =>
      obtain rfl : half 3 (-1) false = owner := Option.some.inj registered
      obtain rfl : _ = result := Except.ok.inj evaluated
      exact le_rfl
  | _ + 3 => cases registered

end Understudy
