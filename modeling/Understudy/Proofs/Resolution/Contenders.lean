import Understudy.Resolution

/-!
# Contenders

The candidates of a resolution, told without its recursion.  A mapping contends at its position
in the registry if it is in its window, sampled in, and evaluated without a failure.  The draw
that decides on it is found by counting the draws made for the mappings before it.
-/

namespace Understudy

/-- Whether sampling makes a draw for the mapping: it is in its window and its probability is not
zero or less. -/
def Mapping.takesDraw (now : Instant) (mapping : Mapping) : Bool :=
  mapping.isTimeValid now && mapping.probability.any fun probability => !decide (probability ≤ 0)

/-- Whether the probability admits the mapping at a draw; an absent one always does. -/
def Mapping.SampledIn (mapping : Mapping) (draw : Float) : Prop :=
  ∀ probability, mapping.probability = some probability → ¬probability ≤ 0 ∧ draw ≤ probability

/-- The draw for the mapping at a position: the first one behind those of the mappings before. -/
def drawAt (now : Instant) (mappings : List Mapping) (draws : Draws) (position : Nat) : Float :=
  draws.value (draws.made + (mappings.take position).countP (Mapping.takesDraw now))

/-- The mapping stands at the position, is in its window, and is sampled in. -/
structure TakesPart (draws : Draws) (now : Instant) (mappings : List Mapping) (position : Nat)
    (mapping : Mapping) : Prop where
  registered : mappings[position]? = some mapping
  inWindow : mapping.isTimeValid now
  sampledIn : mapping.SampledIn (drawAt now mappings draws position)

/-- The mapping at a position takes part in the resolution and has a result. -/
structure Contends (store : ScenarioStore) (draws : Draws) (request : Request) (now : Instant)
    (mappings : List Mapping) (position : Nat) (candidate : Candidate) : Prop where
  registered : mappings[position]? = some candidate.mapping
  inWindow : candidate.mapping.isTimeValid now
  sampledIn : candidate.mapping.SampledIn (drawAt now mappings draws position)
  /-- The result is that of the mapping itself under the state of its scenario. -/
  evaluated : candidate.mapping.evaluate request (gatingState store candidate.mapping) =
    .ok candidate.result

/-! ## One mapping -/

theorem sampleOne_fst_iff (now : Instant) (mapping : Mapping) (draws : Draws) :
    (sampleOne now mapping draws).1 ↔
      mapping.isTimeValid now ∧ mapping.SampledIn (draws.value draws.made) := by
  unfold sampleOne Mapping.SampledIn
  cases valid : mapping.isTimeValid now with
  | false => simp
  | true =>
      cases mapping.probability with
      | none => simp
      | some probability =>
          by_cases never : probability ≤ 0
          · simp [never]
          · simp only [never, Draws.next, not_false_iff, true_and, Option.some.injEq,
              forall_eq', Bool.not_true, Bool.false_eq_true, if_false]
            exact decide_eq_true_iff

theorem sampleOne_snd (now : Instant) (mapping : Mapping) (draws : Draws) :
    (sampleOne now mapping draws).2 =
      { draws with made := draws.made + [mapping].countP (Mapping.takesDraw now) } := by
  unfold sampleOne Mapping.takesDraw
  cases valid : mapping.isTimeValid now with
  | false => simp [valid]
  | true =>
      cases present : mapping.probability with
      | none => simp [present]
      | some probability =>
          by_cases never : probability ≤ 0
          · simp [valid, present, never]
          · simp [valid, present, never, Draws.next]

theorem candidate?_eq_some_iff {store : ScenarioStore} {request : Request} {mapping : Mapping}
    {candidate : Candidate} :
    candidate? store request mapping = some candidate ↔
      candidate.mapping = mapping ∧
        mapping.evaluate request (gatingState store mapping) = .ok candidate.result := by
  rcases candidate with ⟨owner, result⟩
  unfold candidate? evaluateIn
  split
  next found evaluated => simp [evaluated, eq_comm]
  next evaluated => simp [evaluated]

/-! ## All mappings -/

@[simp]
theorem drawAt_zero (now : Instant) (mappings : List Mapping) (draws : Draws) :
    drawAt now mappings draws 0 = draws.value draws.made :=
  rfl

@[simp]
theorem drawAt_succ (now : Instant) (mapping : Mapping) (rest : List Mapping) (draws : Draws)
    (position : Nat) :
    drawAt now (mapping :: rest) draws (position + 1) =
      drawAt now rest (sampleOne now mapping draws).2 position := by
  rw [sampleOne_snd, drawAt, drawAt, List.take_succ_cons, ← List.singleton_append,
    List.countP_append, Nat.add_assoc]

section

variable {draws : Draws} {now : Instant} {first : Mapping} {rest : List Mapping} {position : Nat}
variable {mapping : Mapping}

theorem takesPart_zero_iff :
    TakesPart draws now (first :: rest) 0 mapping ↔
      (sampleOne now first draws).1 ∧ mapping = first := by
  rw [sampleOne_fst_iff]
  constructor
  · rintro ⟨registered, inWindow, sampledIn⟩
    obtain rfl : first = mapping := Option.some.inj registered
    exact ⟨⟨inWindow, sampledIn⟩, rfl⟩
  · rintro ⟨⟨inWindow, sampledIn⟩, rfl⟩
    exact ⟨rfl, inWindow, sampledIn⟩

theorem takesPart_succ_iff :
    TakesPart draws now (first :: rest) (position + 1) mapping ↔
      TakesPart (sampleOne now first draws).2 now rest position mapping := by
  constructor
  · rintro ⟨registered, inWindow, sampledIn⟩
    exact ⟨registered, inWindow, by simpa using sampledIn⟩
  · rintro ⟨registered, inWindow, sampledIn⟩
    exact ⟨registered, inWindow, by simpa using sampledIn⟩

/-- What becomes of the mappings that take part stands at ascending positions, those of the
mappings. -/
theorem exists_placed_filterMap_sample {β : Type} (image : Mapping → Option β) (draws : Draws)
    (now : Instant) (mappings : List Mapping) :
    ∃ placed : List (β × Nat),
      placed.map Prod.fst = (sample now mappings draws).1.filterMap image ∧
      placed.Pairwise (fun first second => first.2 < second.2) ∧
      ∀ result position, (result, position) ∈ placed ↔
        ∃ mapping, TakesPart draws now mappings position mapping ∧
          image mapping = some result := by
  induction mappings generalizing draws with
  | nil =>
      refine ⟨[], rfl, .nil, ?_⟩
      intro result position
      constructor
      · simp
      · rintro ⟨_, ⟨registered, _, _⟩, _⟩
        simp at registered
  | cons mapping rest inductionHypothesis =>
      obtain ⟨placed, images, ascending, members⟩ :=
        inductionHypothesis (sampleOne now mapping draws).2
      -- the image of the first mapping, if it has one, and the others one place further on
      let first := if (sampleOne now mapping draws).1 then image mapping else none
      refine ⟨(first.toList.map fun result => (result, 0)) ++
        placed.map fun entry => (entry.1, entry.2 + 1), ?_, ?_, ?_⟩
      · simp only [List.map_append, List.map_map, Function.comp_def, List.map_id', images,
          sample, first]
        cases (sampleOne now mapping draws).1 with
        | false => rfl
        | true =>
            cases found : image mapping with
            | none => simp [found]
            | some result => simp [found]
      · rw [List.pairwise_append, List.pairwise_map, List.pairwise_map]
        refine ⟨?_, ascending.imp fun less => Nat.succ_lt_succ less, ?_⟩
        · cases first with
          | none => exact .nil
          | some result => exact List.pairwise_singleton _ _
        · simp only [List.mem_map]
          rintro _ ⟨result, _, rfl⟩ _ ⟨entry, _, rfl⟩
          exact Nat.succ_pos _
      · intro result position
        cases position with
        | zero => simp [takesPart_zero_iff, first, and_assoc]
        | succ position => simp [takesPart_succ_iff, members]

end

section

variable {store : ScenarioStore} {draws : Draws} {request : Request} {now : Instant}
variable {mapping : Mapping} {mappings rest : List Mapping} {position : Nat}
variable {candidate : Candidate}

theorem contends_iff :
    Contends store draws request now mappings position candidate ↔
      ∃ mapping, TakesPart draws now mappings position mapping ∧
        candidate? store request mapping = some candidate := by
  simp only [candidate?_eq_some_iff]
  constructor
  · rintro ⟨registered, inWindow, sampledIn, evaluated⟩
    exact ⟨candidate.mapping, ⟨registered, inWindow, sampledIn⟩, rfl, evaluated⟩
  · rintro ⟨_, ⟨registered, inWindow, sampledIn⟩, rfl, evaluated⟩
    exact ⟨registered, inWindow, sampledIn, evaluated⟩

theorem contends_zero_iff :
    Contends store draws request now (mapping :: rest) 0 candidate ↔
      (sampleOne now mapping draws).1 ∧ candidate? store request mapping = some candidate := by
  simp [contends_iff, takesPart_zero_iff, and_assoc]

theorem contends_succ_iff :
    Contends store draws request now (mapping :: rest) (position + 1) candidate ↔
      Contends store (sampleOne now mapping draws).2 request now rest position candidate := by
  simp only [contends_iff, takesPart_succ_iff]

/-- The candidates of a resolution stand at ascending positions, and they are the contenders. -/
theorem exists_placed_candidates (store : ScenarioStore) (draws : Draws) (request : Request)
    (now : Instant) (mappings : List Mapping) :
    ∃ placed : List (Candidate × Nat),
      placed.map Prod.fst = (sample now mappings draws).1.filterMap (candidate? store request) ∧
      placed.Pairwise (fun first second => first.2 < second.2) ∧
      ∀ candidate position, (candidate, position) ∈ placed ↔
        Contends store draws request now mappings position candidate := by
  simp only [contends_iff]
  exact exists_placed_filterMap_sample _ draws now mappings

end

end Understudy
