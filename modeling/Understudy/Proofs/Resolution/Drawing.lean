import Understudy.Proofs.Registry.Dictionary
import Understudy.Proofs.Resolution.Contenders

/-!
# Draws of a resolution

Which numbers sampling draws, and for which mappings.  The numbers drawn for a mapping are those by
which the source is further behind it.  There is one for each mapping in its window with a positive
probability, in the order of the registry, and these are the next numbers of the source.
-/

namespace Understudy

/-! ## Drawing -/

namespace Draws

@[simp]
theorem take_zero (draws : Draws) : draws.take 0 = ([], draws) :=
  rfl

theorem take_succ (count : Nat) (draws : Draws) :
    draws.take (count + 1) =
      (draws.next.1 :: (draws.next.2.take count).1, (draws.next.2.take count).2) :=
  rfl

theorem length_take (count : Nat) (draws : Draws) : (draws.take count).1.length = count := by
  induction count generalizing draws with
  | zero => rfl
  | succ count inductionHypothesis =>
      exact congrArg Nat.succ (inductionHypothesis draws.next.2)

theorem take_add (count further : Nat) (draws : Draws) :
    draws.take (count + further) =
      ((draws.take count).1 ++ ((draws.take count).2.take further).1,
        ((draws.take count).2.take further).2) := by
  induction count generalizing draws with
  | zero => simp
  | succ count inductionHypothesis =>
      rw [Nat.add_right_comm, take_succ, inductionHypothesis, take_succ, List.cons_append]

theorem snd_take (count : Nat) (draws : Draws) :
    (draws.take count).2 = { draws with made := draws.made + count } := by
  induction count generalizing draws with
  | zero => rfl
  | succ count inductionHypothesis =>
      rw [take_succ, inductionHypothesis, next, Nat.add_right_comm, Nat.add_assoc]

theorem getElem?_take {count draw : Nat} (less : draw < count) (draws : Draws) :
    (draws.take count).1[draw]? = some (draws.value (draws.made + draw)) := by
  induction count generalizing draws draw with
  | zero => omega
  | succ count inductionHypothesis =>
      cases draw with
      | zero => rfl
      | succ draw =>
          rw [take_succ, List.getElem?_cons_succ, inductionHypothesis (by omega), next,
            Nat.add_right_comm, Nat.add_assoc]

end Draws

/-! ## The mappings that draws are made for -/

/-- A number that is not below zero is positive unless it is at most zero. -/
theorem pos_iff_not_le_zero {value : Float} (nonneg : 0 ≤ value) : 0 < value ↔ ¬value ≤ 0 := by
  have zero : (0 : Float).toModel.unpack = .zero .positive := rfl
  rw [le_iff_unpack, zero] at nonneg
  rw [lt_iff_unpack, le_iff_unpack, zero]
  generalize value.toModel.unpack = unpacked at nonneg
  cases unpacked with
  | notANumber => cases nonneg
  | zero sign => cases sign <;> decide
  | infinity sign =>
      cases sign with
      | negative => cases nonneg
      | positive => decide
  | finite sign mantissa exponent positive =>
      cases sign with
      | negative => cases nonneg
      | positive => exact iff_of_true rfl Bool.false_ne_true

/-- Whether a draw decides on the mapping: it is in its window and its probability is positive. -/
def Mapping.isSampled (now : Instant) (mapping : Mapping) : Bool :=
  mapping.isTimeValid now && mapping.probability.any fun probability => decide (0 < probability)

theorem Mapping.takesDraw_eq_isSampled {mapping : Mapping} (valid : mapping.problem? = none)
    (now : Instant) : mapping.takesDraw now = mapping.isSampled now := by
  unfold takesDraw isSampled
  cases present : mapping.probability with
  | none => rfl
  | some probability =>
      obtain ⟨nonneg, -, -⟩ := probability_bounds valid present
      simp [pos_iff_not_le_zero nonneg]

/-! ## One resolution -/

/-- The numbers drawn for a mapping, by which the source is further behind it. -/
def drawnFor (now : Instant) (mapping : Mapping) (draws : Draws) : List Float :=
  (draws.take ((sampleOne now mapping draws).2.made - draws.made)).1

/-- The numbers drawn while sampling goes through the mappings, each with its mapping. -/
def drawnAmong (now : Instant) : List Mapping → Draws → List (Mapping × Float)
  | [], _ => []
  | mapping :: rest, draws =>
      (drawnFor now mapping draws).map (fun number => (mapping, number)) ++
        drawnAmong now rest (sampleOne now mapping draws).2

section

variable {now : Instant} {mappings : List Mapping}

theorem drawnFor_eq_take (mapping : Mapping) (draws : Draws) :
    drawnFor now mapping draws =
      (draws.take ([mapping].countP (Mapping.takesDraw now))).1 := by
  rw [drawnFor, sampleOne_snd, Nat.add_sub_cancel_left]

theorem sampleOne_snd_eq_take (mapping : Mapping) (draws : Draws) :
    (sampleOne now mapping draws).2 =
      (draws.take ([mapping].countP (Mapping.takesDraw now))).2 := by
  rw [sampleOne_snd, Draws.snd_take]

/-- One number is drawn for each mapping that a draw decides on, and none for any other. -/
theorem map_fst_drawnAmong (mappings : List Mapping) (draws : Draws) :
    (drawnAmong now mappings draws).map Prod.fst = mappings.filter (Mapping.takesDraw now) := by
  induction mappings generalizing draws with
  | nil => rfl
  | cons mapping rest inductionHypothesis =>
      rw [drawnAmong, drawnFor_eq_take, List.map_append, inductionHypothesis, List.filter_cons,
        List.countP_singleton]
      cases mapping.takesDraw now with
      | true => rfl
      | false => rfl

/-- The numbers drawn are the next ones of the source. -/
theorem take_length_drawnAmong (mappings : List Mapping) (draws : Draws) :
    draws.take (drawnAmong now mappings draws).length =
      ((drawnAmong now mappings draws).map Prod.snd, (sample now mappings draws).2) := by
  induction mappings generalizing draws with
  | nil => rfl
  | cons mapping rest inductionHypothesis =>
      rw [drawnAmong, List.length_append, List.length_map, drawnFor_eq_take, Draws.length_take,
        Draws.take_add, ← sampleOne_snd_eq_take, inductionHypothesis, List.map_append,
        List.map_map, Function.comp_def, List.map_id']
      rfl

/-- The number drawn for a mapping is behind those for the mappings before it. -/
theorem getElem?_drawnAmong {position : Nat} {mapping : Mapping} {draws : Draws}
    (registered : mappings[position]? = some mapping) (takesDraw : mapping.takesDraw now) :
    (drawnAmong now mappings draws)[(mappings.take position).countP (Mapping.takesDraw now)]? =
      some (mapping, drawAt now mappings draws position) := by
  induction mappings generalizing draws position with
  | nil => cases registered
  | cons first rest inductionHypothesis =>
      cases position with
      | zero =>
          obtain rfl : first = mapping := Option.some.inj registered
          rw [drawnAmong, drawnFor_eq_take, List.countP_singleton, if_pos takesDraw]
          rfl
      | succ position =>
          rw [List.getElem?_cons_succ] at registered
          have length : ((drawnFor now first draws).map fun number => (first, number)).length =
              [first].countP (Mapping.takesDraw now) := by
            rw [List.length_map, drawnFor_eq_take, Draws.length_take]
          rw [drawnAmong, List.take_succ_cons, ← List.singleton_append, List.countP_append,
            List.getElem?_append_right (length.trans_le (Nat.le_add_right _ _)), length,
            Nat.add_sub_cancel_left, inductionHypothesis registered, drawAt_succ]

theorem mem_sample_iff {mapping : Mapping} {draws : Draws} :
    mapping ∈ (sample now mappings draws).1 ↔
      ∃ position, mappings[position]? = some mapping ∧ mapping.isTimeValid now ∧
        mapping.SampledIn (drawAt now mappings draws position) := by
  obtain ⟨placed, images, -, members⟩ := exists_placed_filterMap_sample some draws now mappings
  rw [List.filterMap_some] at images
  rw [← images, List.mem_map]
  constructor
  · rintro ⟨⟨_, position⟩, member, rfl⟩
    obtain ⟨_, ⟨registered, inWindow, sampledIn⟩, same⟩ := (members _ _).mp member
    cases same
    exact ⟨position, registered, inWindow, sampledIn⟩
  · rintro ⟨position, registered, inWindow, sampledIn⟩
    exact ⟨(mapping, position),
      (members _ _).mpr ⟨mapping, ⟨registered, inWindow, sampledIn⟩, rfl⟩, rfl⟩

end

/-! ## Valid mappings -/

section

variable {now : Instant} {mappings : List Mapping} {position : Nat} {mapping : Mapping}
variable (valid : ∀ mapping ∈ mappings, mapping.problem? = none) (draws : Draws)
include valid

theorem filter_takesDraw_eq :
    mappings.filter (Mapping.takesDraw now) = mappings.filter (Mapping.isSampled now) :=
  List.filter_congr fun mapping member => mapping.takesDraw_eq_isSampled (valid mapping member) now

theorem countP_takesDraw_eq :
    (mappings.take position).countP (Mapping.takesDraw now) =
      (mappings.take position).countP (Mapping.isSampled now) := by
  apply List.countP_congr
  intro mapping member
  rw [mapping.takesDraw_eq_isSampled (valid mapping (List.mem_of_mem_take member))]

/-- A mapping takes part if it is in its window and has no probability, or a positive one that is
not below its own number. -/
theorem mem_sample_iff_of_valid (distinct : mappings.Nodup)
    (registered : mappings[position]? = some mapping) :
    mapping ∈ (sample now mappings draws).1 ↔
      mapping.isTimeValid now ∧
        (mapping.probability = none ∨
          ∃ probability own, mapping.probability = some probability ∧ 0 < probability ∧
            (drawnAmong now mappings draws)[(mappings.take position).countP
              (Mapping.isSampled now)]? = some (mapping, own) ∧
            own ≤ probability) := by
  have member := List.mem_of_getElem? registered
  rw [← countP_takesDraw_eq valid, mem_sample_iff]
  constructor
  · rintro ⟨place, registeredThere, inWindow, sampledIn⟩
    obtain rfl : position = place :=
      (List.getElem?_inj (List.getElem?_eq_some_iff.mp registered).1 distinct).mp
        (registered.trans registeredThere.symm)
    refine ⟨inWindow, ?_⟩
    cases present : mapping.probability with
    | none => exact .inl rfl
    | some probability =>
        obtain ⟨nonneg, -, -⟩ := mapping.probability_bounds (valid mapping member) present
        obtain ⟨notZero, admitted⟩ := sampledIn probability present
        have takesDraw : mapping.takesDraw now := by
          simp [Mapping.takesDraw, inWindow, present, notZero]
        exact .inr ⟨probability, _, rfl, (pos_iff_not_le_zero nonneg).mpr notZero,
          getElem?_drawnAmong registered takesDraw, admitted⟩
  · rintro ⟨inWindow, absent | ⟨probability, own, present, positive, drawn, admitted⟩⟩
    · exact ⟨position, registered, inWindow, by simp [Mapping.SampledIn, absent]⟩
    · obtain ⟨nonneg, -, -⟩ := mapping.probability_bounds (valid mapping member) present
      have notZero := (pos_iff_not_le_zero nonneg).mp positive
      have takesDraw : mapping.takesDraw now := by
        simp [Mapping.takesDraw, inWindow, present, notZero]
      rw [getElem?_drawnAmong registered takesDraw, Option.some.injEq, Prod.mk.injEq] at drawn
      refine ⟨position, registered, inWindow, fun other otherPresent => ?_⟩
      obtain rfl : probability = other := Option.some.inj (present.symm.trans otherPresent)
      rw [drawn.2]
      exact ⟨notZero, admitted⟩

end

end Understudy
