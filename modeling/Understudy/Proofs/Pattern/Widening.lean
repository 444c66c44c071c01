import Understudy.Pattern
import Understudy.Proofs.Text.Lowering
import Understudy.Proofs.Text.Search

/-!
# Ignoring case

A pattern that ignores case lowers its value and the text apart from each other.  Wherever the value
stands in the text as it is, it still stands there in lower case, unless a capital sigma at an open
end of it takes another form beside what stands there.  A pattern without such a sigma is never
narrower for ignoring case, and every pattern with one loses a text.
-/

namespace Understudy

namespace Condition

/-- The text falls into these parts, and the condition finds its value in the middle one. -/
def Finds (condition : Condition) (text : String) (before value after : List Char) : Prop :=
  text.toList = before ++ value ++ after ∧
    match condition with
    | .exact wanted => value = wanted.toList ∧ before = [] ∧ after = []
    | .contains wanted => value = wanted.toList
    | .startsWith wanted => value = wanted.toList ∧ before = []
    | .endsWith wanted => value = wanted.toList ∧ after = []
    | .regex _ => False
    | .present _ => False

/-- Whether the value has a capital sigma at an end where the condition leaves the text open, with a
form that depends on what stands there. -/
def hasOpenSigma : Condition → Bool
  | .contains wanted =>
      Text.opensInSigma wanted.toList [] || Text.closesInSigma wanted.toList
  | .startsWith wanted => Text.closesInSigma wanted.toList
  | .endsWith wanted => Text.opensInSigma wanted.toList []
  | _ => false

/-- A sigma that changes beside the value stands at an open end of it. -/
theorem hasOpenSigma_of_changesSigma {condition : Condition} {text : String}
    {before value after : List Char} (finds : condition.Finds text before value after)
    (changes : Text.changesSigma before.reverse value after = true) :
    condition.hasOpenSigma = true := by
  obtain ⟨-, place⟩ := finds
  simp only [Text.changesSigma, Bool.or_eq_true, Bool.and_eq_true] at changes
  cases condition with
  | exact wanted =>
      obtain ⟨rfl, rfl, rfl⟩ := place
      rcases changes with ⟨cased, -⟩ | ⟨cased, -⟩ <;> cases cased
  | contains wanted =>
      obtain rfl := place
      rw [hasOpenSigma, Bool.or_eq_true]
      exact changes.imp (fun opening => Text.opensInSigma_nil opening.2) And.right
  | startsWith wanted =>
      obtain ⟨rfl, rfl⟩ := place
      rcases changes with ⟨cased, -⟩ | ⟨-, closes⟩
      · cases cased
      · exact closes
  | endsWith wanted =>
      obtain ⟨rfl, rfl⟩ := place
      rcases changes with ⟨-, opens⟩ | ⟨cased, -⟩
      · exact opens
      · cases cased
  | regex expression => exact place.elim
  | present wanted => exact place.elim

end Condition

namespace Pattern

variable {condition : Condition} {text : String}

theorem fold_of_ignoring (text : String) :
    (Pattern.mk condition true).fold text = Text.lowerAfter [] text.toList :=
  String.toList_ofList

/-- A pattern that heeds case accepts what it finds its value in, or looks at no case at all. -/
theorem finds_or_acceptsText_ignoring
    (accepted : (Pattern.mk condition false).acceptsText text = true) :
    (∃ before value after, condition.Finds text before value after) ∨
      (Pattern.mk condition true).acceptsText text = true := by
  cases condition with
  | exact wanted =>
      have same : text.toList = wanted.toList := beq_iff_eq.mp accepted
      exact .inl ⟨[], wanted.toList, [], by simpa using same, rfl, rfl, rfl⟩
  | contains wanted =>
      obtain ⟨before, after, split⟩ := (Text.contains_iff _ _).mp accepted
      exact .inl ⟨before, wanted.toList, after, split.symm, rfl⟩
  | startsWith wanted =>
      obtain ⟨after, split⟩ := (Text.startsWith_iff _ _).mp accepted
      exact .inl ⟨[], wanted.toList, after, split.symm, rfl, rfl⟩
  | endsWith wanted =>
      obtain ⟨before, split⟩ := (Text.endsWith_iff _ _).mp accepted
      exact .inl ⟨before, wanted.toList, [], split.symm.trans (List.append_nil _).symm, rfl, rfl⟩
  | regex expression => exact .inr accepted
  | present wanted => exact .inr accepted

/-- Where no sigma changes, the value is found in lower case as well. -/
theorem acceptsText_ignoring_of_finds {before value after : List Char}
    (finds : condition.Finds text before value after)
    (keeps : Text.changesSigma before.reverse value after = false) :
    (Pattern.mk condition true).acceptsText text = true := by
  obtain ⟨split, place⟩ := finds
  have lowered : Text.lowerAfter [] text.toList = Text.lowerBetween [] (value ++ after) before ++
      (Text.lowerAfter [] value ++ Text.lowerBetween (value.reverse ++ before.reverse) [] after) := by
    rw [split, List.append_assoc, Text.lowerAfter_eq_lowerBetween, Text.lowerBetween_append,
      Text.lowerBetween_append, List.append_nil, List.append_nil, List.append_nil,
      Text.lowerBetween_of_changesSigma_eq_false keeps, Text.lowerAfter_eq_lowerBetween]
  cases condition with
  | exact wanted =>
      obtain ⟨rfl, rfl, rfl⟩ := place
      rw [acceptsText, beq_iff_eq, fold_of_ignoring, fold_of_ignoring, lowered]
      exact List.append_nil _
  | contains wanted =>
      obtain rfl := place
      rw [acceptsText, Text.contains_iff, fold_of_ignoring, fold_of_ignoring, lowered]
      exact ⟨_, _, List.append_assoc _ _ _⟩
  | startsWith wanted =>
      obtain ⟨rfl, rfl⟩ := place
      rw [acceptsText, Text.startsWith_iff, fold_of_ignoring, fold_of_ignoring, lowered]
      exact ⟨_, rfl⟩
  | endsWith wanted =>
      obtain ⟨rfl, rfl⟩ := place
      rw [acceptsText, Text.endsWith_iff, fold_of_ignoring, fold_of_ignoring, lowered]
      exact ⟨_, congrArg _ (List.append_nil _).symm⟩
  | regex expression => exact place.elim
  | present wanted => exact place.elim

/-- A value that opens in a sigma ends a text in which it is not found in lower case. -/
theorem exists_lost_of_opensInSigma {wanted : String}
    (opens : Text.opensInSigma wanted.toList [] = true) :
    ∃ text : String, wanted.toList <:+ text.toList ∧
      ¬(Pattern.mk condition true).fold wanted <:+: (Pattern.mk condition true).fold text := by
  refine ⟨String.ofList ('a' :: wanted.toList), ?_, ?_⟩
  · rw [String.toList_ofList]
    exact List.suffix_cons _ _
  · rw [fold_of_ignoring, fold_of_ignoring, String.toList_ofList]
    exact Text.not_infix_of_opensInSigma opens

/-- A value that closes in a sigma begins a text in which it is not found in lower case. -/
theorem exists_lost_of_closesInSigma {wanted : String}
    (closes : Text.closesInSigma wanted.toList = true) :
    ∃ text : String, wanted.toList <+: text.toList ∧
      ¬(Pattern.mk condition true).fold wanted <:+: (Pattern.mk condition true).fold text := by
  refine ⟨String.ofList (wanted.toList ++ ['a']), ?_, ?_⟩
  · rw [String.toList_ofList]
    exact List.prefix_append _ _
  · rw [fold_of_ignoring, fold_of_ignoring, String.toList_ofList]
    exact Text.not_infix_of_closesInSigma closes

/-- A pattern with a sigma at an open end loses the text that has a cased character there. -/
theorem exists_lost_of_hasOpenSigma (hasSigma : condition.hasOpenSigma = true) :
    ∃ text : String, (Pattern.mk condition false).acceptsText text = true ∧
      (Pattern.mk condition true).acceptsText text = false := by
  cases condition with
  | exact wanted => cases hasSigma
  | contains wanted =>
      rw [Condition.hasOpenSigma, Bool.or_eq_true] at hasSigma
      rcases hasSigma with opens | closes
      · obtain ⟨text, ends, lost⟩ := exists_lost_of_opensInSigma opens
        exact ⟨text, (Text.contains_iff _ _).mpr ends.isInfix, Bool.eq_false_iff.mpr fun accepted =>
          lost ((Text.contains_iff _ _).mp accepted)⟩
      · obtain ⟨text, starts, lost⟩ := exists_lost_of_closesInSigma closes
        exact ⟨text, (Text.contains_iff _ _).mpr starts.isInfix, Bool.eq_false_iff.mpr
          fun accepted => lost ((Text.contains_iff _ _).mp accepted)⟩
  | startsWith wanted =>
      obtain ⟨text, starts, lost⟩ := exists_lost_of_closesInSigma hasSigma
      exact ⟨text, (Text.startsWith_iff _ _).mpr starts, Bool.eq_false_iff.mpr fun accepted =>
        lost ((Text.startsWith_iff _ _).mp accepted).isInfix⟩
  | endsWith wanted =>
      obtain ⟨text, ends, lost⟩ := exists_lost_of_opensInSigma hasSigma
      exact ⟨text, (Text.endsWith_iff _ _).mpr ends, Bool.eq_false_iff.mpr fun accepted =>
        lost ((Text.endsWith_iff _ _).mp accepted).isInfix⟩
  | regex expression => cases hasSigma
  | present wanted => cases hasSigma

end Pattern

open Pattern

/-- Ignoring case only widens a pattern, unless its value has a capital sigma at an open end, and
then it does lose a text.  A text is only lost if the value stands in it, and if a sigma takes
another form beside each of these places. -/
theorem ignoring_case_widens_iff_no_open_sigma (condition : Condition) :
    ((∀ text, (Pattern.mk condition false).accepts text = true →
        (Pattern.mk condition true).accepts text = true) ↔ condition.hasOpenSigma = false) ∧
    ∀ text : String, (Pattern.mk condition false).accepts (some text) = true →
      (Pattern.mk condition true).accepts (some text) = false →
      (∃ before value after, condition.Finds text before value after) ∧
      ∀ before value after, condition.Finds text before value after →
        Text.changesSigma before.reverse value after = true := by
  have lost : ∀ text : String, (Pattern.mk condition false).accepts (some text) = true →
      (Pattern.mk condition true).accepts (some text) = false →
      (∃ before value after, condition.Finds text before value after) ∧
      ∀ before value after, condition.Finds text before value after →
        Text.changesSigma before.reverse value after = true := by
    intro text accepted refused
    refine ⟨(finds_or_acceptsText_ignoring accepted).resolve_right (Bool.eq_false_iff.mp refused),
      fun before value after finds => ?_⟩
    by_contra keeps
    exact Bool.eq_false_iff.mp refused
      (acceptsText_ignoring_of_finds finds (Bool.eq_false_iff.mpr keeps))
  refine ⟨⟨fun widens => ?_, fun noSigma text accepted => ?_⟩, lost⟩
  · by_contra hasSigma
    obtain ⟨text, accepted, refused⟩ :=
      exists_lost_of_hasOpenSigma (Bool.not_eq_false _ ▸ hasSigma)
    exact Bool.eq_false_iff.mp refused (widens (some text) accepted)
  · cases text with
    | none => exact accepted
    | some text =>
        by_contra refused
        obtain ⟨⟨before, value, after, finds⟩, changes⟩ :=
          lost text accepted (Bool.eq_false_iff.mpr refused)
        have hasSigma := Condition.hasOpenSigma_of_changesSigma finds (changes _ _ _ finds)
        exact Bool.eq_false_iff.mp noSigma hasSigma

/-- The value stands at the end of the text, where its sigma is final; by itself it is not. -/
theorem final_sigma_narrows_pattern :
    (Pattern.mk (.contains "Σ") false).accepts (some "ΟΔΟΣ") = true ∧
      (Pattern.mk (.contains "Σ") true).accepts (some "ΟΔΟΣ") = false := by
  decide +kernel

end Understudy
