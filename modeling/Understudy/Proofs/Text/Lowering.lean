import Mathlib.Data.List.TakeWhile
import Understudy.Text.Case

/-!
# Lower case in context

Every character but the capital sigma has the same lower case everywhere.  A part of a text is
therefore lowered as it is by itself, unless it begins in a sigma that what stands before makes
final, or ends in a final sigma that what stands behind makes a small one.  In these two cases the
lowered part differs from the part in the text in one character.
-/

namespace Understudy.Text

/-- Whether a capital sigma takes its final form between these characters, the last one of those
before it standing first. -/
def isFinalSigma (before after : List Char) : Bool :=
  startsCased before && !startsCased after

/-- The lower case of characters between others, the last one of those before standing first. -/
def lowerBetween (before after : List Char) : List Char → List Char
  | [] => []
  | c :: rest =>
      (if c = 'Σ' then if isFinalSigma before (rest ++ after) then ['ς'] else ['σ']
        else lowerChar c) ++ lowerBetween (c :: before) after rest

/-- The characters open in a sigma, case-ignorable ones aside, that is final before `after` if
anything cased stands before it. -/
def opensInSigma (characters after : List Char) : Bool :=
  match characters.dropWhile isCaseIgnorable with
  | 'Σ' :: rest => !startsCased (rest ++ after)
  | _ => false

/-- The characters close in a sigma, case-ignorable ones aside, that is final unless anything cased
stands behind it. -/
def closesInSigma (characters : List Char) : Bool :=
  match characters.reverse.dropWhile isCaseIgnorable with
  | 'Σ' :: before => startsCased before
  | _ => false

/-- Whether the characters have another lower case between others than by themselves. -/
def changesSigma (before characters after : List Char) : Bool :=
  startsCased before && opensInSigma characters after ||
    startsCased after && closesInSigma characters

/-! ## Cased neighbours -/

theorem isCaseIgnorable_sigma : isCaseIgnorable 'Σ' = false := by
  decide +kernel

/-- Case-ignorable characters decide nothing. -/
theorem startsCased_append_of_forall {ignored : List Char}
    (ignorable : ∀ c ∈ ignored, isCaseIgnorable c = true) (rest : List Char) :
    startsCased (ignored ++ rest) = startsCased rest := by
  rw [startsCased, List.dropWhile_append_of_pos ignorable, startsCased]

theorem startsCased_of_forall {ignored : List Char}
    (ignorable : ∀ c ∈ ignored, isCaseIgnorable c = true) : startsCased ignored = false := by
  simpa [startsCased] using startsCased_append_of_forall ignorable []

/-- A character that is not case-ignorable hides all behind it. -/
theorem startsCased_append_of_exists {characters : List Char}
    (visible : ∃ c ∈ characters, isCaseIgnorable c = false) (rest : List Char) :
    startsCased (characters ++ rest) = startsCased characters := by
  have nonempty : characters.dropWhile isCaseIgnorable ≠ [] := by
    rw [Ne, List.dropWhile_eq_nil_iff]
    obtain ⟨c, member, seen⟩ := visible
    exact fun ignorable => absurd (ignorable c member) (by simp [seen])
  obtain ⟨c, behind, split⟩ := List.exists_cons_of_ne_nil nonempty
  rw [startsCased, List.dropWhile_append, split, startsCased, split]
  rfl

theorem startsCased_append_sigma (characters rest : List Char) :
    startsCased (characters ++ 'Σ' :: rest) = startsCased (characters ++ ['Σ']) := by
  rw [List.append_cons, startsCased_append_of_exists]
  exact ⟨'Σ', by simp, isCaseIgnorable_sigma⟩

theorem forall_ignorable_or_exists (characters : List Char) :
    (∀ c ∈ characters, isCaseIgnorable c = true) ∨ ∃ c ∈ characters, isCaseIgnorable c = false := by
  by_cases ignorable : ∀ c ∈ characters, isCaseIgnorable c = true
  · exact .inl ignorable
  · exact .inr (by simpa using ignorable)

/-! ## Lower case of parts -/

theorem lowerAfter_eq_lowerBetween (before characters : List Char) :
    lowerAfter before characters = lowerBetween before [] characters := by
  induction characters generalizing before with
  | nil => rfl
  | cons c rest inductionHypothesis =>
      rw [lowerAfter, lowerBetween, inductionHypothesis, List.append_nil, isFinalSigma]

theorem lowerBetween_append (before after first second : List Char) :
    lowerBetween before after (first ++ second) =
      lowerBetween before (second ++ after) first ++
        lowerBetween (first.reverse ++ before) after second := by
  induction first generalizing before with
  | nil => rfl
  | cons c rest inductionHypothesis =>
      rw [List.cons_append, lowerBetween, inductionHypothesis, lowerBetween, List.append_assoc,
        List.append_assoc, List.reverse_cons, List.append_assoc]
      rfl

/-- Characters have the same lower case where each sigma among them has the same form. -/
theorem lowerBetween_congr {before before' after after' characters : List Char}
    (same : ∀ passed rest, characters = passed ++ 'Σ' :: rest →
      isFinalSigma (passed.reverse ++ before) (rest ++ after) =
        isFinalSigma (passed.reverse ++ before') (rest ++ after')) :
    lowerBetween before after characters = lowerBetween before' after' characters := by
  induction characters generalizing before before' with
  | nil => rfl
  | cons c rest inductionHypothesis =>
      rw [lowerBetween, lowerBetween]
      congr 1
      · split
        next isSigma =>
          subst isSigma
          rw [show isFinalSigma before _ = _ from same [] rest rfl]
          rfl
        next => rfl
      · refine inductionHypothesis fun passed behind split => ?_
        simpa using same (c :: passed) behind (congrArg (c :: ·) split)

/-- Without a sigma the context does not matter. -/
theorem lowerBetween_of_forall {characters : List Char}
    (ignorable : ∀ c ∈ characters, isCaseIgnorable c = true)
    (before before' after after' : List Char) :
    lowerBetween before after characters = lowerBetween before' after' characters := by
  refine lowerBetween_congr fun passed rest split => ?_
  have sigma := ignorable 'Σ' (by simp [split])
  rw [isCaseIgnorable_sigma] at sigma
  exact absurd sigma Bool.false_ne_true

/-! ## Sigmas at the ends -/

theorem opensInSigma_iff {characters after : List Char} :
    opensInSigma characters after = true ↔
      ∃ passed rest, characters = passed ++ 'Σ' :: rest ∧
        (∀ c ∈ passed, isCaseIgnorable c = true) ∧ startsCased (rest ++ after) = false := by
  constructor
  · intro opens
    unfold opensInSigma at opens
    split at opens
    next rest split =>
      refine ⟨characters.takeWhile isCaseIgnorable, rest, ?_, fun c member => ?_, by
        simpa using opens⟩
      · rw [← split, List.takeWhile_append_dropWhile]
      · exact List.mem_takeWhile_imp member
    next => cases opens
  · rintro ⟨passed, rest, rfl, ignorable, uncased⟩
    rw [opensInSigma, List.dropWhile_append_of_pos ignorable,
      List.dropWhile_cons_of_neg (by simp [isCaseIgnorable_sigma])]
    simp [uncased]

theorem closesInSigma_iff {characters : List Char} :
    closesInSigma characters = true ↔
      ∃ passed rest, characters = passed ++ 'Σ' :: rest ∧
        startsCased passed.reverse = true ∧ ∀ c ∈ rest, isCaseIgnorable c = true := by
  constructor
  · intro closes
    unfold closesInSigma at closes
    split at closes
    next before split =>
      refine ⟨before.reverse, (characters.reverse.takeWhile isCaseIgnorable).reverse, ?_,
        by rwa [List.reverse_reverse], fun c member => ?_⟩
      · rw [← List.reverse_inj, List.reverse_append, List.reverse_cons, List.reverse_reverse,
          List.reverse_reverse, List.append_assoc, List.singleton_append, ← split,
          List.takeWhile_append_dropWhile]
      · exact List.mem_takeWhile_imp (List.mem_reverse.mp member)
    next => cases closes
  · rintro ⟨passed, rest, rfl, cased, ignorable⟩
    have ignorableReverse : ∀ c ∈ rest.reverse, isCaseIgnorable c = true :=
      fun c member => ignorable c (List.mem_reverse.mp member)
    rw [closesInSigma, List.reverse_append, List.reverse_cons, List.append_assoc,
      List.dropWhile_append_of_pos ignorableReverse, List.singleton_append,
      List.dropWhile_cons_of_neg (by simp [isCaseIgnorable_sigma])]
    exact cased

/-- An opening sigma is the only character that what stands before the characters decides. -/
theorem exists_lowerBetween_of_opensInSigma {characters after : List Char}
    (opens : opensInSigma characters after = true) :
    ∃ left right, ∀ before, lowerBetween before after characters =
      left ++ (if startsCased before then 'ς' else 'σ') :: right := by
  obtain ⟨passed, rest, rfl, ignorable, uncased⟩ := opensInSigma_iff.mp opens
  have ignorableReverse : ∀ c ∈ passed.reverse, isCaseIgnorable c = true :=
    fun c member => ignorable c (List.mem_reverse.mp member)
  refine ⟨lowerBetween [] [] passed, lowerBetween ['Σ'] after rest, fun before => ?_⟩
  have behind : lowerBetween ('Σ' :: (passed.reverse ++ before)) after rest =
      lowerBetween ['Σ'] after rest := by
    refine lowerBetween_congr fun between _ _ => ?_
    rw [isFinalSigma, startsCased_append_sigma, isFinalSigma]
  rw [lowerBetween_append, lowerBetween_of_forall ignorable _ [] _ [], lowerBetween, behind,
    isFinalSigma, startsCased_append_of_forall ignorableReverse, uncased]
  cases startsCased before <;> rfl

/-- A closing sigma is the only character that what stands behind the characters decides. -/
theorem exists_lowerBetween_of_closesInSigma {characters : List Char}
    (closes : closesInSigma characters = true) :
    ∃ left right, ∀ after, lowerBetween [] after characters =
      left ++ (if startsCased after then 'σ' else 'ς') :: right := by
  obtain ⟨passed, rest, rfl, cased, ignorable⟩ := closesInSigma_iff.mp closes
  refine ⟨lowerBetween [] ['Σ'] passed, lowerBetween [] [] rest, fun after => ?_⟩
  have ahead : lowerBetween [] ('Σ' :: rest ++ after) passed = lowerBetween [] ['Σ'] passed := by
    refine lowerBetween_congr fun _ between _ => ?_
    rw [isFinalSigma, List.cons_append, startsCased_append_sigma, isFinalSigma]
  rw [lowerBetween_append, ahead, lowerBetween, lowerBetween_of_forall ignorable _ [] _ [],
    isFinalSigma, List.append_nil, cased, startsCased_append_of_forall ignorable]
  cases startsCased after <;> rfl

/-- A sigma that opens characters in a context opens them by themselves. -/
theorem opensInSigma_nil {characters after : List Char}
    (opens : opensInSigma characters after = true) : opensInSigma characters [] = true := by
  obtain ⟨passed, rest, split, ignorable, uncased⟩ := opensInSigma_iff.mp opens
  refine opensInSigma_iff.mpr ⟨passed, rest, split, ignorable, ?_⟩
  rw [List.append_nil]
  rcases forall_ignorable_or_exists rest with ignorableRest | visible
  · exact startsCased_of_forall ignorableRest
  · rwa [startsCased_append_of_exists visible] at uncased

/-- Unless a sigma changes at an end, characters are lowered in a context as by themselves. -/
theorem lowerBetween_of_changesSigma_eq_false {before characters after : List Char}
    (keeps : changesSigma before characters after = false) :
    lowerBetween before after characters = lowerBetween [] [] characters := by
  simp only [changesSigma, Bool.or_eq_false_iff, Bool.and_eq_false_iff] at keeps
  obtain ⟨opening, closing⟩ := keeps
  refine lowerBetween_congr fun passed rest split => ?_
  rw [List.append_nil, List.append_nil, isFinalSigma, isFinalSigma]
  rcases forall_ignorable_or_exists passed.reverse with ignorable | visible
  · -- by itself this sigma is no final one, and what stands before must not make it one
    rw [startsCased_append_of_forall ignorable, startsCased_of_forall ignorable, Bool.false_and,
      Bool.and_eq_false_iff]
    refine opening.imp_right fun keeps => ?_
    rw [Bool.not_eq_false']
    by_contra uncased
    refine Bool.eq_false_iff.mp keeps (opensInSigma_iff.mpr ⟨passed, rest, split, ?_, ?_⟩)
    · exact fun c member => ignorable c (List.mem_reverse.mpr member)
    · simpa using uncased
  · rw [startsCased_append_of_exists visible]
    cases cased : startsCased passed.reverse with
    | false => rfl
    | true =>
        rcases forall_ignorable_or_exists rest with ignorableRest | visibleRest
        · -- by itself this sigma is final, and what stands behind must not end that
          have uncased : startsCased after = false := closing.resolve_right <|
            Bool.eq_false_iff.not.mpr <| not_not.mpr <|
              closesInSigma_iff.mpr ⟨passed, rest, split, cased, ignorableRest⟩
          rw [startsCased_append_of_forall ignorableRest, startsCased_of_forall ignorableRest,
            uncased]
        · rw [startsCased_append_of_exists visibleRest]

/-! ## Cased neighbours that change a sigma -/

theorem startsCased_a : startsCased ['a'] = true := by
  decide +kernel

/-- Behind a cased character an opening sigma is lost. -/
theorem not_infix_of_opensInSigma {characters : List Char}
    (opens : opensInSigma characters [] = true) :
    ¬lowerAfter [] characters <:+: lowerAfter [] ('a' :: characters) := by
  obtain ⟨left, right, lowered⟩ := exists_lowerBetween_of_opensInSigma opens
  have alone : lowerAfter [] characters = left ++ 'σ' :: right :=
    (lowerAfter_eq_lowerBetween [] characters).trans (lowered [])
  have behind : lowerAfter [] ('a' :: characters) = 'a' :: (left ++ 'ς' :: right) := by
    rw [lowerAfter_eq_lowerBetween, lowerBetween, lowered, startsCased_a]
    rfl
  rw [alone, behind]
  intro occurs
  have fewer : right.count 'σ' + 1 ≤ right.count 'σ' := by
    simpa using occurs.sublist.count_le 'σ'
  exact absurd fewer (Nat.not_succ_le_self _)

/-- Before a cased character a closing sigma is lost. -/
theorem not_infix_of_closesInSigma {characters : List Char}
    (closes : closesInSigma characters = true) :
    ¬lowerAfter [] characters <:+: lowerAfter [] (characters ++ ['a']) := by
  obtain ⟨left, right, lowered⟩ := exists_lowerBetween_of_closesInSigma closes
  have alone : lowerAfter [] characters = left ++ 'ς' :: right :=
    (lowerAfter_eq_lowerBetween [] characters).trans (lowered [])
  have ahead : lowerAfter [] (characters ++ ['a']) = left ++ 'σ' :: right ++ ['a'] := by
    rw [lowerAfter_eq_lowerBetween, lowerBetween_append, List.append_nil, lowered, startsCased_a]
    rfl
  rw [alone, ahead]
  intro occurs
  have fewer : right.count 'ς' + 1 ≤ right.count 'ς' := by
    simpa using occurs.sublist.count_le 'ς'
  exact absurd fewer (Nat.not_succ_le_self _)

end Understudy.Text
