import Understudy.Json.Reader
import Understudy.Proofs.Decimal.Scaled
import Understudy.Proofs.Json.Agreement

/-!
# Values of documents

The reader returns nothing but well-formed values: a number is read by arithmetic that gives no
NaN, and an object is built by insertions that keep its keys in ascending order.
-/

namespace Understudy.Json

/-! ## Well-formed arrays and objects -/

theorem wellFormed_decimal {value : Float} (number : value.isNaN = false) :
    (Json.decimal value).WellFormed :=
  ⟨trivial, number⟩

theorem wellFormed_array {items : List Json} (wellFormed : ∀ item ∈ items, item.WellFormed) :
    (Json.array items).WellFormed := by
  have both : OrderedItems items ∧ NumericItems items := by
    induction items with
    | nil => exact ⟨trivial, trivial⟩
    | cons item rest inductionHypothesis =>
        obtain ⟨ordered, numeric⟩ := wellFormed item List.mem_cons_self
        obtain ⟨orderedRest, numericRest⟩ := inductionHypothesis fun later member =>
          wellFormed later (List.mem_cons_of_mem _ member)
        exact ⟨⟨ordered, orderedRest⟩, ⟨numeric, numericRest⟩⟩
  exact ⟨both.1, both.2⟩

theorem wellFormed_object {members : List (String × Json)}
    (ascending : members.Pairwise fun first second => first.1 < second.1)
    (wellFormed : ∀ member ∈ members, member.2.WellFormed) :
    (Json.object members).WellFormed := by
  have both : OrderedMembers members ∧ NumericMembers members := by
    clear ascending
    induction members with
    | nil => exact ⟨trivial, trivial⟩
    | cons head rest inductionHypothesis =>
        obtain ⟨ordered, numeric⟩ := wellFormed head List.mem_cons_self
        obtain ⟨orderedRest, numericRest⟩ := inductionHypothesis fun later member =>
          wellFormed later (List.mem_cons_of_mem _ member)
        exact ⟨⟨ordered, orderedRest⟩, ⟨numeric, numericRest⟩⟩
  exact ⟨⟨ascending, both.1⟩, both.2⟩

theorem wellFormed_ofMembers {members : List (String × Json)}
    (wellFormed : ∀ member ∈ members, member.2.WellFormed) : (ofMembers members).WellFormed :=
  wellFormed_object (NameMap.ofList members).ascending (NameMap.forall_mem_ofList wellFormed)

/-! ## Numbers -/

/-- Whatever value the reading returns is well formed. -/
def ReadsWellFormed (reading : Reading Json) : Prop :=
  ∀ value rest, reading = .ok (value, rest) → value.WellFormed

theorem readsWellFormed_ok {value : Json} {rest : List Char} (wellFormed : value.WellFormed) :
    ReadsWellFormed (.ok (value, rest)) := by
  rintro _ _ ⟨⟩
  exact wellFormed

theorem readsWellFormed_error (failure : Failure) : ReadsWellFormed (.error failure) :=
  nofun

theorem readsWellFormed_name {value : Json} (wellFormed : value.WellFormed)
    (name characters : List Char) : ReadsWellFormed (readName value name characters) := by
  induction name generalizing characters with
  | nil => exact readsWellFormed_ok wellFormed
  | cons wanted name inductionHypothesis =>
      cases characters with
      | nil => exact readsWellFormed_error _
      | cons c rest =>
          rw [readName]
          split
          · exact inductionHypothesis rest
          · exact readsWellFormed_error _

theorem readsWellFormed_scaled (negative : Bool) (significand : Nat) (exponent : Int)
    (rest : List Char) : ReadsWellFormed (readScaled negative significand exponent rest) := by
  unfold readScaled
  split
  · next value scaled =>
      have number := Decimal.isNaN_of_scaled?_eq_some scaled
      refine readsWellFormed_ok (wellFormed_decimal ?_)
      split
      · exact isNaN_neg number
      · exact number
  · exact readsWellFormed_error _

theorem readsWellFormed_exponent (negative : Bool) (significand : Nat) (scale : Int)
    (characters : List Char) :
    ReadsWellFormed (readExponent negative significand scale characters) := by
  unfold readExponent
  split
  next down unsigned signed =>
  dsimp only
  split
  · exact readsWellFormed_error _
  · split
    · exact readsWellFormed_error _
    · split
      · exact readsWellFormed_scaled _ _ _ _
      · split
        · exact readsWellFormed_error _
        · refine readsWellFormed_ok (wellFormed_decimal ?_)
          cases negative <;> decide

theorem readsWellFormed_scaleTail (negative : Bool) (significand : Nat) (scale : Int)
    (characters : List Char) :
    ReadsWellFormed (readScaleTail negative significand scale characters) := by
  unfold readScaleTail
  split
  · exact readsWellFormed_exponent _ _ _ _
  · exact readsWellFormed_exponent _ _ _ _
  · exact readsWellFormed_scaled _ _ _ _

theorem readsWellFormed_fraction (negative : Bool) (significand : Nat) (scale : Int)
    (characters : List Char) :
    ReadsWellFormed (readFraction negative significand scale characters) := by
  simp only [readFraction]
  split
  · split <;> exact readsWellFormed_error _
  · exact readsWellFormed_scaleTail _ _ _ _

theorem wellFormed_wholeNumber (negative : Bool) (significand : Nat) :
    (wholeNumber negative significand).WellFormed := by
  unfold wholeNumber
  split
  · exact ⟨trivial, trivial⟩
  · split
    · exact wellFormed_decimal (isNaN_neg (isNaN_toFloat _))
    · exact ⟨trivial, trivial⟩

theorem readsWellFormed_numberTail (negative : Bool) (significand excess : Nat)
    (rest : List Char) :
    ReadsWellFormed (readNumberTail negative significand excess rest) := by
  unfold readNumberTail
  split
  · exact readsWellFormed_fraction _ _ _ _
  · exact readsWellFormed_exponent _ _ _ _
  · exact readsWellFormed_exponent _ _ _ _
  · split
    · exact readsWellFormed_ok (wellFormed_wholeNumber _ _)
    · exact readsWellFormed_scaled _ _ _ _

theorem readsWellFormed_number (negative : Bool) (characters : List Char) :
    ReadsWellFormed (readNumber negative characters) := by
  unfold readNumber
  split
  · exact readsWellFormed_error _
  · split
    · exact readsWellFormed_error _
    · exact readsWellFormed_numberTail _ _ _ _
  · split
    · exact readsWellFormed_error _
    · exact readsWellFormed_numberTail _ _ _ _

/-! ## Arrays and objects -/

theorem readsWellFormed_items {readItem : List Char → Reading Json}
    (readsItem : ∀ characters, ReadsWellFormed (readItem characters)) (bound : Nat)
    {reversed : List Json} (earlier : ∀ item ∈ reversed, item.WellFormed)
    (characters : List Char) :
    ReadsWellFormed (readItems readItem bound reversed characters) := by
  induction bound generalizing reversed characters with
  | zero => exact readsWellFormed_error _
  | succ bound inductionHypothesis =>
      rw [readItems]
      split
      · exact readsWellFormed_error _
      · next item rest read =>
          have known : ∀ other ∈ item :: reversed, other.WellFormed :=
            List.forall_mem_cons.mpr ⟨readsItem characters item rest read, earlier⟩
          split
          · exact readsWellFormed_error _
          · refine readsWellFormed_ok (wellFormed_array fun other member => ?_)
            exact known other (List.mem_reverse.mp member)
          · split
            · exact readsWellFormed_error _
            · exact readsWellFormed_error _
            · exact inductionHypothesis known _
          · exact readsWellFormed_error _

theorem readsWellFormed_members {readItem : List Char → Reading Json}
    (readsItem : ∀ characters, ReadsWellFormed (readItem characters)) (bound : Nat)
    {reversed : List (String × Json)} (earlier : ∀ member ∈ reversed, member.2.WellFormed)
    (characters : List Char) :
    ReadsWellFormed (readMembers readItem bound reversed characters) := by
  induction bound generalizing reversed characters with
  | zero => exact readsWellFormed_error _
  | succ bound inductionHypothesis =>
      rw [readMembers]
      split
      · exact readsWellFormed_error _
      · split
        · exact readsWellFormed_error _
        · next key afterKey _ _ afterColon _ =>
            split
            · exact readsWellFormed_error _
            · next value rest read =>
                have known : ∀ member ∈ (key, value) :: reversed, member.2.WellFormed :=
                  List.forall_mem_cons.mpr ⟨readsItem afterColon value rest read, earlier⟩
                split
                · exact readsWellFormed_error _
                · refine readsWellFormed_ok (wellFormed_ofMembers fun member inList => ?_)
                  exact known member (List.mem_reverse.mp inList)
                · split
                  · exact readsWellFormed_error _
                  · exact inductionHypothesis known _
                  · exact readsWellFormed_error _
                  · exact readsWellFormed_error _
                · exact readsWellFormed_error _
        · exact readsWellFormed_error _

/-- Every value that is read at any depth is well formed. -/
theorem readsWellFormed_value (bound depth : Nat) (characters : List Char) :
    ReadsWellFormed (readValue bound depth characters) := by
  induction depth generalizing characters with
  | zero => exact readsWellFormed_error _
  | succ depth inductionHypothesis =>
      have null : Json.null.WellFormed := ⟨trivial, trivial⟩
      have boolean (value : Bool) : (Json.boolean value).WellFormed := ⟨trivial, trivial⟩
      rw [readValue]
      split
      · exact readsWellFormed_error _
      · exact readsWellFormed_name null _ _
      · exact readsWellFormed_name (boolean true) _ _
      · exact readsWellFormed_name (boolean false) _ _
      · exact readsWellFormed_number _ _
      · split
        · exact readsWellFormed_error _
        · exact readsWellFormed_ok ⟨trivial, trivial⟩
      · split
        · exact readsWellFormed_error _
        · split
          · exact readsWellFormed_error _
          · exact readsWellFormed_ok (wellFormed_array nofun)
          · exact readsWellFormed_items inductionHypothesis bound (List.forall_mem_nil _) _
      · split
        · exact readsWellFormed_error _
        · split
          · exact readsWellFormed_error _
          · exact readsWellFormed_ok (wellFormed_object .nil nofun)
          · exact readsWellFormed_members inductionHypothesis bound (List.forall_mem_nil _) _
          · exact readsWellFormed_error _
      · split
        · exact readsWellFormed_number _ _
        · exact readsWellFormed_error _

/-- A document holds a well-formed value. -/
theorem wellFormed_of_parse_eq_ok {text : String} {value : Json}
    (parsed : parse text = .ok value) : value.WellFormed := by
  unfold parse readDocument at parsed
  split at parsed
  · next document =>
      cases parsed
      split at document
      · cases document
      · next read =>
          split at document
          · cases document
            exact readsWellFormed_value _ _ _ _ _ read
          · cases document
  · cases parsed

end Understudy.Json
