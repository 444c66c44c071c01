import Understudy.Proofs.Text.Case

/-!
# Replacement at octet offsets

A replacement keeps the characters before the first occurrence, puts the new ones in place of it and
goes on behind it; the search for octet offsets passes the same characters.  Making ASCII letters
small keeps the offsets, so that what is found in the copy can be cut out of the text itself.
-/

namespace Understudy.Text

variable {same : Char → Char → Bool} {old new before behind : List Char}

/-! ## Where the first occurrence begins -/

/-- No occurrence of `old` begins within `before`, where `behind` follows. -/
def BeginsNotIn (same : Char → Char → Bool) (old before behind : List Char) : Prop :=
  ∀ ahead, ahead <:+ before → ahead ≠ [] → startsWithBy same old (ahead ++ behind) = false

theorem beginsNotIn_cons_iff {c : Char} :
    BeginsNotIn same old (c :: before) behind ↔
      startsWithBy same old (c :: (before ++ behind)) = false ∧
        BeginsNotIn same old before behind := by
  constructor
  · intro free
    exact ⟨free _ List.suffix_rfl (List.cons_ne_nil c before),
      fun ahead suffix => free ahead (suffix.trans (List.suffix_cons c before))⟩
  · rintro ⟨here, free⟩ ahead suffix nonempty
    rcases List.suffix_cons_iff.mp suffix with rfl | suffix
    · exact here
    · exact free ahead suffix nonempty

theorem replaceFrom_eq_drop (skip : Nat) (characters : List Char) :
    replaceFrom same old new skip characters =
      replaceFrom same old new 0 (characters.drop skip) := by
  induction characters generalizing skip with
  | nil => rw [List.drop_nil, replaceFrom, replaceFrom]
  | cons c rest inductionHypothesis =>
      cases skip with
      | zero => rfl
      | succ skip => rw [replaceFrom, inductionHypothesis, List.drop_succ_cons]

theorem replaceFrom_append (new : List Char) (free : BeginsNotIn same old before behind) :
    replaceFrom same old new 0 (before ++ behind) =
      before ++ replaceFrom same old new 0 behind := by
  induction before with
  | nil => rfl
  | cons c rest inductionHypothesis =>
      obtain ⟨here, free⟩ := beginsNotIn_cons_iff.mp free
      rw [List.cons_append, replaceFrom, if_neg (Bool.eq_false_iff.mp here),
        inductionHypothesis free, List.cons_append]

theorem replaceFrom_of_startsWithBy {characters : List Char} (nonempty : old ≠ [])
    (occurs : startsWithBy same old characters = true) :
    replaceFrom same old new 0 characters =
      new ++ replaceFrom same old new 0 (characters.drop old.length) := by
  obtain ⟨wanted, pattern, rfl⟩ := List.exists_cons_of_ne_nil nonempty
  cases characters with
  | nil => cases occurs
  | cons c rest =>
      rw [replaceFrom, if_pos occurs, replaceFrom_eq_drop]
      rfl

theorem replaceFrom_congr {same' : Char → Char → Bool} {characters : List Char}
    (agree : ∀ rest, rest <:+ characters →
      startsWithBy same old rest = startsWithBy same' old rest) (new : List Char) (skip : Nat) :
    replaceFrom same old new skip characters = replaceFrom same' old new skip characters := by
  induction characters generalizing skip with
  | nil => rw [replaceFrom, replaceFrom]
  | cons c rest inductionHypothesis =>
      have onwards := inductionHypothesis fun behind suffix =>
        agree behind (suffix.trans (List.suffix_cons c rest))
      cases skip with
      | zero => rw [replaceFrom, agree _ List.suffix_rfl, onwards, onwards, replaceFrom]
      | succ skip => rw [replaceFrom, onwards, replaceFrom]

/-! ## Offsets of the occurrences -/

/-- The number of octets that the characters take. -/
def octetCount (characters : List Char) : Nat :=
  (String.ofList characters).utf8ByteSize

theorem octetCount_append (first second : List Char) :
    octetCount (first ++ second) = octetCount first + octetCount second := by
  rw [octetCount, String.ofList_append, String.utf8ByteSize_append, octetCount, octetCount]

theorem octetCount_cons (c : Char) (rest : List Char) :
    octetCount (c :: rest) = c.utf8Size + octetCount rest := by
  rw [← List.singleton_append, octetCount_append, octetCount, ← String.singleton_eq_ofList,
    String.utf8ByteSize_singleton]

theorem octetCount_toList (text : String) : octetCount text.toList = text.utf8ByteSize := by
  rw [octetCount, String.ofList_toList]

/-- The octet offsets at which occurrences of `old` begin, leftmost first and without overlaps,
once `skip` more characters of the last occurrence have been passed. -/
def offsetsFrom (same : Char → Char → Bool) (old : List Char) :
    Nat → Nat → List Char → List Nat
  | _, _, [] => []
  | offset, 0, c :: rest =>
      if startsWithBy same old (c :: rest) then
        offset :: offsetsFrom same old (offset + c.utf8Size) (old.length - 1) rest
      else offsetsFrom same old (offset + c.utf8Size) 0 rest
  | offset, skip + 1, c :: rest => offsetsFrom same old (offset + c.utf8Size) skip rest

theorem offsetsFrom_eq_drop (offset skip : Nat) (characters : List Char) :
    offsetsFrom same old offset skip characters =
      offsetsFrom same old (offset + octetCount (characters.take skip)) 0
        (characters.drop skip) := by
  induction characters generalizing offset skip with
  | nil => rw [List.drop_nil, offsetsFrom, offsetsFrom]
  | cons c rest inductionHypothesis =>
      cases skip with
      | zero => rfl
      | succ skip =>
          rw [offsetsFrom, inductionHypothesis, List.take_succ_cons, octetCount_cons,
            List.drop_succ_cons, Nat.add_assoc]

theorem offsetsFrom_append (offset : Nat) (free : BeginsNotIn same old before behind) :
    offsetsFrom same old offset 0 (before ++ behind) =
      offsetsFrom same old (offset + octetCount before) 0 behind := by
  induction before generalizing offset with
  | nil => rfl
  | cons c rest inductionHypothesis =>
      obtain ⟨here, free⟩ := beginsNotIn_cons_iff.mp free
      rw [List.cons_append, offsetsFrom, if_neg (Bool.eq_false_iff.mp here),
        inductionHypothesis _ free, octetCount_cons, Nat.add_assoc]

theorem offsetsFrom_of_startsWithBy (offset : Nat) {characters : List Char} (nonempty : old ≠ [])
    (occurs : startsWithBy same old characters = true) :
    offsetsFrom same old offset 0 characters =
      offset :: offsetsFrom same old (offset + octetCount (characters.take old.length)) 0
        (characters.drop old.length) := by
  obtain ⟨wanted, pattern, rfl⟩ := List.exists_cons_of_ne_nil nonempty
  cases characters with
  | nil => cases occurs
  | cons c rest =>
      rw [offsetsFrom, if_pos occurs, offsetsFrom_eq_drop, List.length_cons, List.take_succ_cons,
        octetCount_cons, Nat.add_assoc]
      rfl

/-! ## Small letters -/

theorem octetCount_map_toLower (characters : List Char) :
    octetCount (characters.map Char.toLower) = octetCount characters := by
  induction characters with
  | nil => rfl
  | cons c rest inductionHypothesis =>
      rw [List.map_cons, octetCount_cons, inductionHypothesis, utf8Size_toLower, octetCount_cons]

theorem utf8ByteSize_asciiLower (text : String) :
    (asciiLower text).utf8ByteSize = text.utf8ByteSize := by
  rw [← octetCount_toList, asciiLower, String.toList_ofList, octetCount_map_toLower,
    octetCount_toList]

/-- The offsets found in the copy with small letters are those in the characters themselves. -/
theorem offsetsFrom_map_toLower (offset skip : Nat) (characters : List Char) :
    offsetsFrom (· == ·) (old.map Char.toLower) offset skip (characters.map Char.toLower) =
      offsetsFrom sameLetter old offset skip characters := by
  induction characters generalizing offset skip with
  | nil => rw [List.map_nil, offsetsFrom, offsetsFrom]
  | cons c rest inductionHypothesis =>
      cases skip with
      | zero =>
          rw [List.map_cons, offsetsFrom, ← List.map_cons, startsWithBy_map_toLower,
            utf8Size_toLower, List.length_map, inductionHypothesis, inductionHypothesis,
            offsetsFrom]
      | succ skip =>
          rw [List.map_cons, offsetsFrom, utf8Size_toLower, inductionHypothesis, offsetsFrom]

/-! ## Slices -/

/-- The part of the text between two octet offsets, if both lie at ends of characters and in this
order. -/
def slice? (text : String) (start stop : Nat) : Option String := do
  let first ← text.pos? ⟨start⟩
  let last ← text.pos? ⟨stop⟩
  let slice ← text.slice? first last
  return slice.copy

/-- The number of octets of the first part is the offset at which the text splits. -/
theorem pos?_of_splits {text first second : String} {position : text.Pos}
    (splits : position.Splits first second) :
    text.pos? ⟨first.utf8ByteSize⟩ = some position := by
  have offset : (⟨first.utf8ByteSize⟩ : String.Pos.Raw) = position.offset :=
    splits.offset_eq_rawEndPos.symm
  have valid : position.offset.isValidForSlice text.toSlice = true :=
    String.Pos.Raw.isValidForSlice_eq_true_iff.mpr position.toSlice.isValidForSlice
  rw [String.pos?, String.Slice.pos?, offset, dif_pos valid]
  rfl

theorem slice?_append (before kept behind : String) :
    slice? (before ++ kept ++ behind) before.utf8ByteSize (before ++ kept).utf8ByteSize =
      some kept := by
  have first := String.Pos.splits_ofEqAppend (String.append_assoc : before ++ kept ++ behind = _)
  have last := String.Pos.splits_ofEqAppend (rfl : before ++ kept ++ behind = _)
  obtain ⟨ordered, copied⟩ :=
    String.copy_slice_eq_iff_splits.mpr ⟨before, behind, first, last⟩
  rw [slice?, pos?_of_splits first, pos?_of_splits last]
  simp only [Option.bind_eq_bind, Option.bind_some, String.slice?, dif_pos ordered, copied]
  rfl

/-- The text with `width` octets behind each offset replaced, and kept from the offset `last` on. -/
def spliceFrom? (text new : String) (width last : Nat) : List Nat → Option String
  | [] => slice? text last text.utf8ByteSize
  | start :: starts => do
      let kept ← slice? text last start
      let rest ← spliceFrom? text new width (start + width) starts
      return kept ++ new ++ rest

end Understudy.Text
