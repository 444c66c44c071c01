import Mathlib.Data.List.Basic
import Mathlib.Tactic.MkIffOfInductiveProp
import Understudy.Http.Query
import Understudy.Proofs.NameMap
import Understudy.Proofs.Text.Search
import Understudy.Proofs.Text.Utf8

/-!
# Reading of queries

An encoded component reads back as what was encoded, and holds none of the characters that mean
something in a query, so that a query of encoded pairs reads back as these pairs.  The pairs of any
query are read from its parts one by one.  Queries can therefore be joined, and every part that is
not empty gives one value.
-/

namespace Understudy

namespace Http.Query

/-! ## Escapes -/

theorem percentDecode_cons_of_ne {octet : UInt8} (plain : octet ≠ 37) (rest : List UInt8) :
    percentDecode (octet :: rest) = octet :: percentDecode rest := by
  match rest with
  | [] => rfl
  | [_] => rfl
  | high :: low :: others => rw [percentDecode, escaped?, if_neg plain]

theorem percentDecode_escape {high low value : UInt8} (pair : hexPair? high low = some value)
    (rest : List UInt8) : percentDecode (37 :: high :: low :: rest) = value :: percentDecode rest := by
  rw [percentDecode, escaped?, if_pos rfl, pair]

theorem hexDigit?_hexCapital {digit : Nat} (bound : digit < 16) :
    hexDigit? (Text.octetOf (Text.hexCapital digit)) = some (UInt8.ofNat digit) := by
  have all : ∀ digit < 16,
      hexDigit? (Text.octetOf (Text.hexCapital digit)) = some (UInt8.ofNat digit) := by
    decide
  exact all digit bound

/-- The two digits of an octet are read as it. -/
theorem hexPair?_hexCapital (octet : UInt8) :
    hexPair? (Text.octetOf (Text.hexCapital (octet.toNat / 16)))
      (Text.octetOf (Text.hexCapital (octet.toNat % 16))) = some octet := by
  have bound : octet.toNat < 256 := octet.toNat_lt
  have value : UInt8.ofNat (octet.toNat / 16) * 16 + UInt8.ofNat (octet.toNat % 16) = octet := by
    apply UInt8.toNat_inj.mp
    rw [UInt8.toNat_add, UInt8.toNat_mul, UInt8.toNat_ofNat', UInt8.toNat_ofNat']
    change ((octet.toNat / 16 % 256 * 16) % 256 + octet.toNat % 16 % 256) % 256 = octet.toNat
    omega
  rw [hexPair?, hexDigit?_hexCapital (by omega), hexDigit?_hexCapital (by omega)]
  exact congrArg some value

/-! ## Characters of encoded components -/

/-- An ASCII character that reads as itself, or as the beginning of an escape. -/
@[mk_iff]
structure IsPlain (c : Char) : Prop where
  ascii : c.toNat < 0x80
  notSpace : c ≠ '+'
  notSeparator : c ≠ '&'
  notEquals : c ≠ '='
  notMark : c ≠ '?'

instance (c : Char) : Decidable (IsPlain c) :=
  decidable_of_iff' _ (isPlain_iff c)

theorem isPlain_hexCapital {digit : Nat} (bound : digit < 16) : IsPlain (Text.hexCapital digit) := by
  have all : ∀ digit < 16, IsPlain (Text.hexCapital digit) := by
    decide
  exact all digit bound

theorem toNat_ofNat_octet {octet : UInt8} : (Char.ofNat octet.toNat).toNat = octet.toNat := by
  have bound : octet.toNat < 256 := octet.toNat_lt
  rw [Char.ofNat, dif_pos (.inl (by omega))]
  rfl

theorem isPlain_of_isUnreserved {octet : UInt8} (unreserved : isUnreserved octet = true) :
    IsPlain (Char.ofNat octet.toNat) ∧ octet ≠ 37 := by
  simp only [isUnreserved, Bool.or_eq_true, Bool.and_eq_true, decide_eq_true_eq, beq_iff_eq,
    UInt8.le_iff_toNat_le, ← UInt8.toNat_inj, UInt8.reduceToNat] at unreserved
  have different : ∀ mark : Char, octet.toNat ≠ mark.toNat → Char.ofNat octet.toNat ≠ mark := by
    rintro mark distinct rfl
    exact distinct toNat_ofNat_octet.symm
  have ascii : (Char.ofNat octet.toNat).toNat < 0x80 := by
    rw [toNat_ofNat_octet]
    omega
  refine ⟨⟨ascii, different '+' ?_, different '&' ?_, different '=' ?_, different '?' ?_⟩, ?_⟩
  all_goals simp only [Char.reduceToNat, Ne, ← UInt8.toNat_inj, UInt8.reduceToNat]; omega

theorem octetOf_ofNat (octet : UInt8) : Text.octetOf (Char.ofNat octet.toNat) = octet := by
  rw [Text.octetOf, toNat_ofNat_octet, UInt8.ofNat_toNat]

theorem isPlain_of_mem_encodeOctet {c : Char} {octet : UInt8} (member : c ∈ encodeOctet octet) :
    IsPlain c := by
  have bound : octet.toNat < 256 := octet.toNat_lt
  rw [encodeOctet] at member
  split at member
  next unreserved =>
    obtain rfl := List.mem_singleton.mp member
    exact (isPlain_of_isUnreserved unreserved).1
  next =>
    rcases List.mem_cons.mp member with rfl | inPair
    · exact (by decide : IsPlain '%')
    · rw [Text.hexPair, List.mem_pair] at inPair
      rcases inPair with rfl | rfl
      · exact isPlain_hexCapital (by omega)
      · exact isPlain_hexCapital (by omega)

theorem isPlain_of_mem_encodeComponent {c : Char} {text : String}
    (member : c ∈ (encodeComponent text).toList) : IsPlain c := by
  rw [encodeComponent, String.toList_ofList] at member
  obtain ⟨octet, -, inOctet⟩ := List.mem_flatMap.mp member
  exact isPlain_of_mem_encodeOctet inOctet

/-! ## Components -/

/-- An encoded octet is decoded, whatever follows it. -/
theorem percentDecode_encodeOctet (octet : UInt8) (rest : List UInt8) :
    percentDecode ((encodeOctet octet).map Text.octetOf ++ rest) = octet :: percentDecode rest := by
  rw [encodeOctet]
  split
  next unreserved =>
    rw [List.map_singleton, octetOf_ofNat, List.singleton_append,
      percentDecode_cons_of_ne (isPlain_of_isUnreserved unreserved).2]
  next => exact percentDecode_escape (hexPair?_hexCapital octet) rest

@[simp]
theorem percentDecode_flatMap_encodeOctet (octets : List UInt8) :
    percentDecode ((octets.flatMap encodeOctet).map Text.octetOf) = octets := by
  induction octets with
  | nil => rfl
  | cons octet rest inductionHypothesis =>
      rw [List.flatMap_cons, List.map_append, percentDecode_encodeOctet, inductionHypothesis]

theorem plusToSpace_of_forall_ne {text : String} (free : ∀ c ∈ text.toList, c ≠ '+') :
    plusToSpace text = text := by
  have same : (text.toList.map fun c => if c = '+' then ' ' else c) = text.toList :=
    (List.map_congr_left fun c member => if_neg (free c member)).trans (List.map_id _)
  rw [plusToSpace, same, String.ofList_toList]

/-- Decoding takes encoding back. -/
@[simp]
theorem decodeComponent_encodeComponent (text : String) :
    decodeComponent (encodeComponent text) = text := by
  have noPlus : plusToSpace (encodeComponent text) = encodeComponent text :=
    plusToSpace_of_forall_ne fun c member => (isPlain_of_mem_encodeComponent member).notSpace
  have octets : (Text.encode (encodeComponent text)).data.toList =
      ((Text.encode text).data.toList.flatMap encodeOctet).map Text.octetOf := by
    refine Text.octets_ofList_of_ascii fun c member => ?_
    exact (isPlain_of_mem_encodeComponent (by rwa [encodeComponent, String.toList_ofList])).ascii
  rw [decodeComponent, noPlus, octets, percentDecode_flatMap_encodeOctet]
  have same : (Text.encode text).data.toList.toByteArray = Text.encode text := by
    rw [ByteArray.ext_iff, List.data_toByteArray, Array.toArray_toList]
  rw [same, Text.decode?_encode, Option.getD_some]

/-! ## Pairs -/

theorem toList_encodePair (pair : String × String) :
    (encodePair pair).toList =
      (encodeComponent pair.1).toList ++ '=' :: (encodeComponent pair.2).toList := by
  rw [encodePair, String.toList_append, String.toList_append, List.append_assoc]
  rfl

@[simp]
theorem splitPair_encodePair (pair : String × String) :
    splitPair (encodePair pair).toList = (encodeComponent pair.1, encodeComponent pair.2) := by
  have free : '=' ∉ (encodeComponent pair.1).toList := fun member =>
    (isPlain_of_mem_encodeComponent member).notEquals rfl
  rw [splitPair, toList_encodePair, Text.splitAtFirst_append free]
  simp only [String.ofList_toList]

/-- The decoded pair of one part. -/
def pairOf (part : List Char) : String × String :=
  (decodeComponent (splitPair part).1, decodeComponent (splitPair part).2)

theorem pairs_eq_map (query : String) : pairs query = (parts query).map pairOf :=
  rfl

@[simp]
theorem pairOf_encodePair (pair : String × String) : pairOf (encodePair pair).toList = pair := by
  simp [pairOf]

/-- Encoded pairs hold no separator of pairs and no question mark. -/
theorem ne_of_mem_encodePair {c mark : Char} {pair : String × String}
    (member : c ∈ (encodePair pair).toList) (notEquals : mark ≠ '=') (notPlain : ¬IsPlain mark) :
    c ≠ mark := by
  rintro rfl
  rw [toList_encodePair, List.mem_append, List.mem_cons] at member
  rcases member with inKey | isEquals | inValue
  · exact notPlain (isPlain_of_mem_encodeComponent inKey)
  · exact notEquals isEquals
  · exact notPlain (isPlain_of_mem_encodeComponent inValue)

theorem encodePair_ne_nil (pair : String × String) : (encodePair pair).toList ≠ [] := by
  rw [toList_encodePair]
  exact List.append_ne_nil_of_right_ne_nil _ (List.cons_ne_nil _ _)

/-! ## Parts -/

theorem parts_eq_filter_splitOn (query : String) :
    parts query =
      ((query.toList.dropWhile (· == '?')).splitOn '&').filter fun part => !part.isEmpty := by
  rw [parts, Text.splitAtEach_eq_splitOn]

theorem dropWhile_of_head?_ne {characters : List Char} (different : characters.head? ≠ some '?') :
    characters.dropWhile (· == '?') = characters := by
  cases characters with
  | nil => rfl
  | cons c rest =>
      have unequal : c ≠ '?' := fun equal => different (congrArg some equal)
      exact List.dropWhile_cons_of_neg (by simpa using unequal)

/-- Only question marks before the first separator are dropped. -/
theorem dropWhile_append_separator (first second : List Char) :
    (first ++ '&' :: second).dropWhile (· == '?') =
      first.dropWhile (· == '?') ++ '&' :: second := by
  induction first with
  | nil => rfl
  | cons c rest inductionHypothesis =>
      rw [List.cons_append, List.dropWhile_cons, List.dropWhile_cons, inductionHypothesis]
      split <;> rfl

theorem parts_append {second : String} (different : second.toList.head? ≠ some '?')
    (first : String) : parts (first ++ "&" ++ second) = parts first ++ parts second := by
  have split : (first ++ "&" ++ second).toList = first.toList ++ '&' :: second.toList := by
    rw [String.toList_append, String.toList_append, List.append_assoc]
    rfl
  rw [parts_eq_filter_splitOn, split, dropWhile_append_separator, List.splitOn_append_cons_self,
    List.filter_append, parts_eq_filter_splitOn, parts_eq_filter_splitOn,
    dropWhile_of_head?_ne different]

theorem toList_encode (given : List (String × String)) :
    (encode given).toList = ['&'].intercalate (given.map fun pair => (encodePair pair).toList) := by
  rw [encode, String.toList_intercalate, List.map_map]
  rfl

theorem head?_encode_ne (given : List (String × String)) :
    (encode given).toList.head? ≠ some '?' := by
  rw [toList_encode]
  cases given with
  | nil => exact nofun
  | cons pair rest =>
      have first : (['&'].intercalate ((pair :: rest).map fun pair => (encodePair pair).toList)).head? =
          (encodePair pair).toList.head? := by
        cases rest with
        | nil => rw [List.map_singleton, List.intercalate_singleton]
        | cons other others =>
            rw [List.map_cons, List.map_cons, List.intercalate_cons_cons, List.append_assoc,
              List.head?_append_of_ne_nil _ (encodePair_ne_nil pair)]
      rw [first]
      intro isMark
      exact ne_of_mem_encodePair (List.mem_of_head? isMark) (by decide) (by decide) rfl

/-- The parts of a query of encoded pairs are these pairs. -/
@[simp]
theorem parts_encode (given : List (String × String)) :
    parts (encode given) = given.map fun pair => (encodePair pair).toList := by
  rw [parts_eq_filter_splitOn, dropWhile_of_head?_ne (head?_encode_ne given), toList_encode]
  cases given with
  | nil => rfl
  | cons pair rest =>
      have free : ∀ part ∈ (pair :: rest).map fun pair => (encodePair pair).toList,
          '&' ∉ part := by
        intro part member inPart
        obtain ⟨pair, -, rfl⟩ := List.mem_map.mp member
        exact ne_of_mem_encodePair inPart (by decide) (by decide) rfl
      rw [List.splitOn_intercalate '&' free (by simp), List.filter_eq_self]
      intro part member
      obtain ⟨pair, -, rfl⟩ := List.mem_map.mp member
      simpa using encodePair_ne_nil pair

@[simp]
theorem pairs_encode (given : List (String × String)) : pairs (encode given) = given := by
  simp [pairs_eq_map, Function.comp_def]

theorem pairs_append {second : String} (different : second.toList.head? ≠ some '?')
    (first : String) : pairs (first ++ "&" ++ second) = pairs first ++ pairs second := by
  rw [pairs_eq_map, parts_append different, List.map_append, pairs_eq_map, pairs_eq_map]

/-! ## Values -/

/-- The values that pairs give under a key, in their order. -/
def valuesUnder (key : String) (given : List (String × String)) : List String :=
  (given.filter fun pair => pair.1 == key).map Prod.snd

theorem find?_parse_eq_some_iff {query key : String} {values : List String} :
    (parse query).find? key = some values ↔
      values ≠ [] ∧ values = valuesUnder key (pairs query) :=
  NameMap.find?_foldl_append_eq_some_iff

theorem getD_find?_parse (query key : String) :
    ((parse query).find? key).getD [] = valuesUnder key (pairs query) :=
  NameMap.getD_find?_foldl_append (pairs query) NameMap.empty key

theorem parse_values_ne_nil (query : String) : ∀ entry ∈ (parse query).entries, entry.2 ≠ [] :=
  NameMap.values_ne_nil_of_foldl_append (pairs query) nofun

end Http.Query

open Http.Query

/-- A query of encoded pairs gives under each key the values of its pairs in their order, and no
other keys.  Queries joined by a separator give under each key the values of the first and then those
of the second, and every query gives as many values as it has parts that are not empty, question
marks before them aside. -/
theorem encoded_query_reads_back_and_no_part_is_lost :
    (∀ (given : List (String × String)) (key : String) (values : List String),
      (parse (encode given)).find? key = some values ↔
        values ≠ [] ∧ values = valuesUnder key given) ∧
    (∀ first second : String, second.toList.head? ≠ some '?' →
      ∀ (key : String) (values : List String),
        (parse (first ++ "&" ++ second)).find? key = some values ↔
          values ≠ [] ∧ values =
            ((parse first).find? key).getD [] ++ ((parse second).find? key).getD []) ∧
    ∀ query : String, ((parse query).entries.flatMap Prod.snd).length =
      (((query.toList.dropWhile (· == '?')).splitOn '&').filter fun part => !part.isEmpty).length := by
  refine ⟨fun given key values => ?_, fun first second different key values => ?_,
    fun query => ?_⟩
  · rw [find?_parse_eq_some_iff, pairs_encode]
  · rw [find?_parse_eq_some_iff, pairs_append different, getD_find?_parse, getD_find?_parse,
      valuesUnder, List.filter_append, List.map_append]
    rfl
  · rw [← NameMap.map_snd_pairs, List.length_map, parse,
      (NameMap.pairs_foldl_append_perm _).length_eq, pairs_eq_map, List.length_map,
      parts_eq_filter_splitOn]

end Understudy
