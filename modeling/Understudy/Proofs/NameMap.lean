import Understudy.NameMap

/-!
# Look-ups in name maps

The names of a map ascend strictly, so the entry of a name is the only one, and a look-up finds
every entry under its own name.  An insertion decides the look-up of its own name and leaves those
of all other names alone.  What holds of all entries survives an insertion if it holds of the new
entry.  Entries of different names can be inserted in any order.  In a map of lists that is filled
value by value, the values that are given under one name stand in their order, and there are no
others.
-/

namespace Understudy.NameMap

universe u v

variable {β : Type u}

/-- A look-up among entries of different names finds each of them and nothing else. -/
theorem lookup_eq_some_iff_mem {entries : List (String × β)}
    (nodup : (entries.map Prod.fst).Nodup) {name : String} {value : β} :
    entries.lookup name = some value ↔ (name, value) ∈ entries := by
  constructor
  · intro found
    obtain ⟨before, after, rfl, -⟩ := List.lookup_eq_some_iff.mp found
    simp
  · intro member
    obtain ⟨before, after, rfl⟩ := List.append_of_mem member
    refine List.lookup_eq_some_iff.mpr ⟨before, after, rfl, fun other inFront => ?_⟩
    rw [List.map_append, List.nodup_append] at nodup
    have different : other.1 ≠ name :=
      nodup.2.2 other.1 (List.mem_map_of_mem inFront) name (by simp)
    exact bne_iff_ne.mpr different.symm

theorem nodup_names_of_ascending {entries : List (String × β)}
    (ascending : entries.Pairwise fun first second => first.1 < second.1) :
    (entries.map Prod.fst).Nodup :=
  (List.pairwise_map.mpr ascending).imp String.ne_of_lt

/-- A look-up among entries with ascending names finds each of them. -/
theorem lookup_eq_some_of_mem {entries : List (String × β)}
    (ascending : entries.Pairwise fun first second => first.1 < second.1) {entry : String × β}
    (member : entry ∈ entries) : entries.lookup entry.1 = some entry.2 :=
  (lookup_eq_some_iff_mem (nodup_names_of_ascending ascending)).mpr member

/-- Entries with ascending names are told by which they are. -/
theorem eq_of_perm {first second : List (String × β)} (perm : first.Perm second)
    (firstAscending : first.Pairwise fun first second => first.1 < second.1)
    (secondAscending : second.Pairwise fun first second => first.1 < second.1) : first = second :=
  perm.eq_of_pairwise (fun _ _ _ _ less greater => absurd less (String.lt_asymm greater))
    firstAscending secondAscending

/-- The order of entries of different names is nothing to a look-up. -/
theorem lookup_of_perm {first second : List (String × β)} (perm : first.Perm second)
    (nodup : (first.map Prod.fst).Nodup) (name : String) :
    first.lookup name = second.lookup name := by
  ext value
  rw [lookup_eq_some_iff_mem nodup,
    lookup_eq_some_iff_mem ((perm.map Prod.fst).nodup_iff.mp nodup), perm.mem_iff]

theorem find?_eq_some_iff_mem (map : NameMap β) {name : String} {value : β} :
    map.find? name = some value ↔ (name, value) ∈ map.entries :=
  lookup_eq_some_iff_mem (nodup_names_of_ascending map.ascending)

theorem find?_eq_some_of_mem (map : NameMap β) {entry : String × β}
    (member : entry ∈ map.entries) : map.find? entry.1 = some entry.2 :=
  lookup_eq_some_of_mem map.ascending member

/-- A look-up among entries decides on the first one. -/
theorem lookup_cons (entry : String × β) (entries : List (String × β)) (name : String) :
    (entry :: entries).lookup name =
      if name = entry.1 then some entry.2 else entries.lookup name := by
  rcases entry with ⟨key, value⟩
  by_cases same : name = key
  · rw [if_pos same, same, List.lookup_cons_self]
  · rw [if_neg same, List.lookup_cons, beq_eq_false_iff_ne.mpr same]

theorem lookup_insertEntry (name other : String) (value : β) (entries : List (String × β)) :
    (insertEntry name value entries).lookup other =
      if other = name then some value else entries.lookup other := by
  induction entries with
  | nil => exact lookup_cons (name, value) [] other
  | cons head rest inductionHypothesis =>
      simp only [insertEntry]
      split
      · exact lookup_cons (name, value) (head :: rest) other
      · split
        next after =>
          have different : head.1 ≠ name := String.ne_of_lt after
          rw [lookup_cons, lookup_cons, inductionHypothesis]
          by_cases first : other = head.1
          · rw [if_pos first, if_neg (first ▸ different), if_pos first]
          · rw [if_neg first, if_neg first]
        next notBefore notAfter =>
          have equal : name = head.1 :=
            String.le_antisymm (String.not_lt.mp notAfter) (String.not_lt.mp notBefore)
          rw [lookup_cons, lookup_cons, ← equal]
          by_cases same : other = name
          · rw [if_pos same, if_pos same]
          · rw [if_neg same, if_neg same, if_neg same]

/-- An insertion decides the look-up of its own name and leaves all others alone. -/
theorem find?_insert (map : NameMap β) (name other : String) (value : β) :
    (map.insert name value).find? other = if other = name then some value else map.find? other :=
  lookup_insertEntry name other value map.entries

theorem contains_eq_true_iff (map : NameMap β) (name : String) :
    map.contains name = true ↔ ∃ value, map.find? name = some value :=
  Option.isSome_iff_exists

theorem contains_eq_false_iff (map : NameMap β) (name : String) :
    map.contains name = false ↔ map.find? name = none :=
  Option.isSome_eq_false_iff.trans Option.isNone_iff_eq_none

theorem contains_insert_iff (map : NameMap β) (name other : String) (value : β) :
    (map.insert name value).contains other = true ↔ other = name ∨ map.contains other = true := by
  rw [contains, find?_insert]
  split
  next same => simp [same]
  next different => simp [different, contains]

/-- After several insertions a look-up finds the last value given under its name, if there is
one. -/
theorem find?_foldl_insert (pairs : List (String × β)) (map : NameMap β) (name : String) :
    (pairs.foldl (fun map pair => map.insert pair.1 pair.2) map).find? name =
      ((pairs.filter fun pair => pair.1 == name).getLast?.map Prod.snd).or (map.find? name) := by
  induction pairs generalizing map with
  | nil => rfl
  | cons pair rest inductionHypothesis =>
      rw [List.foldl_cons, inductionHypothesis, find?_insert]
      by_cases same : pair.1 = name
      · rw [List.filter_cons_of_pos (by simpa using same), if_pos same.symm, List.getLast?_cons]
        cases (rest.filter fun pair => pair.1 == name).getLast? <;> rfl
      · rw [List.filter_cons_of_neg (by simpa using same), if_neg (Ne.symm same)]

/-- Insertions under other names leave a look-up alone. -/
theorem find?_foldl_insert_of_forall_ne {pairs : List (String × β)} {name : String}
    (others : ∀ pair ∈ pairs, pair.1 ≠ name) (map : NameMap β) :
    (pairs.foldl (fun map pair => map.insert pair.1 pair.2) map).find? name = map.find? name := by
  have none : (pairs.filter fun pair => pair.1 == name) = [] :=
    List.filter_eq_nil_iff.mpr fun pair member => by simpa using others pair member
  rw [find?_foldl_insert, none]
  rfl

theorem forall_mem_insert {map : NameMap β} {name : String} {value : β}
    {property : String × β → Prop} (inserted : property (name, value))
    (others : ∀ entry ∈ map.entries, property entry) :
    ∀ entry ∈ (map.insert name value).entries, property entry := by
  intro entry member
  rcases mem_insertEntry member with rfl | earlier
  · exact inserted
  · exact others entry earlier

theorem forall_mem_foldl_insert {property : String × β → Prop} {pairs : List (String × β)}
    (inserted : ∀ pair ∈ pairs, property pair) {map : NameMap β}
    (others : ∀ entry ∈ map.entries, property entry) :
    ∀ entry ∈ (pairs.foldl (fun map pair => map.insert pair.1 pair.2) map).entries,
      property entry := by
  induction pairs generalizing map with
  | nil => exact others
  | cons pair rest inductionHypothesis =>
      have restInserted : ∀ later ∈ rest, property later := fun later member =>
        inserted later (List.mem_cons_of_mem _ member)
      exact inductionHypothesis restInserted
        (forall_mem_insert (inserted pair List.mem_cons_self) others)

/-- What holds of all pairs in a list holds of the entries of their map. -/
theorem forall_mem_ofList {property : String × β → Prop} {pairs : List (String × β)}
    (listed : ∀ pair ∈ pairs, property pair) : ∀ entry ∈ (ofList pairs).entries, property entry :=
  forall_mem_foldl_insert listed nofun

/-! ## Maps of entries in a list -/

/-- The map of the entries in a list has the last one under each name and no others. -/
theorem mem_ofList_iff {pairs : List (String × β)} {entry : String × β} :
    entry ∈ (ofList pairs).entries ↔
      (pairs.filter fun pair => pair.1 == entry.1).getLast? = some entry := by
  have nothing : (empty : NameMap β).find? entry.1 = none := rfl
  rw [← find?_eq_some_iff_mem, ofList, find?_foldl_insert, nothing, Option.or_none]
  constructor
  · intro found
    obtain ⟨last, isLast, value⟩ := Option.map_eq_some_iff.mp found
    have name := (List.mem_filter.mp (List.mem_of_getLast? isLast)).2
    rw [isLast, Prod.ext (beq_iff_eq.mp name) value]
  · intro isLast
    rw [isLast]
    rfl

theorem insertEntry_perm {name : String} {value : β} {entries : List (String × β)}
    (fresh : name ∉ entries.map Prod.fst) :
    (insertEntry name value entries).Perm ((name, value) :: entries) := by
  induction entries with
  | nil => exact .refl _
  | cons head rest inductionHypothesis =>
      rw [List.map_cons, List.mem_cons, not_or] at fresh
      simp only [insertEntry]
      split
      · exact .refl _
      · split
        · exact ((inductionHypothesis fresh.2).cons head).trans (.swap _ _ _)
        next notBefore notAfter =>
          exact absurd (String.le_antisymm (String.not_lt.mp notAfter)
            (String.not_lt.mp notBefore)) fresh.1

theorem foldl_insert_perm {pairs : List (String × β)} {map : NameMap β}
    (nodup : ((pairs ++ map.entries).map Prod.fst).Nodup) :
    (pairs.foldl (fun map pair => map.insert pair.1 pair.2) map).entries.Perm
      (pairs ++ map.entries) := by
  induction pairs generalizing map with
  | nil => exact .refl _
  | cons pair rest inductionHypothesis =>
      have fresh : pair.1 ∉ map.entries.map Prod.fst := by
        intro known
        rw [List.cons_append, List.map_cons, List.nodup_cons, List.map_append] at nodup
        exact nodup.1 (List.mem_append_right _ known)
      have moved : (rest ++ (map.insert pair.1 pair.2).entries).Perm
          (pair :: rest ++ map.entries) :=
        ((insertEntry_perm fresh).append_left rest).trans List.perm_middle
      exact (inductionHypothesis ((moved.map Prod.fst).nodup_iff.mpr nodup)).trans moved

/-- A map of entries of different names has these entries. -/
theorem entries_ofList_perm {pairs : List (String × β)} (nodup : (pairs.map Prod.fst).Nodup) :
    (ofList pairs).entries.Perm pairs := by
  have nodupAll : ((pairs ++ (empty : NameMap β).entries).map Prod.fst).Nodup := by
    rwa [empty, List.append_nil]
  exact (foldl_insert_perm nodupAll).trans (.of_eq (List.append_nil pairs))

theorem insertEntry_map {γ : Type v} (change : β → γ) (name : String) (value : β)
    (entries : List (String × β)) :
    insertEntry name (change value) (entries.map fun entry => (entry.1, change entry.2)) =
      (insertEntry name value entries).map fun entry => (entry.1, change entry.2) := by
  induction entries with
  | nil => rfl
  | cons head rest inductionHypothesis =>
      simp only [List.map_cons, insertEntry]
      split
      · rfl
      · split
        · rw [inductionHypothesis, List.map_cons]
        · rfl

/-- Changing values and collecting entries may change places. -/
theorem ofList_map {γ : Type v} (change : β → γ) (pairs : List (String × β)) :
    ofList (pairs.map fun pair => (pair.1, change pair.2)) = (ofList pairs).mapValues change := by
  have general : ∀ map : NameMap β,
      (pairs.map fun pair => (pair.1, change pair.2)).foldl
        (fun map pair => map.insert pair.1 pair.2) (map.mapValues change) =
          (pairs.foldl (fun map pair => map.insert pair.1 pair.2) map).mapValues change := by
    induction pairs with
    | nil => exact fun _ => rfl
    | cons pair rest inductionHypothesis =>
        intro map
        have first : (map.mapValues change).insert pair.1 (change pair.2) =
            (map.insert pair.1 pair.2).mapValues change := by
          simp only [insert, mapValues, insertEntry_map]
        rw [List.map_cons, List.foldl_cons, List.foldl_cons, first, inductionHypothesis]
  exact general empty

/-! ## Maps of lists -/

/-- Every value with its name, in the order of the names and under each name in that of its list. -/
def pairs (map : NameMap (List β)) : List (String × β) :=
  map.entries.flatMap fun entry => entry.2.map fun value => (entry.1, value)

/-- The pairs whose names are kept are those of the entries whose names are. -/
theorem filter_pairs (map : NameMap (List β)) (keep : String → Bool) :
    map.pairs.filter (fun pair => keep pair.1) =
      (map.entries.filter fun entry => keep entry.1).flatMap fun entry =>
        entry.2.map fun value => (entry.1, value) := by
  rw [pairs]
  induction map.entries with
  | nil => rfl
  | cons entry rest inductionHypothesis =>
      have ofEntry : (entry.2.map fun value => (entry.1, value)).filter (fun pair => keep pair.1) =
          if keep entry.1 then entry.2.map fun value => (entry.1, value) else [] := by
        split
        next kept => exact List.filter_eq_self.mpr (List.forall_mem_map.mpr fun _ _ => kept)
        next dropped =>
          exact List.filter_eq_nil_iff.mpr (List.forall_mem_map.mpr fun _ _ => dropped)
      rw [List.flatMap_cons, List.filter_append, inductionHypothesis, List.filter_cons, ofEntry]
      split
      · rfl
      · rfl

/-- The values appended under a name come behind those that were there, in their order. -/
theorem getD_find?_foldl_append (pairs : List (String × β)) (map : NameMap (List β))
    (name : String) :
    ((pairs.foldl (fun map pair => map.append pair.1 pair.2) map).find? name).getD [] =
      (map.find? name).getD [] ++ (pairs.filter fun pair => pair.1 == name).map Prod.snd := by
  induction pairs generalizing map with
  | nil => exact (List.append_nil _).symm
  | cons pair rest inductionHypothesis =>
      rcases pair with ⟨key, value⟩
      rw [List.foldl_cons, inductionHypothesis, append, find?_insert]
      by_cases same : key = name
      · subst same
        rw [if_pos rfl, List.filter_cons_of_pos (by simp), Option.getD_some, List.map_cons,
          List.append_assoc]
        rfl
      · rw [if_neg (Ne.symm same), List.filter_cons_of_neg (by simpa using same)]

/-- Among entries with ascending names only the one that is looked up has its name. -/
theorem filter_name_eq {entries : List (String × β)}
    (ascending : entries.Pairwise fun first second => first.1 < second.1) (name : String) :
    (entries.filter fun entry => entry.1 == name) =
      ((entries.lookup name).map fun value => (name, value)).toList := by
  induction entries with
  | nil => rfl
  | cons head rest inductionHypothesis =>
      obtain ⟨below, tail⟩ := List.pairwise_cons.mp ascending
      rw [lookup_cons, List.filter_cons]
      by_cases same : name = head.1
      · have none : (rest.filter fun entry => entry.1 == name) = [] :=
          List.filter_eq_nil_iff.mpr fun entry member equal =>
            String.ne_of_lt (below entry member) (same ▸ (beq_iff_eq.mp equal).symm)
        rw [if_pos same, if_pos (beq_iff_eq.mpr same.symm), none, same]
        rfl
      · rw [if_neg same, if_neg fun equal => same (beq_iff_eq.mp equal).symm,
          inductionHypothesis tail]

/-- The values among the pairs under a name are those of its look-up. -/
theorem map_snd_filter_pairs (map : NameMap (List β)) (name : String) :
    (map.pairs.filter fun pair => pair.1 == name).map Prod.snd = (map.find? name).getD [] := by
  rw [filter_pairs map (· == name), filter_name_eq map.ascending, find?]
  cases map.entries.lookup name with
  | none => rfl
  | some values => simp [Function.comp_def]

/-- A map that is filled value by value holds under each name the values given under it. -/
theorem map_snd_filter_pairs_foldl_append (given : List (String × β)) (name : String) :
    ((given.foldl (fun map pair => map.append pair.1 pair.2) empty).pairs.filter
      fun pair => pair.1 == name).map Prod.snd =
        (given.filter fun pair => pair.1 == name).map Prod.snd := by
  rw [map_snd_filter_pairs, getD_find?_foldl_append]
  rfl

/-- Appending leaves no empty list of values behind. -/
theorem append_values_ne_nil {map : NameMap (List β)} {name : String} {value : β}
    (nonempty : ∀ entry ∈ map.entries, entry.2 ≠ []) :
    ∀ entry ∈ (map.append name value).entries, entry.2 ≠ [] :=
  forall_mem_insert (List.append_ne_nil_of_right_ne_nil _ (List.cons_ne_nil _ _)) nonempty

/-- A map that is filled value by value has no name without a value. -/
theorem values_ne_nil_of_foldl_append (given : List (String × β)) {map : NameMap (List β)}
    (nonempty : ∀ entry ∈ map.entries, entry.2 ≠ []) :
    ∀ entry ∈ (given.foldl (fun map pair => map.append pair.1 pair.2) map).entries,
      entry.2 ≠ [] := by
  induction given generalizing map with
  | nil => exact nonempty
  | cons pair rest inductionHypothesis => exact inductionHypothesis (append_values_ne_nil nonempty)

/-- A map that is filled value by value finds under each name all values given under it, if there
are any. -/
theorem find?_foldl_append_eq_some_iff {given : List (String × β)} {name : String}
    {values : List β} :
    (given.foldl (fun map pair => map.append pair.1 pair.2) empty).find? name = some values ↔
      values ≠ [] ∧ values = (given.filter fun pair => pair.1 == name).map Prod.snd := by
  have valuesEq := getD_find?_foldl_append given empty name
  constructor
  · intro found
    rw [found] at valuesEq
    have noEntries : ∀ entry ∈ (empty : NameMap (List β)).entries, entry.2 ≠ [] := nofun
    have nonempty := values_ne_nil_of_foldl_append given noEntries
    exact ⟨nonempty _ ((find?_eq_some_iff_mem _).mp found), valuesEq⟩
  · rintro ⟨nonempty, rfl⟩
    cases found : (given.foldl (fun map pair => map.append pair.1 pair.2) empty).find? name with
    | none =>
        rw [found] at valuesEq
        exact absurd valuesEq.symm nonempty
    | some values =>
        rw [found] at valuesEq
        exact congrArg some valuesEq

/-- A pair is there as often as its value is among those of its name. -/
theorem count_eq_count_values [BEq β] [LawfulBEq β] (pairs : List (String × β)) (name : String)
    (value : β) :
    pairs.count (name, value) =
      ((pairs.filter fun pair => pair.1 == name).map Prod.snd).count value := by
  rw [List.count, List.count, List.countP_map, List.countP_filter]
  refine List.countP_congr fun pair _ => ?_
  rcases pair with ⟨otherName, otherValue⟩
  simp [and_comm]

/-- A map that is filled value by value holds the pairs given, each as often as it was. -/
theorem pairs_foldl_append_perm (given : List (String × β)) :
    (given.foldl (fun map pair => map.append pair.1 pair.2) empty).pairs.Perm given := by
  classical
  refine List.perm_iff_count.mpr fun pair => ?_
  rw [count_eq_count_values, count_eq_count_values, map_snd_filter_pairs_foldl_append]

/-- A map that is filled value by value holds no other pairs. -/
theorem mem_of_mem_pairs_foldl_append {given : List (String × β)} {pair : String × β}
    (member : pair ∈ (given.foldl (fun map pair => map.append pair.1 pair.2) empty).pairs) :
    pair ∈ given :=
  (pairs_foldl_append_perm given).mem_iff.mp member

/-- The pairs have the values of all names. -/
theorem map_snd_pairs (map : NameMap (List β)) :
    map.pairs.map Prod.snd = map.entries.flatMap Prod.snd := by
  rw [pairs, List.map_flatMap]
  simp only [List.map_map, Function.comp_def, List.map_id']

end Understudy.NameMap
