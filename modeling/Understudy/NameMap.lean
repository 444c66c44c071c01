/-!
# Maps from names

A map from texts to values, kept as entries in strictly ascending order of their names.  The
order is part of the type, so two maps with the same look-ups list the same entries.
-/

namespace Understudy

universe u v

/-- Entries whose names ascend strictly. -/
structure NameMap (β : Type u) where
  entries : List (String × β)
  ascending : entries.Pairwise fun first second => first.1 < second.1

namespace NameMap

variable {β : Type u} {γ : Type v}

/-- The map without entries. -/
def empty : NameMap β where
  entries := []
  ascending := .nil

instance : EmptyCollection (NameMap β) := ⟨empty⟩

instance : Inhabited (NameMap β) := ⟨empty⟩

/-- The value under a name. -/
def find? (map : NameMap β) (name : String) : Option β :=
  map.entries.lookup name

/-- Whether the map has an entry of that name. -/
def contains (map : NameMap β) (name : String) : Bool :=
  (map.find? name).isSome

/-- The names in ascending order. -/
def names (map : NameMap β) : List String :=
  map.entries.map Prod.fst

/-- Places an entry among ascending entries, in place of one of the same name. -/
def insertEntry (name : String) (value : β) : List (String × β) → List (String × β)
  | [] => [(name, value)]
  | entry :: rest =>
      if name < entry.1 then (name, value) :: entry :: rest
      else if entry.1 < name then entry :: insertEntry name value rest
      else (name, value) :: rest

theorem mem_insertEntry {name : String} {value : β} {entries : List (String × β)}
    {entry : String × β} (member : entry ∈ insertEntry name value entries) :
    entry = (name, value) ∨ entry ∈ entries := by
  induction entries with
  | nil => simpa [insertEntry] using member
  | cons head rest inductionHypothesis =>
      simp only [insertEntry] at member
      split at member
      · simpa using member
      · split at member
        · rcases List.mem_cons.mp member with equal | inRest
          · exact .inr (by simp [equal])
          · rcases inductionHypothesis inRest with equal | inTail
            · exact .inl equal
            · exact .inr (by simp [inTail])
        · rcases List.mem_cons.mp member with equal | inRest
          · exact .inl equal
          · exact .inr (by simp [inRest])

theorem pairwise_insertEntry (name : String) (value : β) {entries : List (String × β)}
    (ascending : entries.Pairwise fun first second => first.1 < second.1) :
    (insertEntry name value entries).Pairwise fun first second => first.1 < second.1 := by
  induction entries with
  | nil => simp [insertEntry]
  | cons head rest inductionHypothesis =>
      rcases List.pairwise_cons.mp ascending with ⟨below, tail⟩
      simp only [insertEntry]
      split
      next before =>
        refine List.pairwise_cons.mpr ⟨?_, ascending⟩
        intro entry member
        rcases List.mem_cons.mp member with equal | inRest
        · simpa [equal] using before
        · exact String.lt_trans before (below entry inRest)
      next notBefore =>
        split
        next after =>
          refine List.pairwise_cons.mpr ⟨?_, inductionHypothesis tail⟩
          intro entry member
          rcases mem_insertEntry member with equal | inRest
          · simpa [equal] using after
          · exact below entry inRest
        next notAfter =>
          have same : name = head.1 :=
            String.le_antisymm (String.not_lt.mp notAfter) (String.not_lt.mp notBefore)
          refine List.pairwise_cons.mpr ⟨?_, tail⟩
          intro entry member
          simpa [same] using below entry member

/-- The map with `value` under `name`, in place of any earlier value. -/
def insert (map : NameMap β) (name : String) (value : β) : NameMap β where
  entries := insertEntry name value map.entries
  ascending := pairwise_insertEntry name value map.ascending

/-- The map of the entries in a list, where a later entry replaces an earlier one. -/
def ofList (entries : List (String × β)) : NameMap β :=
  entries.foldl (fun map entry => map.insert entry.1 entry.2) empty

/-- The map with every value changed by `change`. -/
def mapValues (change : β → γ) (map : NameMap β) : NameMap γ where
  entries := map.entries.map fun entry => (entry.1, change entry.2)
  ascending := List.pairwise_map.mpr map.ascending

/-- The map of lists with one more value at the end of the list under `name`. -/
def append (map : NameMap (List β)) (name : String) (value : β) : NameMap (List β) :=
  map.insert name ((map.find? name).getD [] ++ [value])

end NameMap

end Understudy
