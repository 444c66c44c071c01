import Understudy.NameMap

/-!
# JSON values

The values of JSON documents.  Whole numbers in the range of 64-bit words are integers, all
other numbers are doubles, and the two are never equal.  The members of an object stand in
ascending order of their keys, each key once; `Json.Ordered` says so at every depth.
-/

namespace Understudy

/-- A JSON value. -/
inductive Json where
  | null
  | boolean (value : Bool)
  | integer (value : Int)
  | decimal (value : Float)
  | text (value : String)
  | array (items : List Json)
  | object (members : List (String × Json))
  deriving Inhabited

namespace Json

/-- The object with the given members, where a later member replaces an earlier one of the same
key. -/
def ofMembers (members : List (String × Json)) : Json :=
  .object (NameMap.ofList members).entries

/-- A member of an object. -/
def member? (key : String) : Json → Option Json
  | .object members => members.lookup key
  | _ => none

mutual

/-- Every object in the value has strictly ascending keys. -/
def Ordered : Json → Prop
  | .array items => OrderedItems items
  | .object members =>
      members.Pairwise (fun first second => first.1 < second.1) ∧ OrderedMembers members
  | _ => True

/-- Every object in the items has strictly ascending keys. -/
def OrderedItems : List Json → Prop
  | [] => True
  | item :: items => Ordered item ∧ OrderedItems items

/-- Every object in the member values has strictly ascending keys. -/
def OrderedMembers : List (String × Json) → Prop
  | [] => True
  | (_, value) :: members => Ordered value ∧ OrderedMembers members

end

end Json

end Understudy
