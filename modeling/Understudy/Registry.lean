import Understudy.Mapping

/-!
# The registry of mappings

The registered mappings in the order in which their identifiers were first registered.  A mapping
replaces the one with the same identifier in place, and one that is not valid changes nothing.
-/

namespace Understudy

/-- The registered mappings in order. -/
structure Registry where
  mappings : List Mapping

namespace Registry

/-- The registry without mappings. -/
def empty : Registry := ⟨[]⟩

instance : Inhabited Registry := ⟨empty⟩

/-- The mapping with an identifier. -/
def find? (registry : Registry) (id : Identifier) : Option Mapping :=
  registry.mappings.find? fun mapping => mapping.id == id

/-- The number of mappings. -/
def size (registry : Registry) : Nat :=
  registry.mappings.length

/-- Places a mapping over the first one with its identifier, or else at the end. -/
def place (mapping : Mapping) : List Mapping → List Mapping
  | [] => [mapping]
  | other :: rest =>
      if other.id == mapping.id then mapping :: rest else other :: place mapping rest

/-- The registry with a mapping that is valid. -/
def upsert (registry : Registry) (mapping : Mapping) : Except MappingError Registry :=
  match mapping.problem? with
  | some problem => .error problem
  | none => .ok ⟨place mapping registry.mappings⟩

/-- The registry without the mapping of an identifier. -/
def remove (registry : Registry) (id : Identifier) : Registry :=
  ⟨registry.mappings.eraseP fun mapping => mapping.id == id⟩

end Registry

end Understudy
