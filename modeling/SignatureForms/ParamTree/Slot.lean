import SignatureForms.Budget
import SignatureForms.ParamTree.Node

/-!
# Slots

Where a node is placed in the tree before it is known what it will be.
-/

namespace SignatureForms

/-- A place in a parameter tree. -/
structure Slot where
  /-- The position among the siblings. -/
  position : Int
  /-- The dotted name of the value. -/
  value : String
  /-- The name of a record whose type has none. -/
  name : String
  /-- The value may not be left out. -/
  required : Bool
  /-- The path below which the fields of a record are named. -/
  fieldsPath : String
  /-- What the value is for. -/
  description : Option String
deriving DecidableEq, Repr, Inhabited

namespace Slot

/-- What a node in this place shares with all others. -/
def info (slot : Slot) : NodeInfo :=
  .plain (toString slot.position) slot.value slot.required slot.description

/-- A leaf in this place. -/
def leaf (slot : Slot) (kind : Kind) : ParamNode := .simple slot.info kind

/-- The place of a field of a record whose fields are named below `path`. -/
def ofField (path : String) (required : Bool) (position : Nat) (field : Field) : Slot where
  position := position
  value := qualify path field.name
  name := field.name
  required := !(field.optional || field.hasDefault) && required
  fieldsPath := qualify path field.name
  description := field.doc

/-- The place of a member of a union. Record members put their fields under the union's own
name. -/
def ofMember (slot : Slot) (label : String) (position : Nat) : Slot where
  position := position
  value := slot.value ++ Naming.capitalize label
  name := label
  required := slot.required
  fieldsPath := slot.value
  description := none

/-- The place of a union with the given members: with the absent value among them, the value may be
left out. -/
def ofUnion (slot : Slot) (types : TypeGraph) (members : List TypeId) : Slot :=
  { slot with
    required := slot.required && !members.any fun member => types.kind member == .nil }

end Slot

/-- The name of a record: of its type, or of what a reference was resolved to, or a fallback. -/
def recordDisplayName (d : TypeDescriptor) (fallback : String) : String :=
  d.displayName.getD fallback

end SignatureForms
