import SignatureForms.Kind

/-!
# Type graphs

Types refer to each other, and may do so in cycles: a record may hold a field of its own type. A
type is therefore a number into a graph of descriptors, and two references to one named type are
the same number.

* `TypeGraph.descriptor_push_lt` — adding a descriptor changes no descriptor that is there.
-/

namespace SignatureForms

/-- The number of a descriptor in its graph. -/
abbrev TypeId := Nat

/-- One named field of a record type. -/
structure Field where
  /-- The name of the field. -/
  name : String
  /-- The type of its values. -/
  type : TypeId
  /-- The field may be left out. -/
  optional : Bool
  /-- The field has a default value. -/
  hasDefault : Bool
  /-- What the field is for. -/
  doc : Option String
deriving DecidableEq, Repr, Inhabited

/-- The shape of one type. Which parts are used depends on the kind. -/
structure TypeDescriptor where
  /-- The kind of the type. -/
  kind : Kind
  /-- The name under which the type is declared. -/
  name : Option String
  /-- The name of the type that a reference was resolved to. -/
  resolvedName : Option String
  /-- The fields of a record. -/
  fields : List Field
  /-- The type of the values of a map. -/
  valueType : Option TypeId
  /-- The type of the elements of an array. -/
  elementType : Option TypeId
  /-- The members of a union. -/
  members : List TypeId
  /-- The type that bounds a type descriptor. -/
  constraint : Option TypeId
deriving DecidableEq, Repr

namespace TypeDescriptor

/-- A descriptor of a kind, without any parts. -/
def ofKind (kind : Kind) (name : Option String) : TypeDescriptor where
  kind := kind
  name := name
  resolvedName := none
  fields := []
  valueType := none
  elementType := none
  members := []
  constraint := none

instance : Inhabited TypeDescriptor := ⟨ofKind (.other "") none⟩

/-- A text that is there and not empty. -/
def nonEmpty? (s : Option String) : Option String :=
  match s with
  | some text => if text.isEmpty then none else some text
  | none => none

/-- The name by which messages and names derived from the type know it. -/
def displayName (d : TypeDescriptor) : Option String :=
  match nonEmpty? d.name with
  | some name => some name
  | none => nonEmpty? d.resolvedName

/-- The types that a descriptor mentions, in the order fields, values, elements, members,
constraint. -/
def children (d : TypeDescriptor) : List TypeId :=
  d.fields.map Field.type ++ d.valueType.toList ++ d.elementType.toList ++ d.members
    ++ d.constraint.toList

variable {d : TypeDescriptor}

theorem type_mem_children {field : Field} (h : field ∈ d.fields) : field.type ∈ d.children := by
  simp only [children, List.mem_append]
  exact .inl (.inl (.inl (.inl (List.mem_map_of_mem h))))

theorem valueType_mem_children {id : TypeId} (h : id ∈ d.valueType) : id ∈ d.children := by
  simp only [children, List.mem_append]
  exact .inl (.inl (.inl (.inr (Option.mem_toList.2 h))))

theorem elementType_mem_children {id : TypeId} (h : id ∈ d.elementType) : id ∈ d.children := by
  simp only [children, List.mem_append]
  exact .inl (.inl (.inr (Option.mem_toList.2 h)))

theorem member_mem_children {id : TypeId} (h : id ∈ d.members) : id ∈ d.children := by
  simp only [children, List.mem_append]
  exact .inl (.inr h)

theorem constraint_mem_children {id : TypeId} (h : id ∈ d.constraint) : id ∈ d.children := by
  simp only [children, List.mem_append]
  exact .inr (Option.mem_toList.2 h)

end TypeDescriptor

/-- The descriptors of a document, by number. -/
structure TypeGraph where
  /-- The descriptors. -/
  descriptors : Array TypeDescriptor
deriving Inhabited

namespace TypeGraph

/-- The graph without types. -/
def empty : TypeGraph := ⟨#[]⟩

/-- The number of descriptors. -/
def size (g : TypeGraph) : Nat := g.descriptors.size

/-- The descriptor of a type; a number outside the graph stands for a type of no known kind. -/
def descriptor (g : TypeGraph) (id : TypeId) : TypeDescriptor :=
  (g.descriptors[id]?).getD default

/-- The kind of a type. -/
def kind (g : TypeGraph) (id : TypeId) : Kind := (g.descriptor id).kind

/-- The graph with one more descriptor, whose number is the former size. -/
def push (g : TypeGraph) (d : TypeDescriptor) : TypeGraph := ⟨g.descriptors.push d⟩

/-- The graph with the descriptor of one type changed. -/
def modify (g : TypeGraph) (id : TypeId) (f : TypeDescriptor → TypeDescriptor) : TypeGraph :=
  ⟨g.descriptors.modify id f⟩

@[simp]
theorem size_push (g : TypeGraph) (d : TypeDescriptor) : (g.push d).size = g.size + 1 := by
  simp [push, size]

@[simp]
theorem size_modify (g : TypeGraph) (id : TypeId) (f : TypeDescriptor → TypeDescriptor) :
    (g.modify id f).size = g.size := by
  simp [modify, size]

/-- Adding a descriptor changes no descriptor that is there. -/
theorem descriptor_push_lt {g : TypeGraph} {id : TypeId} (h : id < g.size) (d : TypeDescriptor) :
    (g.push d).descriptor id = g.descriptor id := by
  have : id ≠ g.descriptors.size := Nat.ne_of_lt h
  simp [push, descriptor, Array.getElem?_push, this]

@[simp]
theorem descriptor_push_size (g : TypeGraph) (d : TypeDescriptor) :
    (g.push d).descriptor g.size = d := by
  simp [push, descriptor, size]

end TypeGraph

end SignatureForms
