import SignatureForms.Document.Section

/-!
# Reading types

A type of a document is a word, a mapping with a kind, or a reference `{"ref": name}` into the
table of named types. Reading adds descriptors to a graph. The named types get the first numbers,
in the order of the table, before any of their parts is read; that is why a reference may point
forwards or back to the type that holds it.
-/

namespace SignatureForms.Document

/-- The numbers of the named types. -/
abbrev NamedTypes := List (String × TypeId)

/-- Reading that adds descriptors to a graph. -/
abbrev Loading := StateT TypeGraph (Except Fault)

/-- Adds a descriptor and gives its number. -/
def addType (d : TypeDescriptor) : Loading TypeId := fun graph =>
  return (graph.size, graph.push d)

/-- Adds a type that is given by nothing but a word. -/
def addWord (word : String) : Loading TypeId :=
  addType (.ofKind (.ofSpelling word) none)

/-- The type that a reference names. -/
def resolve (table : NamedTypes) (reference : Json) : Except Fault TypeId :=
  match reference with
  | .arr _ | .obj _ => throw (.referenceShape reference)
  | .str name =>
    match table.lookup name with
    | some id => return id
    | none => unknown
  | _ => unknown
where
  /-- The fault of a name that the table does not hold. -/
  unknown : Except Fault TypeId :=
    throw (.unknownReference reference.display ((table.map Prod.fst).mergeSort (· ≤ ·)))

/-- A descriptor without parts for a mapping with a kind. -/
def bareType (entries : Json.Entries) (kind : Json) (name : Option String) : TypeDescriptor :=
  { TypeDescriptor.ofKind (.ofSpelling kind.display) name with
    resolvedName := textAt? entries "resolvedName" }

mutual

/-- Reads a type. -/
def readType (table : NamedTypes) (value : Json) : Loading TypeId :=
  match value with
  | .str word => addWord word
  | .obj entries =>
    match entries.lookup "ref" with
    | some reference => liftM (resolve table reference)
    | none =>
      match entries.lookup "kind" with
      | none => throw (.missingKind (.obj entries))
      | some kind => do
        let d ← readParts table entries (bareType entries kind (textAt? entries "name"))
        addType d
  | other => throw (.typeShape other)
termination_by sizeOf value

/-- Reads the parts of a type into its descriptor. -/
def readParts (table : NamedTypes) (entries : Json.Entries) (d : TypeDescriptor) :
    Loading TypeDescriptor := do
  let fields ← (
    match _h : entries.lookup "fields" with
    | some (.arr items) => readFields table items
    | section? => do
      match ← itemsOf section? with
      | [] => pure []
      | item :: _ => throw (.fieldShape item))
  let valueType ← (
    match _h : Json.given? entries "valueType" with
    | some value => some <$> readType table value
    | none => pure none)
  let elementType ← (
    match _h : Json.given? entries "elementType" with
    | some value => some <$> readType table value
    | none => pure none)
  let members ← (
    match _h : entries.lookup "members" with
    | some (.arr items) => readMembers table items
    | section? => do (← itemsOf section?).mapM fun item => addWord item.display)
  let constraint ← (
    match _h : Json.given? entries "constraint" with
    | some value => some <$> readType table value
    | none => pure none)
  return { d with fields, valueType, elementType, members, constraint }
termination_by sizeOf entries
decreasing_by
  · have := Json.sizeOf_lt_of_lookup _h
    simp only [Json.arr.sizeOf_spec] at this
    omega
  · exact Json.sizeOf_lt_of_given _h
  · exact Json.sizeOf_lt_of_given _h
  · have := Json.sizeOf_lt_of_lookup _h
    simp only [Json.arr.sizeOf_spec] at this
    omega
  · exact Json.sizeOf_lt_of_given _h

/-- Reads the fields of a record. -/
def readFields (table : NamedTypes) (items : List Json) : Loading (List Field) :=
  match items with
  | [] => return []
  | .obj entries :: rest => do
    let name ← nameOf .recordField entries
    let type ←
      match _h : entries.lookup "type" with
      | some value => readType table value
      | none => throw (.typeShape .null)
    let field : Field := {
      name, type
      optional := flagAt entries "optional"
      hasDefault := flagAt entries "hasDefault"
      doc := docOf entries }
    return field :: (← readFields table rest)
  | other :: _ => throw (.fieldShape other)
termination_by sizeOf items
decreasing_by
  · simp only [List.cons.sizeOf_spec]
    omega
  · have := Json.sizeOf_lt_of_lookup _h
    simp only [List.cons.sizeOf_spec, Json.obj.sizeOf_spec]
    omega

/-- Reads the members of a union. -/
def readMembers (table : NamedTypes) (items : List Json) : Loading (List TypeId) :=
  match items with
  | [] => return []
  | item :: rest => do
    let type ← readType table item
    return type :: (← readMembers table rest)
termination_by sizeOf items

end

/-- The descriptors of the named types, without their parts. -/
def bareTypes : Json.Entries → Except Fault (List (String × Json.Entries × TypeDescriptor))
  | [] => return []
  | (name, .obj entries) :: rest =>
    match entries.lookup "kind" with
    | none => throw (.namedTypeShape name)
    | some kind => do
      let declared := ((entries.lookup "name").map text?).getD (some name)
      return (name, entries, bareType entries kind declared) :: (← bareTypes rest)
  | (name, _) :: _ => throw (.namedTypeShape name)

/-- Reads the parts of the named types, the first of which has the number `id`. -/
def readNamedParts (table : NamedTypes) :
    TypeId → List (String × Json.Entries × TypeDescriptor) → Loading Unit
  | _, [] => return ()
  | id, (_, entries, d) :: rest => do
    let filled ← readParts table entries d
    modify fun graph => graph.modify id fun _ => filled
    readNamedParts table (id + 1) rest

/-- Reads the table of named types. -/
def readTable (value : Option Json) : Loading NamedTypes := do
  let value := value.getD .null
  let entries ← if value.truthy then entriesOf value else pure []
  let bare ← bareTypes entries
  let ids ← bare.mapM fun (_, _, d) => addType d
  let table := (bare.map Prod.fst).zip ids
  readNamedParts table 0 bare
  return table

end SignatureForms.Document
