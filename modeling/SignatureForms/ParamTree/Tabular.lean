import SignatureForms.ParamTree.Slot

/-!
# Maps and arrays

A map or an array of plain values or of records is entered as a table; so is an array of arrays or
of unions. All others are entered as JSON text. Tables do not unfold their parts and cost nothing.
-/

namespace SignatureForms

/-- The columns for the fields of a record type. Fields of unsupported kinds have none. -/
def tableColumns (types : TypeGraph) (d : TypeDescriptor) : List Column :=
  let fields := d.fields.filterMap fun field =>
    (types.kind field.type).supported?.map fun kind => (field, kind)
  fields.zipIdx.map fun ((field, kind), position) =>
    ⟨.plain (toString position) field.name (!field.optional) field.doc, kind⟩

/-- A type that fills the cells or the rows of a table by itself. -/
def fillsTable (d : TypeDescriptor) : Bool :=
  d.kind.isTableScalar || (d.kind == .record && !d.fields.isEmpty)

/-- How a map with the given value type is entered. -/
def mapShape (types : TypeGraph) (valueType : Option TypeId) : MapShape :=
  match valueType with
  | none => { valueKind := none, columns := [], asTable := false }
  | some id =>
    let d := types.descriptor id
    { valueKind := some d.kind
      columns := if fillsTable d && d.kind == .record then tableColumns types d else []
      asTable := fillsTable d }

/-- The kinds of the members of a union that are supported and not the absent value, each once. -/
def memberKinds (types : TypeGraph) (members : List TypeId) : List Kind :=
  members.foldl (fun kinds member =>
    let kind := types.kind member
    if kind == .nil || !kind.isSupported || kinds.contains kind then kinds else kinds ++ [kind]) []

/-- How an array with the given element type is entered. -/
def arrayShape (types : TypeGraph) (elementType : Option TypeId) : ArrayShape :=
  let text : ArrayShape :=
    { elementKind := none, columns := [], asTable := false, twoDimensional := false
      innerKind := none, ofUnions := false, memberKinds := [] }
  match elementType with
  | none => text
  | some id =>
    let d := types.descriptor id
    let shape := { text with elementKind := some d.kind }
    match d.kind with
    | .record =>
      if fillsTable d then { shape with asTable := true, columns := tableColumns types d }
      else shape
    | .array =>
      { shape with
        asTable := true, twoDimensional := true, innerKind := d.elementType.map types.kind }
    | .union =>
      { shape with asTable := true, ofUnions := true, memberKinds := memberKinds types d.members }
    | _ => { shape with asTable := fillsTable d }

end SignatureForms
