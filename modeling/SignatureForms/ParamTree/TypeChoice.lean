import SignatureForms.ParamTree.Slot

/-!
# Type descriptors

A parameter whose value is a type offers the types within its constraint: one leaf for a single
type, a choice of labels for a union. The label of a type is its default value, so that choosing it
fills it in.
-/

namespace SignatureForms

/-- The label and the kind of input of a member type; nothing for a type that cannot be offered.
A record without a name is numbered. -/
def typeOption? (types : TypeGraph) (member : TypeId) (position : Nat) : Option (String × Kind) :=
  let d := types.descriptor member
  match d.kind with
  | .record => some (d.displayName.getD ("Record" ++ toString position), .string)
  | .nil | .typedesc => none
  | kind => kind.supported?.map fun kind => (kind.name, kind)

/-- The options of a constraint, each label once. The options found so far are `done`. -/
def typeOptions (types : TypeGraph) (done : List (String × Kind)) :
    List TypeId → List (String × Kind)
  | [] => done
  | member :: rest =>
    match typeOption? types member done.length with
    | none => typeOptions types done rest
    | some option =>
      if (done.map Prod.fst).contains option.1 then typeOptions types done rest
      else typeOptions types (done ++ [option]) rest

/-- The leaf of a single type. -/
def typeLeaf (slot : Slot) (kind : Kind) (default : Option String) : ParamNode :=
  .simple { slot.info with default, typeDescriptor := true } kind

/-- One option of a choice of types. -/
def typeMember (slot : Slot) (position : Nat) (option : String × Kind) : ParamNode :=
  .simple
    { NodeInfo.plain (toString position) (slot.value ++ Naming.capitalize option.1) slot.required
        none with
      default := some option.1
      condition := .when (discriminatorName slot.value) option.1
      label := some option.1
      typeDescriptor := true }
    option.2

/-- The node of a choice of types. -/
def classifyTypeUnion (types : TypeGraph) (members : List TypeId) (slot : Slot) :
    Option ParamNode :=
  let slot := slot.ofUnion types members
  match typeOptions types [] members with
  | [] => none
  | [(label, kind)] => some (typeLeaf slot kind (some label))
  | options => some (.union { slot.info with typeDescriptor := true }
      (options.zipIdx.map fun (option, position) => typeMember slot position option))

/-- The node of a parameter whose value is a type within a constraint. -/
def classifyTypeDescriptor (types : TypeGraph) (constraint : Option TypeId) (slot : Slot) :
    Option ParamNode :=
  match constraint with
  | none => none
  | some id =>
    let d := types.descriptor id
    match d.kind with
    | .union => classifyTypeUnion types d.members slot
    | .record => some (typeLeaf slot .string (some (recordDisplayName d slot.name)))
    | .anydata => some (typeLeaf slot .anydata none)
    | .typedesc | .nil | .map | .array => none
    | kind => kind.supported?.map fun kind => typeLeaf slot kind none

end SignatureForms
