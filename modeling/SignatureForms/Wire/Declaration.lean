import SignatureForms.Naming.Path
import SignatureForms.ParamTree.Node
import SignatureForms.Wire.Xml

/-!
# Wire declarations

The flat list of named texts by which a call tells the values of its parameters. A top-level
parameter with the number `i` declares its value name under `param<i>` and its kind under
`paramType<i>`. The fields of a record, and of the record members of a union, are numbered on from
zero in a scope of their own, named after the parameter; records inside are flattened into the same
numbering.
-/

namespace SignatureForms

/-- A named text. -/
structure Declaration where
  /-- The name. -/
  name : String
  /-- The text. -/
  value : String
deriving DecidableEq, Repr, Inhabited

/-- A key inside a scope; the outermost scope is empty. -/
def scopedKey (scope key : String) : String :=
  if scope.isEmpty then key else scope ++ "_" ++ key

/-- A numbered key inside a scope. -/
def numberedKey (scope key : String) (index : Nat) : String :=
  scopedKey scope (key ++ toString index)

/-- What one numbered field tells. -/
structure WireField where
  /-- The dotted name of the value. -/
  value : String
  /-- The kind of the value. -/
  kind : Kind
  /-- The name of the control that selects the member of a union. -/
  discriminator : Option String
  /-- The label of the union member that the field belongs to. -/
  unionMember : Option String
deriving DecidableEq, Repr, Inhabited

/-- The declarations of a field with a number in a scope. -/
def WireField.declarations (scope : String) (field : WireField) (index : Nat) :
    List Declaration :=
  [⟨numberedKey scope "param" index, field.value⟩,
   ⟨numberedKey scope "paramType" index, field.kind.name⟩]
    ++ (field.discriminator.map (⟨numberedKey scope "dataType" index, ·⟩)).toList
    ++ (field.unionMember.map (⟨numberedKey scope "unionMember" index, ·⟩)).toList

/-- The declarations of all fields of a scope, numbered from zero. -/
def fieldDeclarations (scope : String) (fields : List WireField) : List Declaration :=
  fields.zipIdx.flatMap fun (field, index) => field.declarations scope index

/-- The name of the control that selects the member, if the node is a union that needs one. -/
def ParamNode.discriminator? : ParamNode → Option String
  | .union info members =>
    if hasDiscriminator members then some (discriminatorName info.value) else none
  | _ => none

mutual

/-- The numbered fields that a node inside a record or union member contributes. -/
def wireFields (expandRecords : Bool) (tag : Option String) :
    ParamNode → Except Fault (List WireField)
  | .record info recordName parentPath fields =>
    if expandRecords && !fields.isEmpty then wireFieldsAll expandRecords tag fields
    else
      .ok [⟨info.value, (ParamNode.record info recordName parentPath fields).kind, none, tag⟩]
  | .union info members => do
    let node := ParamNode.union info members
    let inner ← if expandRecords then wireFieldsOfArms members 0 else .ok []
    return ⟨info.value, node.kind, node.discriminator?, tag⟩ :: inner
  | .simple info kind => do
    (ParamNode.simple info kind).checkVariant
    return [⟨info.value, kind, none, tag⟩]
  | .map info _ => .ok [⟨info.value, .map, none, tag⟩]
  | .array info _ => .ok [⟨info.value, .array, none, tag⟩]

/-- The numbered fields of several nodes in turn. -/
def wireFieldsAll (expandRecords : Bool) (tag : Option String) :
    List ParamNode → Except Fault (List WireField)
  | [] => .ok []
  | node :: rest => do
    return (← wireFields expandRecords tag node) ++ (← wireFieldsAll expandRecords tag rest)

/-- The numbered fields of the record members of a union, each tagged with the label of its
member; the first of the members has the given position. -/
def wireFieldsOfArms : List ParamNode → Nat → Except Fault (List WireField)
  | [], _ => .ok []
  | .record info recordName parentPath fields :: rest, position => do
    let label := (ParamNode.record info recordName parentPath fields).memberLabel position
    return (← wireFieldsAll true (some label) fields) ++ (← wireFieldsOfArms rest (position + 1))
  | _ :: rest, position => wireFieldsOfArms rest (position + 1)

end

/-- The declarations of a top-level parameter with a number. -/
def parameterDeclarations (scope : String) (expandRecords : Bool) (index : Nat)
    (node : ParamNode) : Except Fault (List Declaration) := do
  node.checkVariant
  let head : List Declaration :=
    [⟨numberedKey scope "param" index, node.value⟩,
     ⟨numberedKey scope "paramType" index, node.kind.name⟩]
  let fieldScope := scopedKey scope node.name
  match node with
  | .record _ recordName _ fields =>
    if node.expands expandRecords then
      let inner ← wireFieldsAll expandRecords none fields
      return head ++ [⟨numberedKey scope "param" index ++ "_recordName", recordName⟩]
        ++ fieldDeclarations fieldScope inner
    else return head
  | .union _ members =>
    let inner ← if expandRecords then wireFieldsOfArms members 0 else .ok []
    return head
      ++ (node.discriminator?.map (⟨numberedKey scope "dataType" index, ·⟩)).toList
      ++ fieldDeclarations fieldScope inner
  | _ => return head

/-- The declarations of several top-level parameters, the first of which has the given number. -/
def wireFrom (scope : String) (expandRecords : Bool) :
    Nat → List ParamNode → Except Fault (List Declaration)
  | _, [] => .ok []
  | index, node :: rest => do
    return (← parameterDeclarations scope expandRecords index node)
      ++ (← wireFrom scope expandRecords (index + 1) rest)

/-- The declarations of the parameters of an operation. In a connection the scope is the name of
the connection. With expansion off, records travel as one JSON value each. -/
def wire (params : List ParamNode) (scope : String) (expandRecords : Bool) :
    Except Fault (List Declaration) :=
  wireFrom scope expandRecords 0 params

/-- The declarations of the parameters of a resource path. -/
def pathDeclarations (segments : List Naming.Segment) : List Declaration :=
  (segments.filter (·.isParam)).zipIdx.flatMap fun (segment, index) =>
    [⟨"pathParam" ++ toString index, segment.name⟩,
     ⟨"pathParamType" ++ toString index, segment.typeName⟩]

/-- A declaration as an element. -/
def Declaration.element (d : Declaration) : String :=
  "<property name=\"" ++ d.name ++ "\" value=\"" ++ Xml.escape d.value ++ "\"/>"

/-- Declarations as elements, one a line. -/
def propertyElements (declarations : List Declaration) : String :=
  "\n        ".intercalate (declarations.map Declaration.element)

end SignatureForms
