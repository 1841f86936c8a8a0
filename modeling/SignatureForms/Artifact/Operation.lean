import SignatureForms.ParamTree.OfOperation
import SignatureForms.Form.Layout
import SignatureForms.Naming.Resolve
import SignatureForms.Settings
import SignatureForms.Wire.Descriptor

/-!
# Artifacts of operations

What is generated for one operation: the wire declarations, the parameter descriptors, and the
form.
-/

namespace SignatureForms

/-- What is generated for one operation. -/
structure OperationArtifact where
  /-- The operation. -/
  operation : Operation
  /-- The name under which it is offered. -/
  name : String
  /-- The title that people see. -/
  displayName : String
  /-- The parameter trees. -/
  params : List ParamNode
  /-- The parameters of the resource path. -/
  pathParams : List Naming.Segment
  /-- The wire declarations. -/
  wire : List Declaration
  /-- The parameter descriptors. -/
  descriptors : List ParameterDescriptor
  /-- The form. -/
  form : FormDocument
deriving Inhabited

/-- The template by which an operation is called. -/
def OperationArtifact.xml (a : OperationArtifact) : String :=
  let parameters :=
    if a.descriptors.isEmpty then [] else ["    " ++ parameterElements a.descriptors]
  let declarations := pathDeclarations a.pathParams ++ a.wire
  let properties :=
    if declarations.isEmpty then [] else ["        " ++ propertyElements declarations]
  let fixed (name value : String) : String :=
    "        <property name=\"" ++ name ++ "\" value=\"" ++ Xml.escape value ++ "\"/>"
  "\n".intercalate
    (["<template name=\"" ++ Xml.escape a.name ++ "\">"] ++ parameters
      ++ ["    <sequence>", fixed "operationName" a.operation.name,
        fixed "operationKind" a.operation.kind.name]
      ++ properties ++ ["    </sequence>", "</template>"])
    ++ "\n"

/-- The artifact of an operation that is offered under a name. -/
def operationArtifact (settings : Settings) (op : Operation) (params : List ParamNode)
    (name : String) : Except Fault OperationArtifact := do
  let path := Naming.pathParams op.path
  let title := Naming.displayName op name
  let declarations ← wire params "" settings.expandRecords
  let (descriptors, _) ← parameterDescriptors params [] settings.expandRecords
  let form ← operationForm name title params path op.doc settings.expandRecords
  return {
    operation := op, name, displayName := title, params, pathParams := path
    wire := declarations, descriptors, form }

/-- The artifact of the operation that sets up a connection. -/
def connectionArtifact (settings : Settings) (op : Operation) (params : List ParamNode)
    (connection : String) : Except Fault OperationArtifact := do
  let declarations ← wire params connection settings.expandRecords
  let (descriptors, _) ← parameterDescriptors params [] settings.expandRecords
  let form ← connectionForm connection connection params op.doc settings.expandRecords
  return {
    operation := op, name := connection, displayName := connection, params, pathParams := []
    wire := declarations, descriptors, form }

end SignatureForms
