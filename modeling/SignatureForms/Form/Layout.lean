import SignatureForms.Form.Render

/-!
# Form documents

The form of an operation shows path parameters and required parameters first and everything that
may be left out in a collapsed group. The form of a connection keeps the required ones in a group
too.
-/

namespace SignatureForms

/-- What a form belongs to. -/
inductive FormOwner where
  /-- An operation. -/
  | operation
  /-- A connection. -/
  | connection
deriving DecidableEq, Repr, Inhabited

/-- The key under which a form names its owner. -/
def FormOwner.key : FormOwner → String
  | operation => "operationName"
  | connection => "connectionName"

/-- A whole form. -/
structure FormDocument where
  /-- What the form belongs to. -/
  owner : FormOwner
  /-- The name of the owner. -/
  name : String
  /-- The title. -/
  title : String
  /-- A help text. -/
  help : String
  /-- The entries. -/
  elements : List Entry
deriving Inhabited

/-- The parameters shown at once. -/
def basicParams (params : List ParamNode) : List ParamNode :=
  params.filter (!·.info.isAdvanced)

/-- The parameters shown among the advanced settings. -/
def advancedParams (params : List ParamNode) : List ParamNode :=
  params.filter (·.info.isAdvanced)

/-- The collapsed group of advanced settings, if there are any. -/
def advancedGroup (entries : List Entry) : List Entry :=
  if entries.isEmpty then [] else [.group "Advanced" true .empty entries]

/-- The form of an operation. -/
def operationForm (name title : String) (params : List ParamNode)
    (path : List Naming.Segment) (help : String) (expandRecords : Bool) :
    Except Fault FormDocument := do
  let ctx : FormContext := { expandRecords, configContext := false }
  let pathPart ← pathEntries path
  let basic ← renderForm ctx (basicParams params)
  let advanced ← renderForm ctx (advancedParams params)
  return { owner := .operation, name, title, help
           elements := pathPart ++ basic ++ advancedGroup advanced }

/-- The form of a connection. -/
def connectionForm (name title : String) (params : List ParamNode) (help : String)
    (expandRecords : Bool) : Except Fault FormDocument := do
  let ctx : FormContext := { expandRecords, configContext := true }
  let basic ← renderForm ctx (basicParams params)
  let advanced ← renderForm ctx (advancedParams params)
  return { owner := .connection, name, title, help
           elements := .group "Basic" false .empty basic :: advancedGroup advanced }

/-- A form in the written form. -/
def FormDocument.toJson (form : FormDocument) : Json :=
  .obj [(form.owner.key, .str form.name), ("title", .str form.title), ("help", .str form.help),
    ("elements", .arr (Entry.toJsonAll form.elements))]

/-- The text of a form. -/
def FormDocument.text (form : FormDocument) : String :=
  form.toJson.pretty

/-- The names of the inputs and tables of a form. -/
def FormDocument.names (form : FormDocument) : List String :=
  Entry.namesAll form.elements

end SignatureForms
