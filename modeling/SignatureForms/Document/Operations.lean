import SignatureForms.Document.Types

/-!
# Reading operations

The parameters and operations of a document. An operation is remote unless its `kind` says
otherwise; a parameter with a default may be left out of a call unless `defaultable` says
otherwise.
-/

namespace SignatureForms.Document

/-- Reads one parameter. -/
def readParameter (table : NamedTypes) (value : Json) : Loading Parameter :=
  match value with
  | .obj entries => do
    let default := Json.given? entries "default"
    let name ← nameOf .parameter entries
    let type ← readType table ((entries.lookup "type").getD .null)
    return {
      name, type
      defaultable := ((entries.lookup "defaultable").map Json.truthy).getD default.isSome
      default := default.map Json.display
      doc := docOf entries }
  | other => throw (.parameterShape other)

/-- The kind of an operation, by its word in any case. -/
def operationKindOf (entries : Json.Entries) : Except Fault OperationKind :=
  let word := Unicode.lowercase (((entries.lookup "kind").map Json.display).getD "remote")
  match OperationKind.ofName? word with
  | some kind => return kind
  | none => throw (.operationKind word)

/-- Reads one operation. -/
def readOperation (table : NamedTypes) (value : Json) : Loading Operation := do
  let entries ← entriesOf value
  let kind ← operationKindOf entries
  let name ← nameOf .operation entries
  let params ← (← itemsAt entries "params").mapM (readParameter table)
  let path := (← itemsAt entries "path").map Json.display
  let returns ←
    match Json.given? entries "returns" with
    | some type => some <$> readType table type
    | none => pure none
  return {
    name, kind, params, path, returns
    operationId := textAt? entries "operationId"
    doc := textAt entries "doc" }

/-- The init section as an operation: its name is `init` unless it gives another, its kind is
always `init`. -/
def initEntries (entries : Json.Entries) : Json.Entries :=
  Json.put "kind" (.str "init")
    (entries.foldl (fun merged entry => Json.put entry.1 entry.2 merged) [("name", .str "init")])

/-- Reads the operation that sets up a connection, if there is one. -/
def readInit (table : NamedTypes) (value : Option Json) : Loading (Option Operation) :=
  match value with
  | none | some .null => return none
  | some (.obj entries) => some <$> readOperation table (.obj (initEntries entries))
  | some other => throw (.initShape other)

end SignatureForms.Document
