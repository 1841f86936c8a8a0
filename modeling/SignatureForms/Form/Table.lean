import SignatureForms.Form.Input

/-!
# Tables

A map is entered as rows of a key and either a value or the fields of its record values; an array
as rows of its elements. Arrays of arrays have a table in each row, arrays of unions a choice of
type and a value.
-/

namespace SignatureForms

/-- A column for values of a kind, without a condition. -/
def columnEntry (name display : String) (kind : Option Kind) (required : Bool) (help : String) :
    Entry :=
  let spec : InputSpec :=
    { name, display, required, default := none, helpTip := some help, condition := .empty }
  match kind with
  | some .int => spec.field (some (patternFor required integerPattern))
  | some .decimal | some .float => spec.field (some (patternFor required decimalPattern))
  | some .boolean => { spec with default := some "false" }.checkBox
  | _ => spec.field none

/-- A column for a field of a record. -/
def fieldColumn (column : Column) : Entry :=
  let display := Naming.capitalize column.info.value
  columnEntry column.info.value display (some column.kind) column.info.required
    (textOr column.info.description display)

/-- The hint for a column of plain values. -/
def valueHelp (kind : Option Kind) (fallback : String) : String :=
  match kind with
  | some .int => "Integer value"
  | some .decimal | some .float => "Decimal value"
  | some .boolean => "Boolean value (true/false)"
  | _ => fallback

/-- A table. Unless other columns are named, rows are told apart by the first column and stand for
the last one. -/
def tableEntry (name display : String) (columns : List Entry) (required : Bool)
    (description : Option String) (condition : Condition) (key value : Option String) : Entry :=
  .table
    { name
      displayName := display
      description := textOr description ("Configure " ++ display ++ " entries")
      tableKey := key.getD ((columns.head?.map Entry.name).getD "")
      tableValue := value.getD ((columns.getLast?.map Entry.name).getD "")
      required
      condition }
    columns

/-- The columns of a map. -/
def mapColumns (shape : MapShape) : List Entry :=
  let key := columnEntry "key" "Key" (some .string) true "Key for the map entry"
  if shape.columns.isEmpty then
    [key, columnEntry "value" "Value" shape.valueKind true
      (valueHelp shape.valueKind "Value for the map entry")]
  else key :: shape.columns.map fieldColumn

/-- The table for a map. -/
def mapTable (info : NodeInfo) (shape : MapShape) (condition : Condition) : Entry :=
  tableEntry info.name (controlDisplay info.value) (mapColumns shape) info.required
    info.description condition none none

/-- The columns of an array of arrays: a label and a table for the elements of the row. -/
def rowColumns (innerKind : Option Kind) (required : Bool) : List Entry :=
  let label : InputSpec :=
    { name := "rowLabel", display := "Row Label", required := false, default := none
      helpTip := some "Label for this row (optional)", condition := .empty }
  let value := columnEntry "value" "Value" innerKind true (valueHelp innerKind "Value")
  [label.field none,
   tableEntry "innerArray" "Inner Array" [value] required (some "Inner array elements") .empty
    (some "value") (some "value")]

/-- The columns of an array of unions: the type of an element and its value. -/
def choiceColumns (memberKinds : List Kind) : List Entry :=
  let types := if memberKinds.isEmpty then [Kind.string.name] else memberKinds.map Kind.name
  let selector : InputSpec :=
    { name := "type", display := "Type", required := true, default := types.head?
      helpTip := some "Select the data type for this element", condition := .empty }
  [selector.combo types, columnEntry "value" "Value" (some .string) true "Element value"]

/-- The table for an array. -/
def arrayTable (info : NodeInfo) (shape : ArrayShape) (condition : Condition) : Entry :=
  let display := controlDisplay info.value
  if shape.twoDimensional then
    tableEntry info.name display (rowColumns shape.innerKind info.required) info.required
      info.description condition (some "Row") (some "rowLabel")
  else
    let columns :=
      if shape.ofUnions then choiceColumns shape.memberKinds
      else if shape.columns.isEmpty then
        [columnEntry "value" "Value" shape.elementKind true
          (valueHelp shape.elementKind "Array element")]
      else shape.columns.map fieldColumn
    tableEntry info.name display columns info.required info.description condition none none

end SignatureForms
