import SignatureForms.Condition
import SignatureForms.Kind

/-!
# Form entries

What a form consists of: inputs, tables with columns, and groups of entries under a title. Each
entry may have a condition under which it is visible.

* `Entry.names_append` — the names of a form are those of its parts in turn.
-/

namespace SignatureForms

/-- The widgets of single inputs. -/
inductive InputType where
  /-- A text field, which also takes an expression. -/
  | stringOrExpression
  /-- A check box. -/
  | boolean
  /-- A list of choices. -/
  | combo
deriving DecidableEq, Repr, Inhabited

/-- The word for a widget. -/
def InputType.name : InputType → String
  | stringOrExpression => "stringOrExpression"
  | boolean => "boolean"
  | combo => "combo"

/-- How what is entered is checked. -/
inductive Validation where
  /-- What is entered must match a regular expression. -/
  | regex (pattern : String)
  /-- What is entered must be JSON text. -/
  | json
deriving DecidableEq, Repr, Inhabited

/-- A single input. -/
structure Input where
  /-- The name of the control. -/
  name : String
  /-- What people see. -/
  displayName : String
  /-- The widget. -/
  inputType : InputType
  /-- The value at first. -/
  default : String
  /-- Something must be entered. -/
  required : Bool
  /-- A hint. -/
  helpTip : String
  /-- The values to choose from. -/
  comboValues : Option (List String)
  /-- How the value is checked. -/
  validation : Option Validation
  /-- When the input is visible. -/
  condition : Condition
deriving DecidableEq, Repr, Inhabited

/-- What a table has besides its columns. -/
structure TableInfo where
  /-- The name of the control. -/
  name : String
  /-- What people see. -/
  displayName : String
  /-- What the table is for. -/
  description : String
  /-- The column by which rows are told apart. -/
  tableKey : String
  /-- The column that stands for a row. -/
  tableValue : String
  /-- Something must be entered. -/
  required : Bool
  /-- When the table is visible. -/
  condition : Condition
deriving DecidableEq, Repr, Inhabited

/-- A part of a form. -/
inductive Entry where
  /-- A single input. -/
  | input (i : Input)
  /-- Entries under a title. -/
  | group (title : String) (collapsed : Bool) (condition : Condition) (elements : List Entry)
  /-- A table; its columns are inputs or tables themselves. -/
  | table (info : TableInfo) (columns : List Entry)
deriving Inhabited

namespace Entry

/-- The name of an entry; groups have none. -/
def name : Entry → String
  | input i => i.name
  | group .. => ""
  | table info _ => info.name

mutual

/-- The names of the inputs and tables of an entry, groups being entered and columns not. -/
def names : Entry → List String
  | input i => [i.name]
  | group _ _ _ elements => namesAll elements
  | table info _ => [info.name]

/-- The names of the inputs and tables of several entries in turn. -/
def namesAll : List Entry → List String
  | [] => []
  | entry :: rest => names entry ++ namesAll rest

end

/-- The names of a form are those of its parts in turn. -/
@[simp]
theorem namesAll_append (entries more : List Entry) :
    namesAll (entries ++ more) = namesAll entries ++ namesAll more := by
  induction entries with
  | nil => rfl
  | cons entry rest ih => simp [namesAll, ih]

end Entry

/-- The condition of an entry in the written form, left out when it asks nothing. -/
def conditionFields (condition : Condition) : List (String × Json) :=
  if condition.isEmpty then [] else [("enableCondition", .arr condition.toList)]

/-- A single input in the written form. -/
def Input.toJson (i : Input) : Json :=
  let choices :=
    (i.comboValues.map fun values => ("comboValues", Json.arr (values.map .str))).toList
  let checks :=
    match i.validation with
    | none => []
    | some .json => [("validateType", .str "json")]
    | some (.regex pattern) => [("validateType", .str "regex"), ("matchPattern", .str pattern)]
  .obj ([("name", .str i.name), ("displayName", .str i.displayName),
      ("inputType", .str i.inputType.name), ("defaultValue", .str i.default),
      ("required", .bool i.required), ("helpTip", .str i.helpTip)]
    ++ choices ++ checks ++ conditionFields i.condition)

/-- A part of a form in the written form: its type and its value. -/
def typedJson (type : String) (value : Json) : Json :=
  .obj [("type", .str type), ("value", value)]

mutual

/-- A part of a form in the written form. -/
def Entry.toJson : Entry → Json
  | .input i => typedJson "attribute" i.toJson
  | .group title collapsed condition elements =>
    typedJson "attributeGroup" (.obj ([("groupName", .str title)]
      ++ (if collapsed then [("collapsed", .bool true)] else [])
      ++ conditionFields condition ++ [("elements", .arr (Entry.toJsonAll elements))]))
  | .table info columns =>
    typedJson "table" (.obj ([("name", .str info.name), ("displayName", .str info.displayName),
        ("title", .str info.displayName), ("description", .str info.description),
        ("tableKey", .str info.tableKey), ("tableValue", .str info.tableValue),
        ("required", .bool info.required)]
      ++ conditionFields info.condition ++ [("elements", .arr (Entry.toJsonAll columns))]))

/-- Several parts of a form in the written form. -/
def Entry.toJsonAll : List Entry → List Json
  | [] => []
  | entry :: rest => entry.toJson :: Entry.toJsonAll rest

end

end SignatureForms
