import SignatureForms.Json.Literal
import SignatureForms.ParamTree.Node
import SignatureForms.Report.Basic

/-!
# Printed tables

Rows of cells under headings, every column as wide as its widest cell and set flush right. Tabs
and line ends inside a cell are shown as escapes.
-/

namespace SignatureForms.Console

/-- One character of a cell. -/
def cellChar : Char → List Char
  | '\t' => ['\\', 't']
  | '\n' => ['\\', 'n']
  | '\r' => ['\\', 'r']
  | c => [c]

/-- A text as a cell. -/
def cell (text : String) : List Char :=
  text.toList.flatMap cellChar

/-- A cell filled up with blanks on its left. -/
def flushRight (width : Nat) (text : List Char) : List Char :=
  List.replicate (width - text.length) ' ' ++ text

/-- The cells of a row by position, filled up to the widths of the columns. -/
def rowText (widths : List Nat) (row : List (List Char)) : String :=
  " ".intercalate ((widths.zip row).map fun (width, text) => String.ofList (flushRight width text))

/-- The widths of the columns of some rows. -/
def columnWidths : List (List (List Char)) → List Nat
  | [] => []
  | [row] => row.map List.length
  | row :: rest => List.zipWith max (row.map List.length) (columnWidths rest)

/-- A table without a line end after its last row. -/
def tableText (headings : List String) (rows : List (List String)) : String :=
  let all := (headings :: rows).map fun row => row.map cell
  "\n".intercalate (all.map (rowText (columnWidths all)))

/-- A titled table; a table without rows says so. -/
def titledTable (title : String) (headings : List String) (rows : List (List String)) : String :=
  "\n" ++ title ++ "\n" ++ String.ofList (List.replicate title.length '-') ++ "\n"
    ++ (if rows.isEmpty then "(none)" else tableText headings rows) ++ "\n"

/-- What is shown of a node beside its name and kind. -/
def nodeDetail : ParamNode → String
  | .simple .. => ""
  | .record _ recordName _ fields => recordName ++ " (" ++ toString fields.length ++ " field(s))"
  | .map _ shape => if shape.asTable then "table" else "json"
  | .array _ shape => if shape.asTable then "table" else "json"
  | .union _ members =>
    ", ".intercalate (members.map fun member =>
      (TypeDescriptor.nonEmpty? member.info.label).getD member.kind.name)

/-- The row of a node. -/
def nodeRow (node : ParamNode) : List String :=
  [node.name, node.kind.name, Json.boolText node.info.required, node.info.default.getD "",
    node.condition.text, nodeDetail node]

/-- The headings of nodes. The one of truth values has a blank before it. -/
def nodeHeadings : List String := ["name", "kind", " required", "default", "condition", "detail"]

/-- The headings of a report. -/
def reportHeadings : List String :=
  ["client", "connection", "status", "operation", "resolved_name", "kind", "reason"]

/-- The cells of a row of a report. -/
def reportCells (row : ReportRow) : List String :=
  [row.client, row.connection.getD "None", row.status, row.operation, row.resolvedName, row.kind,
    row.reason]

/-- The rows of a report as records, on one line. -/
def reportRecords (rows : List ReportRow) : String :=
  (Json.arr (rows.map fun row =>
    .obj ((reportHeadings.zip (reportCells row)).map fun (key, text) => (key, .str text)))).embedded

end SignatureForms.Console
