import SignatureForms.Report.Text

/-!
# Reports as pages

The report as a page with one section for each client. A section holds the rows of every client of
the same name.
-/

namespace SignatureForms

namespace Html

/-- One character inside a page. -/
def escapeChar : Char → List Char
  | '&' => "&amp;".toList
  | '<' => "&lt;".toList
  | '>' => "&gt;".toList
  | '"' => "&quot;".toList
  | '\'' => "&#x27;".toList
  | c => [c]

/-- A text inside a page. -/
def escape (s : String) : String :=
  String.ofList (s.toList.flatMap escapeChar)

/-- The head of a page and the style of its parts. -/
def head (title : String) : List String :=
  ["<!DOCTYPE html>", "<html>", "<head>", "    <title>" ++ escape title ++ "</title>",
    "    <meta charset='utf-8'>", "    <style>",
    "        body \x7b font-family: system-ui, sans-serif; max-width: 1200px; margin: 0 auto; " ++
      "padding: 1.5rem; \x7d",
    "        .section \x7b margin: 1rem 0; padding: 1rem; border: 1px solid #ddd; " ++
      "border-radius: 6px; \x7d",
    "        .section h2 \x7b margin-top: 0; \x7d",
    "        table \x7b width: 100%; border-collapse: collapse; \x7d",
    "        th, td \x7b border-bottom: 1px solid #ddd; text-align: left; padding: 0.45rem; \x7d",
    "        .skipped \x7b color: #9a3412; \x7d",
    "    </style>", "</head>"]

/-- The headings of the columns. -/
def columns : List String := ["status", "operation", "resolved_name", "kind", "reason"]

/-- The lines of one row. -/
def row (r : ReportRow) : List String :=
  ["            <tr" ++ (if r.status = "skipped" then " class='skipped'" else "") ++ ">"]
    ++ [r.status, r.operation, r.resolvedName, r.kind, r.reason].map
      (fun cell => "                <td>" ++ escape cell ++ "</td>")
    ++ ["            </tr>"]

/-- The section of one client. -/
def clientSection (rows : List ReportRow) (r : ClientReport) : List String :=
  ["    <div class='section'>", "        <h2>" ++ escape r.client ++ "</h2>",
    s!"        <p>{r.included.length} included, {r.skipped.length} skipped</p>",
    "        <table>", "            <tr>"]
    ++ columns.map (fun heading => "                <th>" ++ escape heading ++ "</th>")
    ++ ["            </tr>"]
    ++ (rows.filter fun row => row.client == r.client).flatMap row
    ++ ["        </table>", "    </div>"]

end Html

/-- The report as a page with a title. The page tells when it was made. -/
def GenerationReport.html (r : GenerationReport) (title generatedOn : String) : String :=
  "\n".intercalate
    (Html.head title
      ++ ["<body>", "    <h1>" ++ Html.escape title ++ "</h1>",
        "    <p>" ++ Html.escape r.title ++ "</p>",
        "    <p>Generated on " ++ generatedOn ++ "</p>"]
      ++ r.clients.flatMap (Html.clientSection r.rows)
      ++ ["    <p>" ++ r.totals ++ "</p>", "</body>", "</html>"])

end SignatureForms
