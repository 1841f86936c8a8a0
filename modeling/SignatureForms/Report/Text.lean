import SignatureForms.Report.Basic

/-!
# Reports as text

The report as it is printed and kept beside the artifacts.
-/

namespace SignatureForms

/-- The double rule around the head and the foot of a report. -/
def banner : String := String.ofList (List.replicate 49 '=')

/-- The rule below the heading of a client. -/
def rule : String := String.ofList (List.replicate 49 '-')

/-- Lines, each with its line end. -/
def linesText (lines : List String) : String :=
  "\n".intercalate lines ++ "\n"

/-- The line of an operation that is offered; a name that was kept is shown once. -/
def IncludedOperation.line (op : IncludedOperation) : String :=
  if op.resolvedName = op.declaredName then s!"    - {op.declaredName} [{op.kind}]"
  else s!"    - {op.declaredName} -> {op.resolvedName} [{op.kind}]"

/-- The line of an operation that is not offered. -/
def SkippedOperation.line (op : SkippedOperation) : String :=
  s!"    - {op.name}: {op.reason}"

/-- The lines of one client. -/
def ClientReport.lines (r : ClientReport) : List String :=
  let connection :=
    match r.connectionType with
    | some name => s!" ({name})"
    | none => ""
  let skipped :=
    if r.skipped.isEmpty then []
    else ["", s!"  Skipped operations ({r.skipped.length}):"] ++ r.skipped.map (·.line)
  ["Client: " ++ r.client ++ connection, rule, s!"  Included operations ({r.included.length}):"]
    ++ r.included.map (·.line) ++ skipped
    ++ ["", s!"  Summary: {r.included.length} included, {r.skipped.length} skipped", ""]

/-- The title of the connector that a report is about. -/
def GenerationReport.title (r : GenerationReport) : String :=
  s!"{r.org}/{r.name} v{r.version}"

/-- The totals of a report. -/
def GenerationReport.totals (r : GenerationReport) : String :=
  s!"Total: {r.includedCount} included, {r.skippedCount} skipped"

/-- The report as text. -/
def GenerationReport.text (r : GenerationReport) : String :=
  linesText
    ([banner, "       Connector Generation Status Report        ", banner,
        "Connector : " ++ r.title, ""]
      ++ r.clients.flatMap ClientReport.lines
      ++ [banner, r.totals, banner])

end SignatureForms
