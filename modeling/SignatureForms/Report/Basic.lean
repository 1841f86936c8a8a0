/-!
# Generation reports

Which operations of a module were included, under which names, and which were skipped, and why.

* `GenerationReport.length_rows` — there is one row for each included and each skipped operation.
-/

namespace SignatureForms

/-- An operation that is offered. -/
structure IncludedOperation where
  /-- The declared name. -/
  declaredName : String
  /-- The name under which it is offered. -/
  resolvedName : String
  /-- The word for its kind. -/
  kind : String
deriving DecidableEq, Repr, Inhabited

/-- An operation that is not offered. -/
structure SkippedOperation where
  /-- The declared name. -/
  name : String
  /-- Why it is not offered. -/
  reason : String
  /-- What the reason is about; may be empty. -/
  detail : String
deriving DecidableEq, Repr, Inhabited

/-- The report on one client. -/
structure ClientReport where
  /-- The name of the client. -/
  client : String
  /-- The name of its connection, if it has one. -/
  connectionType : Option String
  /-- The operations that are offered, in order. -/
  included : List IncludedOperation
  /-- The operations that are not offered, in order. -/
  skipped : List SkippedOperation
deriving DecidableEq, Repr, Inhabited

/-- The report on a module. -/
structure GenerationReport where
  /-- The name of the module. -/
  name : String
  /-- The organisation that publishes the module. -/
  org : String
  /-- The version of the module. -/
  version : String
  /-- The reports on the clients, in order. -/
  clients : List ClientReport
deriving DecidableEq, Repr, Inhabited

/-- One line of the report as a table. -/
structure ReportRow where
  /-- The name of the client. -/
  client : String
  /-- The name of its connection. -/
  connection : Option String
  /-- Whether the operation was included or skipped. -/
  status : String
  /-- The declared name. -/
  operation : String
  /-- The name under which it is offered. -/
  resolvedName : String
  /-- The word for its kind. -/
  kind : String
  /-- Why it is not offered. -/
  reason : String
deriving DecidableEq, Repr, Inhabited

/-- The report before any operation. -/
def ClientReport.start (client : String) (connectionType : Option String) : ClientReport :=
  ⟨client, connectionType, [], []⟩

/-- The report with one more operation that is offered. -/
def ClientReport.include (r : ClientReport) (declaredName resolvedName kind : String) :
    ClientReport :=
  { r with included := r.included ++ [⟨declaredName, resolvedName, kind⟩] }

/-- The report with one more operation that is not offered. -/
def ClientReport.skip (r : ClientReport) (name reason detail : String) : ClientReport :=
  { r with skipped := r.skipped ++ [⟨name, reason, detail⟩] }

/-- The row of an operation that is offered. -/
def IncludedOperation.row (r : ClientReport) (op : IncludedOperation) : ReportRow where
  client := r.client
  connection := r.connectionType
  status := "included"
  operation := op.declaredName
  resolvedName := op.resolvedName
  kind := op.kind
  reason := ""

/-- The row of an operation that is not offered. -/
def SkippedOperation.row (r : ClientReport) (op : SkippedOperation) : ReportRow where
  client := r.client
  connection := r.connectionType
  status := "skipped"
  operation := op.name
  resolvedName := ""
  kind := ""
  reason := if op.detail.isEmpty then op.reason else op.reason ++ ": " ++ op.detail

/-- The rows of one client, the included operations first. -/
def ClientReport.rows (r : ClientReport) : List ReportRow :=
  r.included.map (·.row r) ++ r.skipped.map (·.row r)

namespace GenerationReport

/-- The rows of the report, client by client. -/
def rows (r : GenerationReport) : List ReportRow :=
  r.clients.flatMap ClientReport.rows

/-- The number of operations that are offered. -/
def includedCount (r : GenerationReport) : Nat :=
  (r.clients.flatMap ClientReport.included).length

/-- The number of operations that are not offered. -/
def skippedCount (r : GenerationReport) : Nat :=
  (r.clients.flatMap ClientReport.skipped).length

/-- The reasons of all operations that are not offered. -/
def skipReasons (r : GenerationReport) : List String :=
  r.clients.flatMap fun client => client.skipped.map SkippedOperation.reason

/-- There is one row for each included and each skipped operation. -/
theorem length_rows (r : GenerationReport) :
    r.rows.length = r.includedCount + r.skippedCount := by
  simp only [rows, includedCount, skippedCount]
  induction r.clients with
  | nil => rfl
  | cons client rest ih =>
    simp only [List.flatMap_cons, List.length_append, ih, ClientReport.rows, List.length_map]
    omega

end GenerationReport

end SignatureForms
