import SignatureForms.Artifact.Operation
import SignatureForms.Artifact.Progress
import SignatureForms.Naming.Registry
import SignatureForms.Report.Basic

/-!
# Generating modules

Every operation of every client is classified, named and rendered, or skipped with a reason. The
report tells which; the progress tells each step.
-/

namespace SignatureForms

/-- What is generated for one client. -/
structure ClientArtifacts where
  /-- The client. -/
  client : Client
  /-- The artifact of the init operation, if there is one and it is not skipped. -/
  init : Option OperationArtifact
  /-- The artifacts of the operations that are not skipped, in order. -/
  operations : List OperationArtifact
  /-- The report. -/
  report : ClientReport
deriving Inhabited

/-- What is generated for a module. -/
structure ModuleArtifacts where
  /-- The module. -/
  module : Module
  /-- What is generated for its clients, in order. -/
  clients : List ClientArtifacts
  /-- The report. -/
  report : GenerationReport
deriving Inhabited

/-- A report with a skipped operation. -/
def ClientReport.skipOperation (report : ClientReport) (op : Operation) (skip : Skip) :
    ClientReport :=
  report.skip op.name skip.reason skip.detail

/-- Generates the init operation of a client. -/
def generateInit (types : TypeGraph) (settings : Settings) (connection : String) (op : Operation)
    (report : ClientReport) : Except Fault (Option OperationArtifact × ClientReport) := do
  match ← classifyOperation types op settings.fieldBudget with
  | .error skip => return (none, report.skipOperation op skip)
  | .ok params =>
    let artifact ← connectionArtifact settings op params connection
    return (some artifact, report.include op.name connection op.kind.name)

/-- The name for which an operation asks the registry. In a module with a dotted name the dots of
operation names become underscores. -/
def requestedName (types : TypeGraph) (settings : Settings) (op : Operation) : String :=
  let name := Naming.avoidClash (Naming.resolveName types op) op
  if settings.hasDottedName then Naming.withoutDots name else name

/-- Generates one operation, given the names that are taken. -/
def generateOperation (types : TypeGraph) (settings : Settings) (op : Operation)
    (names : Naming.Registry) (report : ClientReport) :
    Except Fault (Option OperationArtifact × Naming.Registry × ClientReport) := do
  match ← classifyOperation types op settings.fieldBudget with
  | .error skip => return (none, names, report.skipOperation op skip)
  | .ok params =>
    let (name, names) := names.reserve (requestedName types settings op)
    let artifact ← operationArtifact settings op params name
    return (some artifact, names, report.include op.name name op.kind.name)

/-- Generates operations in order, each as a step. -/
def generateOperations (types : TypeGraph) (settings : Settings) (client : String) :
    List Operation → Naming.Registry → ClientReport →
      Run (List OperationArtifact × ClientReport)
  | [], _, report => pure ([], report)
  | op :: rest, names, report => do
    let (artifact, names, report) ←
      Run.step (client ++ "." ++ op.name) "Classify and render operation"
        (generateOperation types settings op names report)
    let (artifacts, report) ← generateOperations types settings client rest names report
    return (artifact.toList ++ artifacts, report)

/-- Generates a client: its init operation first, then the others. -/
def generateClient (types : TypeGraph) (settings : Settings) (client : Client) :
    Run ClientArtifacts := do
  let connection := Naming.orElse (settings.connectionType.getD "") client.connectionType
  let report := ClientReport.start client.name (some connection)
  let (init, report) ←
    match client.init with
    | none => pure (none, report)
    | some op =>
      Run.step (client.name ++ ".init") "Classify and render init"
        (generateInit types settings connection op report)
  let (operations, report) ←
    generateOperations types settings client.name client.operations .empty report
  return { client, init, operations, report }

/-- Generates clients in order. -/
def generateClients (types : TypeGraph) (settings : Settings) :
    List Client → Run (List ClientArtifacts)
  | [] => pure []
  | client :: rest => do
    let artifacts ← generateClient types settings client
    let others ← generateClients types settings rest
    return artifacts :: others

/-- Generates a module with the given settings. -/
def generateWith (module : Module) (settings : Settings) : Run ModuleArtifacts := do
  let settings := settings.withModuleName module.name
  let clients ← generateClients module.types settings module.clients
  return {
    module, clients
    report := {
      name := module.name, org := module.org, version := module.version
      clients := clients.map ClientArtifacts.report } }

/-- Generates a module with the settings of its document. -/
def generate (module : Module) : Run ModuleArtifacts := do
  let settings ← Run.ofExcept (Settings.ofPairs module.config [])
  generateWith module settings

end SignatureForms
