import SignatureForms.Console.Columns
import SignatureForms.Console.Command
import SignatureForms.Document.Module
import SignatureForms.Artifact.Files
import SignatureForms.Report.Html

/-!
# What a command does

The effects of a command as data: the directories it makes, the files it writes and the lines it
prints, in order, and the fault that ends it if there is one.
-/

namespace SignatureForms.Console

/-- One effect. -/
inductive Action where
  /-- Make a directory and those above it. -/
  | makeDirectory (path : String)
  /-- Write a file into a directory that is there. -/
  | write (path text : String)
  /-- Print a text. -/
  | print (text : String)
deriving DecidableEq, Repr

/-- The effects of a command, and the fault that follows them. -/
structure Plan where
  /-- The effects, in order. -/
  actions : List Action
  /-- What ends the command early. -/
  fault : Option Fault

/-- Nothing but a fault. -/
def Plan.ofFault (fault : Fault) : Plan := ⟨[], some fault⟩

/-- The effects of a computation that may fail. -/
def Plan.ofExcept (actions : Except Fault (List Action)) : Plan :=
  match actions with
  | .ok actions => ⟨actions, none⟩
  | .error fault => .ofFault fault

/-! ## Paths -/

/-- The names that a path goes through. -/
def pathNames (path : String) : List String :=
  ((path.toList.splitOn '/').map String.ofList).filter fun name => name != "" && name != "."

/-- Where a path starts: two slashes are kept, any other number of them is one. -/
def pathRoot (path : String) : String :=
  match path.toList with
  | ['/', '/'] => "//"
  | '/' :: '/' :: '/' :: _ => "/"
  | '/' :: '/' :: _ => "//"
  | '/' :: _ => "/"
  | _ => ""

/-- A path in its plain form, without empty and standing parts. -/
def plainPath (path : String) : String :=
  let names := "/".intercalate (pathNames path)
  if (pathRoot path).isEmpty && names.isEmpty then "." else pathRoot path ++ names

/-- A path below another one; a path from the root stands for itself, and so does one below the
empty path. -/
def joinPath (base path : String) : String :=
  if path.startsWith "/" || base.isEmpty then plainPath path else plainPath (base ++ "/" ++ path)

/-- The directory that holds a path. -/
def parentPath (path : String) : String :=
  let plain := plainPath path
  match (pathNames plain).dropLast with
  | [] => if plain.startsWith "/" then "/" else "."
  | names => (if plain.startsWith "/" then "/" else "") ++ "/".intercalate names

/-- The text of a file with every line end as one line feed. -/
def plainLineEnds : List Char → List Char
  | [] => []
  | '\r' :: '\n' :: rest => '\n' :: plainLineEnds rest
  | '\r' :: rest => '\n' :: plainLineEnds rest
  | c :: rest => c :: plainLineEnds rest

/-! ## Commands -/

/-- An option that is given and not empty. -/
def filled (option : Option String) : Option String :=
  TypeDescriptor.nonEmpty? option

/-- The effects of writing the report as a page, if that is asked for. -/
def writePage (module : Module) (report : GenerationReport) (html : Option String)
    (generatedOn : String) : List Action :=
  match filled html with
  | none => []
  | some path =>
    [.makeDirectory (parentPath path),
      .write (plainPath path) (report.html (module.name ++ " generation report") generatedOn),
      .print ("HTML report: " ++ plainPath path ++ "\n")]

/-- An optional value for a setting. -/
def budgetOverride (budget : Option Int) : Json :=
  match budget with
  | some budget => .int budget
  | none => .null

/-- An optional switch for a setting. -/
def expansionOverride (expandRecords : Option Bool) : Json :=
  match expandRecords with
  | some expand => .bool expand
  | none => .null

/-- The settings of a module with what the command line says. -/
def settingsFor (module : Module) (budget : Option Int) (expandRecords : Option Bool) :
    Except Fault Settings :=
  Settings.ofPairs module.config
    (Settings.overridesOf (budgetOverride budget) (expansionOverride expandRecords))

/-- The lines on one client. -/
def clientLines (client : Client) : List String :=
  [client.name ++ "\t" ++ client.connectionType ++ "\n"]
    ++ (client.init.map fun op => s!"  init\t{op.params.length} param(s)\n").toList
    ++ client.operations.map fun op =>
      s!"  {op.name}\t{op.kind.name}\t{op.params.length} param(s)\n"

/-- The first operation of the wanted name, each client's init operation coming after its other
ones. -/
def findOperation (module : Module) (operation : String) (client : Option String) :
    Option (Client × Operation) :=
  let wanted := module.clients.filter fun c =>
    match filled client with
    | some name => c.name == name
    | none => true
  let all := wanted.flatMap fun c => (c.operations ++ c.init.toList).map fun op => (c, op)
  all.find? fun entry => entry.2.name == operation

/-- The effects of showing the parameter trees of an operation. -/
def showPlan (module : Module) (operation : String) (client : Option String)
    (budget : Option Int) : Except Fault (List Action) := do
  let settings ← settingsFor module budget none
  match findOperation module operation client with
  | none => throw (.unknownOperation operation)
  | some (client, op) =>
    let head :=
      "Client: " ++ client.name ++ "\n" ++ "Operation: " ++ op.name ++ " (" ++ op.kind.name ++ ")\n"
    match ← classifyOperation module.types op settings.fieldBudget with
    | .error skip =>
      return [.print (head ++ "Skipped: " ++ skip.reason ++ " (" ++ skip.detail ++ ")\n")]
    | .ok params =>
      return [.print (head ++ titledTable "Parameters" nodeHeadings
        ((ParamNode.walkAll params).map nodeRow))]

/-- The path to which a file is written. -/
def outputPath (outputDir : String) (file : OutputFile) : String :=
  if file.directory.isEmpty then joinPath outputDir file.name
  else joinPath (joinPath outputDir file.directory) file.name

/-- The effects of writing the artifacts of a module. -/
def writeArtifacts (made : ModuleArtifacts) (outputDir : String) : List Action :=
  (outputDirectories.map fun directory => .makeDirectory (joinPath outputDir directory))
    ++ made.files.map fun file => .write (outputPath outputDir file) file.text

/-- The effects of a generation. -/
def generatePlan (module : Module) (outputDir : String) (html : Option String)
    (budget : Option Int) (expandRecords : Option Bool) (output : ReportOutput)
    (generatedOn : String) : Except Fault (List Action) := do
  let made ← (generateWith module (← settingsFor module budget expandRecords)).outcome
  let printed :=
    match output with
    | .terminal => [Action.print made.report.text]
    | .json => [.print (reportRecords made.report.rows ++ "\n")]
    | .none => []
  return writeArtifacts made outputDir
    ++ [.print s!"Wrote {made.files.length} file(s) to {outputDir}\n"]
    ++ writePage module made.report html generatedOn ++ printed

/-- The effects of printing the report. -/
def reportPlan (module : Module) (html : Option String) (generatedOn : String) :
    Except Fault (List Action) := do
  let made ← (generateWith module (← settingsFor module none none)).outcome
  return [.print (titledTable "Operations" reportHeadings (made.report.rows.map reportCells))]
    ++ writePage module made.report html generatedOn
    ++ [.print ("\n" ++ made.report.totals ++ "\n")]

/-- The effects of a command on a module. -/
def modulePlan (module : Module) (generatedOn : String) : Command → Except Fault (List Action)
  | .listOperations _ => return (module.clients.flatMap clientLines).map .print
  | .showParams _ operation client budget => showPlan module operation client budget
  | .generate _ outputDir html budget expandRecords output =>
    generatePlan module outputDir html budget expandRecords output generatedOn
  | .report _ html => reportPlan module html generatedOn

/-- The effects of a command, given the text of its document if there is such a file. -/
def Command.plan (command : Command) (text : Option String) (generatedOn : String) : Plan :=
  let path := plainPath command.input
  match text with
  | none => .ofFault (.missingFile path)
  | some text => .ofExcept do
    let module ← Document.readFile path (String.ofList (plainLineEnds text.toList))
    modulePlan module generatedOn command

end SignatureForms.Console
