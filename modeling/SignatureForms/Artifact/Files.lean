import SignatureForms.Artifact.Module
import SignatureForms.Report.Text

/-!
# Files of a module

Where the artifacts of a module are kept: templates below `functions`, forms below `uischema`,
templates of connections below `config`, and the report beside these. Operation names are unique
within a client only, so with several clients the connection goes before the name.
-/

namespace SignatureForms

/-- A file with its path below the output directory. -/
structure OutputFile where
  /-- The directory below the output directory; empty for the output directory itself. -/
  directory : String
  /-- The name of the file. -/
  name : String
  /-- The text of the file. -/
  text : String
deriving DecidableEq, Repr, Inhabited

/-- The directories below the output directory. -/
def outputDirectories : List String := ["functions", "uischema", "config"]

/-- The path of a file below the output directory. -/
def OutputFile.path (file : OutputFile) : String :=
  if file.directory.isEmpty then file.name else file.directory ++ "/" ++ file.name

/-- The template and the form of an artifact. -/
def OperationArtifact.files (a : OperationArtifact) (directory before : String) :
    List OutputFile :=
  [⟨directory, before ++ a.name ++ ".xml", a.xml⟩,
   ⟨"uischema", before ++ a.name ++ ".json", a.form.text⟩]

/-- What goes before the names of the operations of a client. -/
def ClientArtifacts.before (c : ClientArtifacts) (several : Bool) : String :=
  if several then c.report.connectionType.getD "" ++ "_" else ""

/-- The files of one client, which is the only one or one of several. -/
def ClientArtifacts.files (c : ClientArtifacts) (several : Bool) : List OutputFile :=
  c.init.toList.flatMap (·.files "config" "")
    ++ c.operations.flatMap (·.files "functions" (c.before several))

/-- The files of a module in the order in which they are written. -/
def ModuleArtifacts.files (m : ModuleArtifacts) : List OutputFile :=
  m.clients.flatMap (·.files (1 < m.clients.length))
    ++ [⟨"", "generation-report.log", m.report.text⟩]

end SignatureForms
