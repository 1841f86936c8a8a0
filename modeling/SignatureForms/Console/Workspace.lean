import SignatureForms.Console.Plan

/-!
# Running without a disk

What a plan leaves behind in a directory that is given as data: the files, what was printed, and
whether writing failed because a directory is missing. A path with names of directories that are
not there cannot be written to.
-/

namespace SignatureForms.Console

/-- The place of a file or directory: the names that lead to it from the working directory. -/
abbrev Place := List String

/-- The contents of a working directory. -/
structure Workspace where
  /-- The directories, but for the working directory itself. -/
  directories : List Place
  /-- The files with their texts. -/
  files : List (Place × String)
deriving Inhabited

/-- The place that a name leads to from another one. -/
def step (here : Place) (name : String) : Place :=
  if name = ".." then here.dropLast else here ++ [name]

/-- The place that names lead to from the working directory. -/
def reach (names : List String) : Place := names.foldl step []

/-- The places that names go through, up to the one that they lead to. -/
def placesTo (names : List String) : List Place :=
  (List.range names.length).map fun n => reach (names.take (n + 1))

namespace Workspace

/-- The place is a directory. -/
def isDirectory (w : Workspace) (place : Place) : Bool :=
  place.isEmpty || w.directories.contains place

/-- The place that names lead to from a directory, if those on the way are directories. -/
def walk (w : Workspace) (here : Place) : List String → Option Place
  | [] => some here
  | [name] => some (step here name)
  | name :: rest =>
    if w.isDirectory (step here name) then w.walk (step here name) rest else none

/-- The place of a path. A path from the root leads out of the working directory. -/
def place? (w : Workspace) (path : String) : Option Place :=
  if path.startsWith "/" then none else w.walk [] (pathNames path)

/-- The text of a file. -/
def read? (w : Workspace) (path : String) : Option String :=
  (w.place? path).bind fun place => w.files.lookup place

/-- The contents with one more directory and those above it. -/
def makeDirectory (w : Workspace) (path : String) : Workspace :=
  { w with directories := w.directories ++ placesTo (pathNames path) }

/-- The contents with a text as the file at a place. -/
def put (w : Workspace) (place : Place) (text : String) : Workspace :=
  { w with files := (w.files.filter fun file => file.1 != place) ++ [(place, text)] }

end Workspace

/-- How a program ends. -/
structure Outcome where
  /-- What was printed. -/
  stdout : String
  /-- The places that were written to, each once. -/
  written : List Place
  /-- The contents of the working directory. -/
  workspace : Workspace
  /-- The fault that ended the program. -/
  fault : Option Fault

/-- A file is written to a place. -/
def Outcome.put (o : Outcome) (place : Place) (text : String) : Outcome :=
  { o with
    workspace := o.workspace.put place text
    written := if o.written.contains place then o.written else o.written ++ [place] }

/-- Carries out actions in order, up to the first that fails. -/
def Outcome.carryOut (o : Outcome) : List Action → Outcome
  | [] => o
  | .print text :: rest => { o with stdout := o.stdout ++ text }.carryOut rest
  | .makeDirectory path :: rest =>
    { o with workspace := o.workspace.makeDirectory path }.carryOut rest
  | .write path text :: rest =>
    match o.workspace.place? path with
    | some place => (o.put place text).carryOut rest
    | none => { o with fault := some (.missingFile path) }

/-- Carries out a plan. -/
def Plan.run (plan : Plan) (w : Workspace) : Outcome :=
  let o := (Outcome.mk "" [] w none).carryOut plan.actions
  match o.fault with
  | some _ => o
  | none => { o with fault := plan.fault }

end SignatureForms.Console
