import SignatureForms.Console.Grammar

/-!
# Commands

The commands of the program, their options, and how a command line is understood as one of them.
-/

namespace SignatureForms.Console

/-- How the report of a generation is printed. -/
inductive ReportOutput where
  /-- As text. -/
  | terminal
  /-- As records. -/
  | json
  /-- Not at all. -/
  | none
deriving DecidableEq, Repr, Inhabited

/-- The word for a way to print. -/
def ReportOutput.name : ReportOutput → String
  | terminal => "terminal"
  | json => "json"
  | none => "none"

/-- All ways to print. -/
def ReportOutput.all : List ReportOutput := [terminal, json, none]

/-- What the program is asked to do. -/
inductive Command where
  /-- List the clients and their operations. -/
  | listOperations (input : String)
  /-- Show the parameter trees of one operation. -/
  | showParams (input operation : String) (client : Option String) (budget : Option Int)
  /-- Write the artifacts. -/
  | generate (input outputDir : String) (html : Option String) (budget : Option Int)
      (expandRecords : Option Bool) (output : ReportOutput)
  /-- Print the report without writing artifacts. -/
  | report (input : String) (html : Option String)
deriving DecidableEq, Repr

/-- The document that a command reads. -/
def Command.input : Command → String
  | listOperations input => input
  | showParams input .. => input
  | generate input .. => input
  | report input _ => input

/-- What a command line asks for. -/
inductive Invocation where
  /-- A help text. -/
  | help (text : String)
  /-- A command. -/
  | command (c : Command)

/-! ## Options -/

/-- The option that shows the help. -/
def helpOption : OptionRule := ⟨["-h", "--help"], .help, false⟩

/-- An option with a text that may be left out. -/
def textOption (spelling : String) : OptionRule := ⟨[spelling], .value .text, false⟩

/-- An option with a text that must be given. -/
def requiredOption (spelling : String) : OptionRule := ⟨[spelling], .value .text, true⟩

/-- The option for the field budget. -/
def budgetOption : OptionRule := ⟨["--budget"], .value .integer, false⟩

/-- The lines of a help text, each with its line end. -/
def helpText (lines : List String) : String :=
  "\n".intercalate lines ++ "\n"

/-- The line of a help text about the help. -/
def helpLine : String := "  -h, --help            show this help message and exit"

/-- What may be given before a command. -/
def programGrammar : Grammar where
  options := [helpOption, ⟨["-v", "--verbose"], .switch, false⟩, ⟨["-q", "--quiet"], .switch, false⟩]
  help := helpText
    ["usage: paramflow [-h] [-v] [-q]",
      "                 \x7blist-operations,show-params,generate,report\x7d ...",
      "",
      "Parameter model compiler",
      "",
      "positional arguments:",
      "  \x7blist-operations,show-params,generate,report\x7d",
      "    list-operations     List clients and their operations",
      "    show-params         Show the classified parameter tree of one operation",
      "    generate            Generate wire and form artifacts",
      "    report              Print the generation report without writing artifacts",
      "",
      "options:",
      helpLine,
      "  -v, --verbose         Log debug details to stderr.",
      "  -q, --quiet           Only log errors."]

/-- What may be given to `list-operations`. -/
def listGrammar : Grammar where
  options := [helpOption, requiredOption "--input"]
  help := helpText
    ["usage: paramflow list-operations [-h] --input INPUT",
      "",
      "options:",
      "  -h, --help     show this help message and exit",
      "  --input INPUT  Module description JSON file"]

/-- What may be given to `show-params`. -/
def showGrammar : Grammar where
  options := [helpOption, requiredOption "--input", requiredOption "--operation",
    textOption "--client", budgetOption]
  help := helpText
    ["usage: paramflow show-params [-h] --input INPUT --operation OPERATION",
      "                             [--client CLIENT] [--budget BUDGET]",
      "",
      "options:",
      helpLine,
      "  --input INPUT",
      "  --operation OPERATION",
      "                        Operation name, or 'init' for a client init",
      "  --client CLIENT       Client name when several clients declare the operation",
      "  --budget BUDGET       Field expansion budget per parameter."]

/-- What may be given to `generate`. -/
def generateGrammar : Grammar where
  options := [helpOption, requiredOption "--input", requiredOption "--output-dir",
    textOption "--html", budgetOption, ⟨["--no-expand-records"], .switch, false⟩,
    ⟨["--output"], .value (.oneOf (ReportOutput.all.map ReportOutput.name)), false⟩]
  help := helpText
    ["usage: paramflow generate [-h] --input INPUT --output-dir OUTPUT_DIR",
      "                          [--html HTML] [--budget BUDGET]",
      "                          [--no-expand-records]",
      "                          [--output \x7bterminal,json,none\x7d]",
      "",
      "options:",
      helpLine,
      "  --input INPUT",
      "  --output-dir OUTPUT_DIR",
      "                        Directory for generated artifacts.",
      "  --html HTML           Optional output path for an HTML generation report.",
      "  --budget BUDGET       Field expansion budget per parameter.",
      "  --no-expand-records   Render record parameters as JSON text instead of",
      "                        individual fields.",
      "  --output \x7bterminal,json,none\x7d",
      "                        How to emit the generation report to stdout."]

/-- What may be given to `report`. -/
def reportGrammar : Grammar where
  options := [helpOption, requiredOption "--input", textOption "--html"]
  help := helpText
    ["usage: paramflow report [-h] --input INPUT [--html HTML]",
      "",
      "options:",
      "  -h, --help     show this help message and exit",
      "  --input INPUT",
      "  --html HTML    Optional output path for an HTML generation report."]

/-! ## Understanding -/

/-- The text of an option. -/
def Given.text? (given : Given) (key : String) : Option String :=
  match given.values.lookup key with
  | some (.text value) => some value
  | _ => none

/-- The text of an option that must be given. -/
def Given.text (given : Given) (key : String) : String :=
  (given.text? key).getD ""

/-- The number of an option. -/
def Given.integer? (given : Given) (key : String) : Option Int :=
  match given.values.lookup key with
  | some (.integer value) => some value
  | _ => none

/-- The commands by name, each with its grammar and its meaning. -/
def commands : List (String × Grammar × (Given → Command)) :=
  [("list-operations", listGrammar, fun given => .listOperations (given.text "--input")),
    ("show-params", showGrammar, fun given =>
      .showParams (given.text "--input") (given.text "--operation") (given.text? "--client")
        (given.integer? "--budget")),
    ("generate", generateGrammar, fun given =>
      .generate (given.text "--input") (given.text "--output-dir") (given.text? "--html")
        (given.integer? "--budget")
        (if (given.values.lookup "--no-expand-records").isSome then some false else none)
        ((ReportOutput.all.find? fun o => some o.name = given.text? "--output").getD .terminal)),
    ("report", reportGrammar, fun given =>
      .report (given.text "--input") (given.text? "--html"))]

/-- A halt as an answer: a wanted help is no error. -/
def answerHalt (g : Grammar) : Halt → Except UsageError Invocation
  | .help => return .help g.help
  | .wrong error => throw error

/-- What a command line asks for. Without a command that is the help. -/
def understand (words : List String) : Except UsageError Invocation :=
  match programGrammar.read true words with
  | .error halt => answerHalt programGrammar halt
  | .ok outer =>
    match outer.command with
    | [] =>
      if outer.extras.isEmpty then return .help programGrammar.help
      else throw (.unrecognized outer.extras)
    | name :: rest =>
      match commands.lookup name with
      | none => throw (.notAllowed "command" name (commands.map Prod.fst))
      | some (grammar, meaning) =>
        match grammar.read false rest with
        | .error halt => answerHalt grammar halt
        | .ok given =>
          let extras := outer.extras ++ given.extras
          if extras.isEmpty then return .command (meaning given)
          else throw (.unrecognized extras)

end SignatureForms.Console
