import SignatureForms.Json.Literal
import SignatureForms.Unicode.Blank
import SignatureForms.Unicode.Number

/-!
# Command line grammars

What a command line may hold: options with or without a value and, at the outer level, the name of
a command that takes all that follows. The words of the line are first told apart, as options and
plain words; then they are read from left to right. A long option may be shortened as long as no
other one starts the same way, a value may be joined by an equals sign, and short options without a
value may be joined to each other.
-/

namespace SignatureForms.Console

/-- What the value of an option must be. -/
inductive ValueRule where
  /-- Any text. -/
  | text
  /-- A whole number. -/
  | integer
  /-- One of some words. -/
  | oneOf (words : List String)
deriving DecidableEq, Repr

/-- What an option does. -/
inductive OptionEffect where
  /-- Shows the help. -/
  | help
  /-- Sets a switch. -/
  | switch
  /-- Takes a value. -/
  | value (rule : ValueRule)
deriving DecidableEq, Repr

/-- One option. -/
structure OptionRule where
  /-- The spellings of the option; the last one is its key. -/
  spellings : List String
  /-- What the option does. -/
  effect : OptionEffect
  /-- The option must be given. -/
  required : Bool
deriving DecidableEq, Repr

/-- The spelling by which the value of an option is kept. -/
def OptionRule.key (rule : OptionRule) : String :=
  rule.spellings.getLast?.getD ""

/-- What messages call an option. -/
def OptionRule.label (rule : OptionRule) : String :=
  "/".intercalate rule.spellings

/-- What may be given to a program or to one of its commands. -/
structure Grammar where
  /-- The options, in the order in which they are declared. -/
  options : List OptionRule
  /-- The help text. -/
  help : String
deriving Repr

/-- All spellings of the options of a grammar, each with its option. -/
def Grammar.spellings (g : Grammar) : List (String × OptionRule) :=
  g.options.flatMap fun rule => rule.spellings.map fun spelling => (spelling, rule)

/-- What is wrong with a command line. -/
inductive UsageError where
  /-- A shortened option that several options start with. -/
  | ambiguous (given : String) (candidates : List String)
  /-- An option without its value. -/
  | missingValue (option : String)
  /-- A value for an option that takes none. -/
  | unwantedValue (option value : String)
  /-- A value that is no whole number. -/
  | notInteger (option value : String)
  /-- A value, or a command, that is not among the allowed ones. -/
  | notAllowed (option value : String) (allowed : List String)
  /-- Options that must be given and are not. -/
  | missingOptions (options : List String)
  /-- Words that mean nothing here. -/
  | unrecognized (words : List String)
deriving DecidableEq, Repr

/-- The words for what is wrong with a command line. -/
def UsageError.message : UsageError → String
  | ambiguous given candidates =>
    "ambiguous option: " ++ given ++ " could match " ++ ", ".intercalate candidates
  | missingValue option => "argument " ++ option ++ ": expected one argument"
  | unwantedValue option value =>
    "argument " ++ option ++ ": ignored explicit argument " ++ Json.quoted value
  | notInteger option value =>
    "argument " ++ option ++ ": invalid int value: " ++ Json.quoted value
  | notAllowed option value allowed =>
    "argument " ++ option ++ ": invalid choice: " ++ Json.quoted value ++ " (choose from "
      ++ ", ".intercalate (allowed.map Json.quoted) ++ ")"
  | missingOptions options =>
    "the following arguments are required: " ++ ", ".intercalate options
  | unrecognized words => "unrecognized arguments: " ++ " ".intercalate words

/-! ## Numbers -/

/-- White space around a number: the blanks but for the four separators of ASCII. -/
def isNumberBlank (c : Char) : Bool :=
  Unicode.isBlank c && !('\x1c' ≤ c && c ≤ '\x1f')

/-- The number that decimal digits write, `n` being what the digits before them write. Single
underscores may stand between digits. -/
def digitsFrom (n : Nat) : List Char → Option Nat
  | [] => some n
  | '_' :: c :: rest =>
    match Unicode.decimalValue? c with
    | some d => digitsFrom (n * 10 + d) rest
    | none => none
  | c :: rest =>
    match Unicode.decimalValue? c with
    | some d => digitsFrom (n * 10 + d) rest
    | none => none

/-- The number that a text of decimal digits writes. -/
def natural? : List Char → Option Nat
  | [] => none
  | c :: rest =>
    match Unicode.decimalValue? c with
    | some d => digitsFrom d rest
    | none => none

/-- The whole number that a text writes. -/
def integer? (text : String) : Option Int :=
  let trimmed := ((text.toList.dropWhile isNumberBlank).reverse.dropWhile isNumberBlank).reverse
  match trimmed with
  | '-' :: digits => (natural? digits).map fun n => -(n : Int)
  | '+' :: digits => (natural? digits).map fun n => (n : Int)
  | digits => (natural? digits).map fun n => (n : Int)

/-- The text looks like a negative number, so it is no option. A line end may follow it. -/
def isNegativeNumber (text : List Char) : Bool :=
  match text with
  | '-' :: rest =>
    let rest := if rest.getLast? = some '\n' then rest.dropLast else rest
    let whole := rest.takeWhile Unicode.isDecimal
    match rest.dropWhile Unicode.isDecimal with
    | [] => !whole.isEmpty
    | '.' :: fraction => !fraction.isEmpty && fraction.all Unicode.isDecimal
    | _ => false
  | _ => false

/-! ## Telling words apart -/

/-- What a word of the command line is. -/
inductive Token where
  /-- A plain word. -/
  | word
  /-- The word that makes all later ones plain. -/
  | separator
  /-- An option that the grammar does not know. -/
  | unknown
  /-- An option, with a text that is joined to it. -/
  | option (rule : OptionRule) (spelling : String) (joined : Option String) (byEquals : Bool)

/-- The parts of a word before and after its first equals sign. -/
def splitEquals (word : List Char) : List Char × Option (List Char) :=
  match word.dropWhile (· ≠ '=') with
  | [] => (word, none)
  | _ :: after => (word.takeWhile (· ≠ '='), some after)

/-- The options that a word may be short for. -/
def Grammar.candidates (g : Grammar) (word : List Char) : List Token × List String :=
  match word with
  | '-' :: '-' :: _ =>
    let (start, joined) := splitEquals word
    let found := g.spellings.filter fun entry => start.isPrefixOf entry.1.toList
    (found.map fun (spelling, rule) =>
      .option rule spelling (joined.map String.ofList) joined.isSome, found.map Prod.fst)
  | _ =>
    let short := String.ofList (word.take 2)
    let found := g.spellings.filter fun entry =>
      entry.1 == short || word.isPrefixOf entry.1.toList
    (found.map fun (spelling, rule) =>
      if spelling == short then .option rule spelling (some (String.ofList (word.drop 2))) false
      else .option rule spelling none false, found.map Prod.fst)

/-- What a word is, before any separator. -/
def Grammar.token (g : Grammar) (word : String) : Except UsageError Token :=
  match word.toList with
  | '-' :: c :: rest =>
    let cs := '-' :: c :: rest
    match g.spellings.lookup word with
    | some rule => return .option rule word none false
    | none =>
      let (start, joined) := splitEquals cs
      match joined, g.spellings.lookup (String.ofList start) with
      | some value, some rule =>
        return .option rule (String.ofList start) (some (String.ofList value)) true
      | _, _ =>
        match g.candidates cs with
        | ([token], _) => return token
        | ([], _) =>
          if isNegativeNumber cs || cs.contains ' ' then return .word else return .unknown
        | (_, spellings) => throw (.ambiguous word spellings)
  | _ => return .word

/-- The words of a command line with what they are. -/
def Grammar.tokens (g : Grammar) : List String → Except UsageError (List (String × Token))
  | [] => return []
  | word :: rest =>
    if word = "--" then return (word, .separator) :: rest.map fun plain => (plain, .word)
    else do return (word, ← g.token word) :: (← g.tokens rest)

/-! ## Reading options -/

/-- The value of an option. -/
inductive OptionValue where
  /-- The option is set. -/
  | set
  /-- A text. -/
  | text (value : String)
  /-- A whole number. -/
  | integer (value : Int)
deriving DecidableEq, Repr

/-- Why reading stops. -/
inductive Halt where
  /-- The command line is wrong. -/
  | wrong (error : UsageError)
  /-- The help is wanted. -/
  | help

/-- What a command line gives. -/
structure Given where
  /-- The options by key, the last one first. -/
  values : List (String × OptionValue)
  /-- The words that mean nothing, in order. -/
  extras : List String
  /-- The name of a command and all that follows. -/
  command : List String
deriving Inhabited

/-- An option with the text that is joined to it, which only an option with a value may have. -/
def joinValue (rule : OptionRule) (joined : List Char) :
    Except UsageError (List (OptionRule × Option String) × List String) :=
  match rule.effect with
  | .value _ => return ([(rule, some (String.ofList joined))], [])
  | _ => throw (.unwantedValue rule.label (String.ofList joined))

/-- The options joined in one word, each with its value if one is joined to it, and what of the
word means nothing. The first option is given with its spelling, the text joined to it and whether
an equals sign joins them; later ones may be followed by an equals sign too. -/
def cluster (g : Grammar) (rule : OptionRule) (spelling : String) (byEquals : Bool) :
    List Char → Except UsageError (List (OptionRule × Option String) × List String)
  | [] => joinValue rule []
  | c :: rest =>
    if byEquals || spelling.length ≠ 2 || c = '-' then joinValue rule (c :: rest)
    else if c = '=' then joinValue rule rest
    else
      match rule.effect with
      | .value _ => joinValue rule (c :: rest)
      | _ =>
        match g.spellings.lookup (String.ofList ['-', c]) with
        | none => return ([(rule, none)], [String.ofList ('-' :: c :: rest)])
        | some other =>
          if rest.isEmpty then return ([(rule, none), (other, none)], [])
          else do
            let (others, extras) ← cluster g other (String.ofList ['-', c]) false rest
            return ((rule, none) :: others, extras)

/-- The value that a text gives to an option. -/
def OptionRule.read (rule : OptionRule) (value : String) : Except UsageError OptionValue :=
  match rule.effect with
  | .value .integer =>
    match integer? value with
    | some i => return .integer i
    | none => throw (.notInteger rule.label value)
  | .value (.oneOf words) =>
    if words.contains value then return .text value
    else throw (.notAllowed rule.label value words)
  | _ => return .text value

/-- Carries out options in order. -/
def carryOut (given : Given) : List (OptionRule × Option String) → Except Halt Given
  | [] => return given
  | (rule, value) :: rest =>
    match rule.effect, value with
    | .help, _ => throw .help
    | .switch, _ => carryOut { given with values := (rule.key, .set) :: given.values } rest
    | .value _, none => throw (.wrong (.missingValue rule.label))
    | .value _, some value =>
      match rule.read value with
      | .error e => throw (.wrong e)
      | .ok v => carryOut { given with values := (rule.key, v) :: given.values } rest

/-- Reads words from left to right. Where commands are allowed, the first plain word takes all
that follows. -/
def readWords (g : Grammar) (commands : Bool) (given : Given) :
    List (String × Token) → Except Halt Given
  | [] => return given
  | (word, token) :: rest =>
    let extra (given : Given) : Given := { given with extras := given.extras ++ [word] }
    match token with
    | .unknown => readWords g commands (extra given) rest
    | .word =>
      if commands then return { given with command := word :: rest.map Prod.fst }
      else readWords g commands (extra given) rest
    | .separator =>
      if commands && !rest.isEmpty then
        return { given with command := word :: rest.map Prod.fst }
      else readWords g commands (extra given) rest
    | .option rule spelling (some joined) byEquals =>
      match cluster g rule spelling byEquals joined.toList with
      | .error e => throw (.wrong e)
      | .ok (options, extras) => do
        let given ← carryOut { given with extras := given.extras ++ extras } options
        readWords g commands given rest
    | .option rule _ none _ =>
      match rule.effect with
      | .value _ =>
        match rest with
        | (value, .word) :: rest => do
          let given ← carryOut given [(rule, some value)]
          readWords g commands given rest
        | _ => throw (.wrong (.missingValue rule.label))
      | _ => do
        let given ← carryOut given [(rule, none)]
        readWords g commands given rest

/-- Reads a command line. -/
def Grammar.read (g : Grammar) (commands : Bool) (words : List String) : Except Halt Given :=
  match g.tokens words with
  | .error e => throw (.wrong e)
  | .ok tokens => do
    let given ← readWords g commands ⟨[], [], []⟩ tokens
    let missing := g.options.filter fun rule =>
      rule.required && (given.values.lookup rule.key).isNone
    if missing.isEmpty then return given
    else throw (.wrong (.missingOptions (missing.map OptionRule.label)))

end SignatureForms.Console
