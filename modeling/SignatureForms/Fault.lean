import SignatureForms.Json.Literal
import SignatureForms.Json.Reader
import SignatureForms.Signature

/-!
# Faults

Everything that can go wrong between a document and its artifacts, each fault with the facts its
message needs. A fault belongs to a class; the faults of the classes `iteration`, `keys` and
`pairing` are slips of a malformed document for which no rule of the document format speaks.
-/

namespace SignatureForms

/-- The things in a document that must have a name. -/
inductive Named where
  /-- A field of a record. -/
  | recordField
  /-- A parameter of an operation. -/
  | parameter
  /-- An operation. -/
  | operation
  /-- A client. -/
  | client
  /-- The module itself. -/
  | module
deriving DecidableEq, Repr

/-- What messages call a thing that must have a name. -/
def Named.noun : Named → String
  | recordField => "Record field"
  | parameter => "Parameter"
  | operation => "Operation"
  | client => "Client"
  | module => "Module"

/-- The classes of faults. -/
inductive FaultClass where
  /-- The document describes no valid type, operation or module. -/
  | descriptor
  /-- Something that must have a name has none. -/
  | naming
  /-- A setting has a wrong name or value. -/
  | settings
  /-- A leaf claims the kind of a composite. -/
  | variant
  /-- A leaf has a kind for which there is no input. -/
  | widget
  /-- A value that has no parts is walked over, or is used where only plain values can stand. -/
  | iteration
  /-- A value that is no mapping is asked for its keys. -/
  | keys
  /-- A list of pairs holds something that is no pair. -/
  | pairing
  /-- Something is asked for that the document does not have. -/
  | request
deriving DecidableEq, Repr

/-- Something that went wrong. -/
inductive Fault where
  /-- A type is neither a mapping nor a word. -/
  | typeShape (found : Json)
  /-- A record field is no mapping. -/
  | fieldShape (found : Json)
  /-- A parameter is no mapping. -/
  | parameterShape (found : Json)
  /-- The document is no mapping. -/
  | moduleShape (found : Json)
  /-- A reference to a name that the type table does not hold. -/
  | unknownReference (reference : String) (known : List String)
  /-- A type without a kind. -/
  | missingKind (found : Json)
  /-- An entry of the type table that is no mapping with a kind. -/
  | namedTypeShape (name : String)
  /-- A word that is no kind of operation. -/
  | operationKind (word : String)
  /-- A file that holds no document. -/
  | unreadable (path : String) (cause : Json.ReadError)
  /-- A thing of the document without its name. -/
  | unnamed (thing : Named) (found : Json)
  /-- A record type with a field whose name is empty. -/
  | unnamedField (record : String)
  /-- A parameter whose name is empty. -/
  | unnamedParameter (position : Int)
  /-- A setting that there is none of. -/
  | unknownSetting (key : String)
  /-- A field budget that is no whole number. -/
  | budgetShape (found : Json)
  /-- A field budget below one. -/
  | budgetRange (found : Int)
  /-- An expansion switch that is no truth value. -/
  | expansionShape (found : Json)
  /-- A leaf of a composite kind. -/
  | malformedVariant (value : String) (kind : Kind)
  /-- A leaf of a kind without an input. -/
  | noInput (kind : Kind) (name : String)
  /-- A value without parts is walked over. -/
  | notIterable (found : Json)
  /-- A list or mapping stands where a type name is looked up. -/
  | referenceShape (found : Json)
  /-- The init section is no mapping. -/
  | initShape (found : Json)
  /-- A settings override with a name that no setting has. -/
  | unknownOverride (key : String)
  /-- A value that is no mapping is asked for its keys. -/
  | notMapping (found : Json)
  /-- An element of a list of pairs that cannot be taken apart. -/
  | pairShape (position : Nat)
  /-- An element of a list of pairs that has not two parts. -/
  | pairLength (position length : Nat)
  /-- A pair whose key is a list or a mapping. -/
  | keyShape (found : Json)
  /-- No operation of the wanted name. -/
  | unknownOperation (name : String)
  /-- A file that is not there, or whose directory is not. -/
  | missingFile (path : String)

/-- The fault is reported to people in words; the others are slips that end the program. -/
def FaultClass.isReported : FaultClass → Bool
  | iteration | keys => false
  | descriptor | naming | settings | variant | widget | pairing | request => true

namespace Fault

/-- The class of a fault. -/
def category : Fault → FaultClass
  | typeShape _ | fieldShape _ | parameterShape _ | moduleShape _ | unknownReference ..
  | missingKind _ | namedTypeShape _ | operationKind _ | unreadable .. => .descriptor
  | unnamed .. | unnamedField _ | unnamedParameter _ => .naming
  | unknownSetting _ | budgetShape _ | budgetRange _ | expansionShape _ => .settings
  | malformedVariant .. => .variant
  | noInput .. => .widget
  | notIterable _ | referenceShape _ | initShape _ | unknownOverride _ | pairShape _
  | keyShape _ => .iteration
  | notMapping _ => .keys
  | pairLength .. => .pairing
  | unknownOperation _ | missingFile _ => .request

/-- The names of the settings, sorted. -/
def settingNames : List String :=
  ["connection_type", "expand_records", "field_budget", "module_name"]

/-- The words for a fault. -/
def message : Fault → String
  | typeShape found => s!"Type must be a mapping or kind string, got {found.typeName}."
  | fieldShape found => s!"Record field must be a mapping, got {found.typeName}."
  | parameterShape found => s!"Parameter must be a mapping, got {found.typeName}."
  | moduleShape found => s!"Module document must be a mapping, got {found.typeName}."
  | unknownReference reference known =>
    "Unknown type reference '" ++ reference ++ "'. Known: " ++ ", ".intercalate known
  | missingKind found => "Type is missing a 'kind': " ++ found.literal
  | namedTypeShape name => "Named type '" ++ name ++ "' must be a mapping with a 'kind'."
  | operationKind word =>
    "Invalid operation kind '" ++ word ++ "'. Allowed: "
      ++ ", ".intercalate (OperationKind.all.map OperationKind.name)
  | unreadable path cause => path ++ ": invalid JSON (" ++ cause.message ++ ")"
  | unnamed thing found => thing.noun ++ " is missing a 'name': " ++ found.literal
  | unnamedField record => "Record '" ++ record ++ "' has a field without a name."
  | unnamedParameter position => s!"Parameter at position {position} has no name."
  | unknownSetting key =>
    "Unknown config key '" ++ key ++ "'. Allowed: " ++ ", ".intercalate settingNames
  | budgetShape found => "field_budget must be an integer, got " ++ found.literal ++ "."
  | budgetRange found => s!"field_budget must be at least 1, got {found}."
  | expansionShape found => "expand_records must be true or false, got " ++ found.literal ++ "."
  | malformedVariant value kind =>
    "Parameter '" ++ value ++ "' has kind '" ++ kind.name ++ "' but is not a " ++ kind.name
      ++ " node."
  | noInput kind name => "No input widget for kind '" ++ kind.name ++ "' (parameter '" ++ name ++ "')."
  | notIterable found => s!"A value of type {found.typeName} has no items."
  | referenceShape found => s!"A value of type {found.typeName} names no type."
  | initShape found => s!"Init section must be a mapping, got {found.typeName}."
  | unknownOverride key => "Unknown setting '" ++ key ++ "'."
  | notMapping found => s!"A value of type {found.typeName} has no keys."
  | pairShape position => s!"Setting #{position} is not a pair of key and value."
  | pairLength position length =>
    s!"dictionary update sequence element #{position} has length {length}; 2 is required"
  | keyShape found => s!"A value of type {found.typeName} is no key of a setting."
  | unknownOperation name => "Unknown operation '" ++ name ++ "'."
  | missingFile path => "input file not found: " ++ path

end Fault

end SignatureForms
