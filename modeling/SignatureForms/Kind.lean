import SignatureForms.Unicode.Blank
import SignatureForms.Unicode.Lowercase

/-!
# Kinds of types

The kind of a type decides how a value of it is entered in a form. Descriptor documents may use
any word; the words that have a rule of their own are constructors, all others are kept by name.

* `Kind.name_ofName` — reading a word as a kind loses nothing.
-/

namespace SignatureForms

/-- The kind of a type. -/
inductive Kind where
  /-- Text. -/
  | string
  /-- Whole numbers. -/
  | int
  /-- Binary fractions. -/
  | float
  /-- Decimal fractions. -/
  | decimal
  /-- Truth values. -/
  | boolean
  /-- Markup text. -/
  | xml
  /-- JSON text. -/
  | json
  /-- Any plain data. -/
  | anydata
  /-- Named fields. -/
  | record
  /-- Values by key. -/
  | map
  /-- Sequences. -/
  | array
  /-- A choice among member types. -/
  | union
  /-- The absent value. -/
  | nil
  /-- A type used as a value. -/
  | typedesc
  /-- Failures, as a member of a return type. -/
  | error
  /-- Any other word. -/
  | other (word : String)
deriving DecidableEq, Repr, Inhabited

namespace Kind

/-- The word for a kind. -/
def name : Kind → String
  | string => "string"
  | int => "int"
  | float => "float"
  | decimal => "decimal"
  | boolean => "boolean"
  | xml => "xml"
  | json => "json"
  | anydata => "anydata"
  | record => "record"
  | map => "map"
  | array => "array"
  | union => "union"
  | nil => "nil"
  | typedesc => "typedesc"
  | error => "error"
  | other word => word

/-- The kind that a word names. -/
def ofName : String → Kind
  | "string" => string
  | "int" => int
  | "float" => float
  | "decimal" => decimal
  | "boolean" => boolean
  | "xml" => xml
  | "json" => json
  | "anydata" => anydata
  | "record" => record
  | "map" => map
  | "array" => array
  | "union" => union
  | "nil" => nil
  | "typedesc" => typedesc
  | "error" => error
  | word => other word

/-- Reading a word as a kind loses nothing. -/
@[simp]
theorem name_ofName (word : String) : (ofName word).name = word := by
  unfold ofName
  split <;> rfl

/-- The kinds with a place in a parameter tree or a rule for leaving it. Plain data can be offered
only through a type descriptor. -/
def isSupported : Kind → Bool
  | string | int | float | decimal | boolean | xml | json => true
  | array | record | map | union | nil | typedesc => true
  | anydata | error | other _ => false

/-- The kind itself, if it is supported. -/
def supported? (k : Kind) : Option Kind :=
  if k.isSupported then some k else none

/-- The kinds that fill one column of a table. -/
def isTableScalar : Kind → Bool
  | string | int | boolean | float | decimal => true
  | _ => false

/-- The kinds whose parameters hold parts and so have a node variant of their own. -/
def isComposite : Kind → Bool
  | record | map | array | union => true
  | _ => false

/-- The base word of a spelling of a kind: lower case, without the blanks around it, aliases
replaced, and a subtype after a colon dropped for integers, texts and markup. -/
def normalWord (spelling : String) : String :=
  let word := Unicode.lowercase (Unicode.trim spelling)
  match word with
  | "byte" => "int"
  | "singleton" => "string"
  | "()" => "nil"
  | "null" => "nil"
  | _ =>
    match String.ofList (word.toList.takeWhile (· ≠ ':')) with
    | "int" => "int"
    | "string" => "string"
    | "xml" => "xml"
    | _ => word

/-- The kind that a descriptor document means by a spelling. -/
def ofSpelling (spelling : String) : Kind :=
  ofName (normalWord spelling)

end Kind

end SignatureForms
