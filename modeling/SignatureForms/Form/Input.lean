import SignatureForms.Fault
import SignatureForms.Form.Entry
import SignatureForms.Naming.Path
import SignatureForms.ParamTree.Node

/-!
# Inputs for leaves

The input for a value of each kind, and for composites that are entered as JSON text.
-/

namespace SignatureForms

/-- The settings of a rendering. -/
structure FormContext where
  /-- Record fields are entered one by one. -/
  expandRecords : Bool
  /-- Composites that may be left out are switched on by a check box. -/
  configContext : Bool
deriving DecidableEq, Repr, Inhabited

/-! ## Patterns -/

/-- A whole number or an expression. -/
def integerPattern : String := "^(-?\\d+|\\$\\\x7b.+\\\x7d)$"

/-- A decimal number or an expression. -/
def decimalPattern : String := "^(-?\\d+(\\.\\d+)?|\\$\\\x7b.+\\\x7d)$"

/-- Nothing, a JSON object or an expression. -/
def objectPattern : String := "^$|^(\\\x7b[\\s\\S]*\\\x7d|\\$\\\x7b.+\\\x7d)$"

/-- Nothing, a JSON array or an expression. -/
def arrayPattern : String := "^$|^(\\[[\\s\\S]*\\]|\\$\\\x7b.+\\\x7d)$"

/-- A pattern, or nothing where nothing need be entered. -/
def patternFor (required : Bool) (pattern : String) : Validation :=
  .regex (if required then pattern else "^$|" ++ pattern)

/-! ## Inputs -/

/-- What the control of a value is called by people. -/
def controlDisplay (value : String) : String :=
  Naming.flatName (lastSegment value)

/-- A text that is there and not empty, or another one. -/
def textOr (text : Option String) (alternative : String) : String :=
  (TypeDescriptor.nonEmpty? text).getD alternative

/-- What inputs of any kind need to know about their value. -/
structure InputSpec where
  /-- The name of the control. -/
  name : String
  /-- What people see. -/
  display : String
  /-- Something must be entered. -/
  required : Bool
  /-- The value at first. -/
  default : Option String
  /-- A hint. -/
  helpTip : Option String
  /-- When the input is visible. -/
  condition : Condition

/-- The input that a node needs. -/
def InputSpec.ofInfo (info : NodeInfo) (condition : Condition) : InputSpec where
  name := info.name
  display := controlDisplay info.value
  required := info.required
  default := info.default
  helpTip := info.description
  condition := condition

/-- A text field with a check. -/
def InputSpec.field (s : InputSpec) (validation : Option Validation) : Entry :=
  .input {
    name := s.name
    displayName := s.display
    inputType := .stringOrExpression
    default := s.default.getD ""
    required := s.required
    helpTip := s.helpTip.getD ""
    comboValues := none
    validation := validation
    condition := s.condition }

/-- A check box. -/
def InputSpec.checkBox (s : InputSpec) : Entry :=
  .input {
    name := s.name
    displayName := s.display
    inputType := .boolean
    default := s.default.getD ""
    required := s.required
    helpTip := s.helpTip.getD ""
    comboValues := none
    validation := none
    condition := s.condition }

/-- A list of choices. -/
def InputSpec.combo (s : InputSpec) (values : List String) : Entry :=
  .input {
    name := s.name
    displayName := s.display
    inputType := .combo
    default := s.default.getD ""
    required := s.required
    helpTip := s.helpTip.getD ""
    comboValues := some values
    validation := none
    condition := s.condition }

/-- A field for JSON text. Where nothing need be entered, a pattern takes the place of the full
check. -/
def InputSpec.jsonField (s : InputSpec) (help pattern : String) : Entry :=
  { s with helpTip := some (textOr s.helpTip help) }.field
    (some (if s.required then .json else .regex pattern))

/-- The input for a value of a kind. -/
def InputSpec.input (s : InputSpec) (kind : Kind) : Except Fault Entry :=
  match kind with
  | .string | .xml => .ok (s.field none)
  | .json | .anydata => .ok (s.jsonField "Expecting JSON object" objectPattern)
  | .int => .ok (s.field (some (patternFor s.required integerPattern)))
  | .decimal | .float => .ok (s.field (some (patternFor s.required decimalPattern)))
  | .boolean => .ok s.checkBox
  | kind => .error (.noInput kind s.name)

/-- The input for a leaf. -/
def leafEntry (info : NodeInfo) (kind : Kind) (condition : Condition) : Except Fault Entry :=
  (InputSpec.ofInfo info condition).input kind

/-- The input for a composite that is entered as JSON text. -/
def opaqueEntry (info : NodeInfo) (condition : Condition) (help pattern : String) : Entry :=
  (InputSpec.ofInfo info condition).jsonField help pattern

/-- The inputs for the parameters of a resource path. -/
def pathEntries (segments : List Naming.Segment) : Except Fault (List Entry) :=
  (segments.filter (·.isParam)).mapM fun segment =>
    let kind :=
      match Kind.ofName segment.typeName with
      | .int => Kind.int
      | .decimal => .decimal
      | .float => .float
      | .boolean => .boolean
      | _ => .string
    InputSpec.input
      { name := segment.name, display := segment.name, required := true, default := none
        helpTip := none, condition := .empty } kind

end SignatureForms
