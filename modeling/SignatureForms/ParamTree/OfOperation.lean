import SignatureForms.ParamTree.Classification

/-!
# Operations as trees

The parameters of an operation, each classified with a budget of its own. A parameter that cannot
be represented is dropped if a call may leave it out; otherwise the operation is skipped.
-/

namespace SignatureForms

/-- The value that a default literal fills in: a quoted text without its quotes, nothing for the
absent value, and any other literal as it is written. -/
def defaultValueChars (written : List Char) : List Char :=
  match Unicode.trimChars written with
  | '"' :: rest => if rest.getLast? = some '"' then rest.dropLast else '"' :: rest
  | ['(', ')'] => []
  | text => text

/-- The value that a default literal fills in. -/
def defaultValue (written : String) : String :=
  String.ofList (defaultValueChars written.toList)

/-- A call may not leave the parameter out. -/
def Parameter.isRequired (p : Parameter) : Bool :=
  !p.defaultable && p.default.isNone

/-- Classifies a parameter at a position with a fresh budget. -/
def classifyParameter (types : TypeGraph) (p : Parameter) (position : Int) (fieldBudget : Int) :
    Except Fault (Option ParamNode) :=
  match classify types p.type position ⟨fieldBudget⟩ p.name p.isRequired p.doc with
  | .error fault => .error fault
  | .ok (node, _) =>
    .ok (node.map fun node =>
      match p.default with
      | some written => node.withDefault (defaultValue written)
      | none => node)

/-- Why an operation is not offered. -/
structure Skip where
  /-- The reason, in words. -/
  reason : String
  /-- What it is about. -/
  detail : String
deriving DecidableEq, Repr, Inhabited

/-- The reason for skipping an operation with a parameter that cannot be represented. -/
def unsupportedParameterType : String := "unsupported parameter type"

/-- Classifies parameters in order, the next node getting the given position. A required parameter
without a node gives the skip. -/
def classifyParameters (types : TypeGraph) (fieldBudget : Int) :
    List Parameter → Nat → Except Fault (Except Skip (List ParamNode))
  | [], _ => .ok (.ok [])
  | p :: rest, position =>
    match classifyParameter types p position fieldBudget with
    | .error fault => .error fault
    | .ok (some node) =>
      match classifyParameters types fieldBudget rest (position + 1) with
      | .error fault => .error fault
      | .ok nodes => .ok (nodes.map (node :: ·))
    | .ok none =>
      if p.isRequired then
        .ok (.error ⟨unsupportedParameterType,
          p.name ++ " (" ++ (types.kind p.type).name ++ ")"⟩)
      else classifyParameters types fieldBudget rest position

/-- The parameter trees of an operation, or why it is skipped. -/
def classifyOperation (types : TypeGraph) (op : Operation) (fieldBudget : Int) :
    Except Fault (Except Skip (List ParamNode)) :=
  classifyParameters types fieldBudget op.params 0

end SignatureForms
