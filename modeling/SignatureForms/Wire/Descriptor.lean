import SignatureForms.Wire.Declaration

/-!
# Parameter descriptors

The names under which the controls of a form reach a call, with their descriptions: one for each
leaf, and one for the choice of a union ahead of those of its members. A name that can be reached
in several ways is described once, at its first place.

* `firstMentions_append` — describing two lists in turn is describing them together.
-/

namespace SignatureForms

/-- A name and what it is for. -/
structure ParameterDescriptor where
  /-- The name. -/
  name : String
  /-- What it is for; may be empty. -/
  description : String
deriving DecidableEq, Repr, Inhabited

mutual

/-- All mentions of names in a tree, in order and with repeats. -/
def mentions (expandRecords : Bool) : ParamNode → Except Fault (List ParameterDescriptor)
  | .record info _ _ fields =>
    if expandRecords && !fields.isEmpty then mentionsAll expandRecords fields
    else .ok [⟨info.name, info.description.getD ""⟩]
  | .union info members => do
    let choice : List ParameterDescriptor :=
      if ParamNode.hasDiscriminator members then
        [⟨discriminatorName info.value, info.description.getD ""⟩]
      else []
    if info.typeDescriptor then return choice
    else return choice ++ (← mentionsAll expandRecords members)
  | .simple info kind => do
    (ParamNode.simple info kind).checkVariant
    return [⟨info.name, info.description.getD ""⟩]
  | .map info _ => .ok [⟨info.name, info.description.getD ""⟩]
  | .array info _ => .ok [⟨info.name, info.description.getD ""⟩]

/-- All mentions of names in several trees in turn. -/
def mentionsAll (expandRecords : Bool) : List ParamNode → Except Fault (List ParameterDescriptor)
  | [] => .ok []
  | node :: rest => do
    return (← mentions expandRecords node) ++ (← mentionsAll expandRecords rest)

end

/-- The first mention of each name that is not among the names emitted before. -/
def firstMentions (emitted : List String) : List ParameterDescriptor → List ParameterDescriptor
  | [] => []
  | d :: rest =>
    if emitted.contains d.name then firstMentions emitted rest
    else d :: firstMentions (emitted ++ [d.name]) rest

/-- The descriptors of parameters, and the names that are emitted afterwards. -/
def parameterDescriptors (params : List ParamNode) (emitted : List String)
    (expandRecords : Bool) : Except Fault (List ParameterDescriptor × List String) := do
  let found := firstMentions emitted (← mentionsAll expandRecords params)
  return (found, emitted ++ found.map ParameterDescriptor.name)

/-- A descriptor as an element. -/
def ParameterDescriptor.element (d : ParameterDescriptor) : String :=
  "<parameter name=\"" ++ d.name ++ "\" description=\"" ++ Xml.escape d.description ++ "\"/>"

/-- Descriptors as elements, one a line. -/
def parameterElements (descriptors : List ParameterDescriptor) : String :=
  "\n    ".intercalate (descriptors.map ParameterDescriptor.element)

/-- Describing two lists in turn is describing them together. -/
theorem firstMentions_append (emitted : List String) (a b : List ParameterDescriptor) :
    firstMentions emitted (a ++ b) =
      firstMentions emitted a
        ++ firstMentions (emitted ++ (firstMentions emitted a).map ParameterDescriptor.name) b := by
  induction a generalizing emitted with
  | nil => simp [firstMentions]
  | cons d rest ih => by_cases h : d.name ∈ emitted <;> simp [firstMentions, h, ih]

end SignatureForms
