import SignatureForms.Form.Table

/-!
# Rendering forms

The entries for parameter trees. The fields of a record that share their parent segment are
gathered in one group, at the place of the first of them. The record members of a union are
rendered as one record whose fields are each visible only while their member is selected.
-/

namespace SignatureForms

/-- The entries of one field and the group that they belong to. -/
structure Placed where
  /-- The segment that names the group; nothing for a field that is in no group of its own. -/
  segment : Option String
  /-- The entries. -/
  entries : List Entry

/-- Gathers placed entries: each group stands where its first entries are. The segments of the
groups that stand already are `standing`. -/
def gather (condition : Condition) (standing : List String) : List Placed → List Entry
  | [] => []
  | placed :: rest =>
    match placed.segment with
    | none => placed.entries ++ gather condition standing rest
    | some segment =>
      if standing.contains segment then gather condition standing rest
      else
        let same := (placed :: rest).filter fun p => p.segment == some segment
        .group (Naming.titleCase segment) false condition (same.flatMap Placed.entries)
          :: gather condition (segment :: standing) rest

/-- The group of a field: its parent segment, unless that is the group it is rendered in. -/
def groupSegment (group : Option String) (value : String) : Option String :=
  match parentSegment? value with
  | none => none
  | some segment => if group = some segment then none else some segment

/-- The check box that switches a composite on, and the condition that its content gets. Only a
composite of a connection that may be left out has one. -/
def gate (ctx : FormContext) (info : NodeInfo) (condition : Condition) : List Entry × Condition :=
  if ctx.configContext && !info.required then
    let display := controlDisplay info.value
    let toggle := "enable_" ++ info.name
    ([InputSpec.checkBox
        { name := toggle, display := "Configure " ++ display, required := false
          default := some "false", helpTip := some ("Enable to configure " ++ display ++ " settings")
          condition }],
      condition.merge (.when toggle "true"))
  else ([], condition)

/-- The choice of the member of a union. -/
def unionChoice (info : NodeInfo) (members : List ParamNode) (condition : Condition) :
    List Entry :=
  if ParamNode.hasDiscriminator members then
    let labels := (ParamNode.selectable members).zipIdx.map fun (member, position) =>
      member.memberLabel position
    let display := controlDisplay info.value
    [InputSpec.combo
      { name := discriminatorName info.value
        display := if info.typeDescriptor then display else display ++ "DataType"
        required := info.required
        default := some (textOr info.default (labels.head?.getD ""))
        helpTip := info.description
        condition } labels]
  else []

/-- The condition under which the parts of a union member are visible: that of the member, unless
there is no choice. -/
def memberCondition (single : Bool) (member : ParamNode) : Condition :=
  if single then .empty else member.condition

/-- Puts the gathered record members at the place of the first of them among the entries of the
other members. A record member is marked by nothing. -/
def spliceArms (arms : List Entry) (others : List (Option (List Entry))) : List Entry :=
  ((others.takeWhile Option.isSome).filterMap id).flatten ++ arms
    ++ ((others.dropWhile Option.isSome).filterMap id).flatten

mutual

/-- The entries of a node under a condition, in a group. -/
def renderNode (ctx : FormContext) (condition : Condition) (group : Option String) :
    ParamNode → Except Fault (List Entry)
  | .simple info kind => do
    (ParamNode.simple info kind).checkVariant
    return [← leafEntry info kind condition]
  | .record info _ _ fields =>
    if !ctx.expandRecords then
      .ok [opaqueEntry info condition "Expecting JSON object" objectPattern]
    else
      let (toggle, content) := gate ctx info condition
      if fields.isEmpty then
        .ok (toggle ++ [opaqueEntry info content "Expecting JSON object" objectPattern])
      else do
        return toggle ++ gather content [] (← placeFields ctx content .empty group fields)
  | .union info members =>
    let choice := unionChoice info members condition
    if info.typeDescriptor then .ok choice
    else do
      let single := (ParamNode.selectable members).length == 1
      let group := (TypeDescriptor.nonEmpty? group).or (parentSegment? info.value)
      let others ← renderMembers ctx condition single group members
      let arms ← placeArms ctx condition single group members
      return choice ++ spliceArms (gather condition [] arms) others
  | .map info shape =>
    let (toggle, content) := gate ctx info condition
    .ok (toggle ++
      [if shape.asTable then mapTable info shape content
        else opaqueEntry info content "Expecting JSON object with key-value pairs" objectPattern])
  | .array info shape =>
    let (toggle, content) := gate ctx info condition
    .ok (toggle ++
      [if shape.asTable then arrayTable info shape content
        else opaqueEntry info content "Expecting JSON array" arrayPattern])

/-- The entries of the fields of a record under a condition, each with its group. Fields of a union
member are under the condition of the member too. -/
def placeFields (ctx : FormContext) (condition arm : Condition) (group : Option String) :
    List ParamNode → Except Fault (List Placed)
  | [] => .ok []
  | field :: rest => do
    let own := condition.merge (arm.merge field.condition)
    let segment := groupSegment group field.value
    let entries ← renderNode ctx own (segment.or group) field
    return ⟨segment, entries⟩ :: (← placeFields ctx condition arm group rest)

/-- The entries of the members of a union that are not unfolded records. An unfolded record is
marked by nothing. -/
def renderMembers (ctx : FormContext) (condition : Condition) (single : Bool)
    (group : Option String) : List ParamNode → Except Fault (List (Option (List Entry)))
  | [] => .ok []
  | member :: rest => do
    let entries ←
      if member.expands ctx.expandRecords then pure none
      else some <$> renderNode ctx (condition.merge (memberCondition single member)) group member
    return entries :: (← renderMembers ctx condition single group rest)

/-- The entries of the fields of the unfolded record members of a union. -/
def placeArms (ctx : FormContext) (condition : Condition) (single : Bool)
    (group : Option String) : List ParamNode → Except Fault (List Placed)
  | [] => .ok []
  | .record info recordName parentPath fields :: rest => do
    let member := ParamNode.record info recordName parentPath fields
    let fields ←
      if ctx.expandRecords then
        placeFields ctx condition (memberCondition single member) group fields
      else pure []
    return fields ++ (← placeArms ctx condition single group rest)
  | _ :: rest => placeArms ctx condition single group rest

end

/-- The entries of parameters in order. -/
def renderForm (ctx : FormContext) : List ParamNode → Except Fault (List Entry)
  | [] => .ok []
  | node :: rest => do
    return (← renderNode ctx node.condition none node) ++ (← renderForm ctx rest)

end SignatureForms
