import SignatureForms.Artifact.Files
import SignatureForms.Proofs.Form.Choices
import SignatureForms.Proofs.Wire.Fields

/-!
# Closed records

With expansion off each record is entered and sent as one value. The wire, the descriptors and the
form decide this at many places of their own; this module shows that all of them decide alike, by
comparing with trees whose records have no fields to begin with.

The module introduces:

* `ParamNode.closed node` — the tree in which every record has lost its fields.

## Main results

* `parameterDeclarations_closed`, `mentions_closed`, `renderNode_closed`: with expansion off a tree
  is declared, described and rendered as its closed tree is, with expansion off or on;
* `renderings_closed`: so are the parameters of an operation, and no file of an artifact tells the
  fields of a record.
-/

namespace SignatureForms

/-! ## Closed trees -/

namespace ParamNode

mutual

/-- The tree in which every record has lost its fields. -/
def closed : ParamNode → ParamNode
  | record info recordName parentPath _ => record info recordName parentPath []
  | union info members => union info (closedAll members)
  | simple info kind => simple info kind
  | map info shape => map info shape
  | array info shape => array info shape

/-- Several trees in which every record has lost its fields. -/
def closedAll : List ParamNode → List ParamNode
  | [] => []
  | node :: rest => closed node :: closedAll rest

end

theorem closedAll_eq_map (nodes : List ParamNode) : closedAll nodes = nodes.map closed := by
  induction nodes with
  | nil => rfl
  | cons node rest ih => rw [closedAll, ih, List.map_cons]

@[simp]
theorem info_closed (node : ParamNode) : node.closed.info = node.info := by
  cases node <;> rfl

@[simp]
theorem kind_closed (node : ParamNode) : node.closed.kind = node.kind := by
  cases node <;> rfl

@[simp]
theorem checkVariant_closed (node : ParamNode) : node.closed.checkVariant = node.checkVariant := by
  cases node <;> rfl

@[simp]
theorem isEmptyUnion_closed (node : ParamNode) : node.closed.isEmptyUnion = node.isEmptyUnion := by
  cases node with
  | union info members => cases members <;> rfl
  | _ => rfl

/-- A record is labelled by its name, not by its fields. -/
@[simp]
theorem memberLabel_closed (node : ParamNode) (position : Nat) :
    node.closed.memberLabel position = node.memberLabel position := by
  cases node <;> rfl

/-- There is nothing to unfold in a closed tree. -/
@[simp]
theorem expands_closed (expandRecords : Bool) (node : ParamNode) :
    node.closed.expands expandRecords = false := by
  cases node with
  | record => exact Bool.and_false _
  | _ => rfl

/-- The members of a closed union that can be selected are those of the union that can be,
closed. -/
theorem selectable_closedAll (members : List ParamNode) :
    selectable (closedAll members) = (selectable members).map closed := by
  simp only [closedAll_eq_map, selectable, List.filter_map, Function.comp_def, isEmptyUnion_closed]

@[simp]
theorem hasDiscriminator_closedAll (members : List ParamNode) :
    hasDiscriminator (closedAll members) = hasDiscriminator members := by
  rw [hasDiscriminator, selectable_closedAll, List.length_map]
  rfl

theorem choiceLabels_closedAll (members : List ParamNode) :
    choiceLabels (closedAll members) = choiceLabels members := by
  rw [choiceLabels, choiceLabels, selectable_closedAll, List.zipIdx_map, List.map_map]
  exact List.map_congr_left fun entry _ => entry.1.memberLabel_closed entry.2

@[simp]
theorem discriminator?_closed (node : ParamNode) :
    node.closed.discriminator? = node.discriminator? := by
  cases node with
  | union info members => simp only [closed, discriminator?, hasDiscriminator_closedAll]
  | _ => rfl

/-- The records in a closed union have no fields to number. -/
theorem numberedArms_closedAll (members : List ParamNode) (position : Nat) :
    numberedArms (closedAll members) position = [] := by
  induction members generalizing position with
  | nil => rfl
  | cons member rest ih => cases member <;> exact ih (position + 1)

/-- Nothing is numbered in the scope of a closed tree. -/
@[simp]
theorem inside_closed (expandRecords : Bool) (node : ParamNode) :
    node.closed.inside expandRecords = [] := by
  cases node with
  | record => simp [closed, inside]
  | union => simp [closed, inside, numberedArms_closedAll]
  | _ => rfl

/-- With expansion off nothing is numbered in the scope of a tree. -/
theorem inside_false (node : ParamNode) : node.inside false = [] := by
  cases node <;> rfl

/-- What a tree declares of itself with expansion off, the closed tree does at any rate. -/
theorem headDeclarations_closed (scope : String) (expandRecords : Bool) (index : Nat)
    (node : ParamNode) :
    node.closed.headDeclarations scope expandRecords index =
      node.headDeclarations scope false index := by
  have hname : node.closed.unfoldedName? expandRecords = node.unfoldedName? false := by
    cases node with
    | record => simp [closed, unfoldedName?]
    | _ => rfl
  simp only [headDeclarations, value, info_closed, kind_closed, discriminator?_closed, hname]

end ParamNode

/-! ## Wires -/

section Wires

variable (scope : String) (expandRecords : Bool)

/-- With expansion off a parameter declares what its closed tree does. -/
theorem parameterDeclarations_closed (index : Nat) (node : ParamNode) :
    parameterDeclarations scope expandRecords index node.closed =
      parameterDeclarations scope false index node := by
  have hscope : node.closed.fieldScope scope = node.fieldScope scope := by
    simp only [ParamNode.fieldScope, ParamNode.name, ParamNode.info_closed]
  simp only [parameterDeclarations_eq_bind, ParamNode.checkVariant_closed, ParamNode.inside_closed,
    ParamNode.inside_false, ParamNode.headDeclarations_closed, hscope]

theorem wireFrom_closed (params : List ParamNode) (start : Nat) :
    wireFrom scope expandRecords start (params.map ParamNode.closed) =
      wireFrom scope false start params := by
  induction params generalizing start with
  | nil => rfl
  | cons node rest ih => simp only [List.map_cons, wireFrom, parameterDeclarations_closed, ih]

end Wires

/-! ## Descriptors -/

mutual

/-- With expansion off a tree mentions what its closed tree does. -/
theorem mentions_closed (expandRecords : Bool) : ∀ node : ParamNode,
    mentions expandRecords node.closed = mentions false node
  | .record .. => by simp [ParamNode.closed, mentions]
  | .union info members => by
    simp only [ParamNode.closed, mentions, ParamNode.hasDiscriminator_closedAll,
      mentionsAll_closed expandRecords members]
  | .simple .. => rfl
  | .map .. => rfl
  | .array .. => rfl

/-- With expansion off several trees in turn mention what their closed trees do. -/
theorem mentionsAll_closed (expandRecords : Bool) : ∀ nodes : List ParamNode,
    mentionsAll expandRecords (ParamNode.closedAll nodes) = mentionsAll false nodes
  | [] => rfl
  | node :: rest => by
    simp only [ParamNode.closedAll, mentionsAll, mentions_closed expandRecords node,
      mentionsAll_closed expandRecords rest]

end

theorem parameterDescriptors_closed (params : List ParamNode) (emitted : List String)
    (expandRecords : Bool) :
    parameterDescriptors (params.map ParamNode.closed) emitted expandRecords =
      parameterDescriptors params emitted false := by
  rw [parameterDescriptors, ← ParamNode.closedAll_eq_map, mentionsAll_closed]
  rfl

/-! ## Forms -/

section Forms

variable {expandRecords configContext : Bool}

/-- The list of choices of a union tells its members by their labels. -/
theorem unionChoice_closed (info : NodeInfo) (members : List ParamNode) (condition : Condition) :
    unionChoice info (ParamNode.closedAll members) condition =
      unionChoice info members condition := by
  simp only [unionChoice_eq, ParamNode.hasDiscriminator_closedAll,
    ParamNode.choiceLabels_closedAll]

/-- No member of a union is unfolded with expansion off. -/
theorem placeArms_of_closed (configContext : Bool) (condition : Condition) (single : Bool)
    (group : Option String) (members : List ParamNode) :
    placeArms ⟨false, configContext⟩ condition single group members = .ok [] := by
  induction members with
  | nil => rfl
  | cons member rest ih =>
    cases member with
    | record =>
      rw [placeArms, ih]
      rfl
    | _ => exact ih

/-- No member of a closed union is unfolded. -/
theorem placeArms_closedAll (ctx : FormContext) (condition : Condition) (single : Bool)
    (group : Option String) (members : List ParamNode) :
    placeArms ctx condition single group (ParamNode.closedAll members) = .ok [] := by
  induction members with
  | nil => rfl
  | cons member rest ih =>
    cases member with
    | record =>
      rw [ParamNode.closedAll, ParamNode.closed, placeArms, ih]
      cases ctx.expandRecords <;> rfl
    | _ => exact ih

mutual

/-- With expansion off a tree is rendered as its closed tree is. Expansion may be on for the closed
tree outside of connections only, where it would give an optional record a check box. -/
theorem renderNode_closed (hplain : (expandRecords && configContext) = false) :
    ∀ (node : ParamNode) (condition : Condition) (group : Option String),
      renderNode ⟨expandRecords, configContext⟩ condition group node.closed =
        renderNode ⟨false, configContext⟩ condition group node
  | .record info recordName parentPath fields, condition, group => by
    cases expandRecords with
    | false => rfl
    | true =>
      obtain rfl : configContext = false := hplain
      simp [ParamNode.closed, renderNode, gate_of_plain]
  | .union info members, condition, group => by
    have hsingle : (ParamNode.selectable (ParamNode.closedAll members)).length =
        (ParamNode.selectable members).length := by
      rw [ParamNode.selectable_closedAll, List.length_map]
    simp only [ParamNode.closed, renderNode, unionChoice_closed, hsingle, placeArms_closedAll,
      placeArms_of_closed, renderMembers_closed hplain members]
  | .simple .., _, _ => rfl
  | .map .., _, _ => rfl
  | .array .., _, _ => rfl

/-- With expansion off the members of a union are rendered as their closed trees are, and none of
them is unfolded. -/
theorem renderMembers_closed (hplain : (expandRecords && configContext) = false) :
    ∀ (members : List ParamNode) (condition : Condition) (single : Bool) (group : Option String),
      renderMembers ⟨expandRecords, configContext⟩ condition single group
          (ParamNode.closedAll members) =
        renderMembers ⟨false, configContext⟩ condition single group members
  | [], _, _, _ => rfl
  | member :: rest, condition, single, group => by
    have hflat : member.expands false = false := by cases member <;> rfl
    simp only [ParamNode.closedAll, renderMembers, ParamNode.expands_closed, hflat, memberCondition,
      ParamNode.condition, ParamNode.info_closed, renderNode_closed hplain member,
      renderMembers_closed hplain rest]

end

theorem renderForm_closed (hplain : (expandRecords && configContext) = false)
    (params : List ParamNode) :
    renderForm ⟨expandRecords, configContext⟩ (params.map ParamNode.closed) =
      renderForm ⟨false, configContext⟩ params := by
  induction params with
  | nil => rfl
  | cons node rest ih =>
    simp only [List.map_cons, renderForm, ParamNode.condition, ParamNode.info_closed,
      renderNode_closed hplain, ih]

end Forms

/-! ## Artifacts -/

section Artifacts

/-- The mark that a parameter is an advanced setting does not depend on fields. -/
theorem basicParams_closed (params : List ParamNode) :
    basicParams (params.map ParamNode.closed) = (basicParams params).map ParamNode.closed := by
  simp only [basicParams, List.filter_map, Function.comp_def, ParamNode.info_closed]

theorem advancedParams_closed (params : List ParamNode) :
    advancedParams (params.map ParamNode.closed) =
      (advancedParams params).map ParamNode.closed := by
  simp only [advancedParams, List.filter_map, Function.comp_def, ParamNode.info_closed]

theorem operationForm_closed (name title : String) (params : List ParamNode)
    (path : List Naming.Segment) (help : String) :
    operationForm name title (params.map ParamNode.closed) path help false =
      operationForm name title params path help false := by
  simp only [operationForm, basicParams_closed, advancedParams_closed,
    renderForm_closed (Bool.false_and false)]

theorem connectionForm_closed (name title : String) (params : List ParamNode) (help : String) :
    connectionForm name title (params.map ParamNode.closed) help false =
      connectionForm name title params help false := by
  simp only [connectionForm, basicParams_closed, advancedParams_closed,
    renderForm_closed (Bool.false_and true)]

variable {settings : Settings}

/-- With expansion off the artifact of an operation has the files of the artifact for closed
trees. -/
theorem files_operationArtifact_closed (hclosed : settings.expandRecords = false) (op : Operation)
    (params : List ParamNode) (name directory before : String) :
    (OperationArtifact.files · directory before) <$>
        operationArtifact settings op (params.map ParamNode.closed) name =
      (OperationArtifact.files · directory before) <$>
        operationArtifact settings op params name := by
  simp only [operationArtifact, hclosed, wire, wireFrom_closed, parameterDescriptors_closed,
    operationForm_closed, map_bind, map_pure]
  rfl

/-- With expansion off the artifact of a connection has the files of the artifact for closed
trees. -/
theorem files_connectionArtifact_closed (hclosed : settings.expandRecords = false) (op : Operation)
    (params : List ParamNode) (connection directory before : String) :
    (OperationArtifact.files · directory before) <$>
        connectionArtifact settings op (params.map ParamNode.closed) connection =
      (OperationArtifact.files · directory before) <$>
        connectionArtifact settings op params connection := by
  simp only [connectionArtifact, hclosed, wire, wireFrom_closed, parameterDescriptors_closed,
    connectionForm_closed, map_bind, map_pure]
  rfl

end Artifacts

/-- With expansion off parameters are declared, described and, outside of connections, rendered as
their closed trees are with expansion on, faults included. So trees that differ in the fields of
records only give artifacts with the same files, in connections too. -/
theorem renderings_closed (params : List ParamNode) :
    (∀ scope, wire params scope false = wire (params.map ParamNode.closed) scope true) ∧
    (∀ emitted, parameterDescriptors params emitted false =
      parameterDescriptors (params.map ParamNode.closed) emitted true) ∧
    renderForm ⟨false, false⟩ params = renderForm ⟨true, false⟩ (params.map ParamNode.closed) ∧
    ∀ others : List ParamNode, others.map ParamNode.closed = params.map ParamNode.closed →
      ∀ settings : Settings, settings.expandRecords = false → ∀ op name directory before,
        (OperationArtifact.files · directory before) <$> operationArtifact settings op others name =
          (OperationArtifact.files · directory before) <$>
            operationArtifact settings op params name ∧
        (OperationArtifact.files · directory before) <$>
            connectionArtifact settings op others name =
          (OperationArtifact.files · directory before) <$>
            connectionArtifact settings op params name := by
  refine ⟨fun scope => (wireFrom_closed scope true params 0).symm,
    fun emitted => (parameterDescriptors_closed params emitted true).symm,
    (renderForm_closed (Bool.and_false true) params).symm, ?_⟩
  intro others hsame settings hclosed op name directory before
  -- both lists of trees are closed to the same one
  rw [← files_operationArtifact_closed hclosed op others, hsame,
    files_operationArtifact_closed hclosed, ← files_connectionArtifact_closed hclosed op others,
    hsame, files_connectionArtifact_closed hclosed]
  exact ⟨rfl, rfl⟩

/-- A parameter that is a token or a login, with the given fields of a login. -/
def tokenOrLogin (fields : List ParamNode) : ParamNode :=
  let arm (node : ParamNode) (label : String) :=
    node.asMember label (.when "authDataType" label)
  .union (.plain "0" "auth" true none)
    [arm (.simple (.plain "0" "authString" true none) .string) "string",
      arm (.record (.plain "1" "authLogin" true none) "Login" "auth" fields) "Login"]

theorem renderings_closed_tokenOrLogin :
    let login := tokenOrLogin [.simple (.plain "0" "auth.user" true none) .string]
    let settings := { Settings.default with expandRecords := false }
    [tokenOrLogin []].map ParamNode.closed = [login].map ParamNode.closed ∧
      settings.expandRecords = false ∧ ∀ op name directory before,
        (OperationArtifact.files · directory before) <$>
            operationArtifact settings op [tokenOrLogin []] name =
          (OperationArtifact.files · directory before) <$>
            operationArtifact settings op [login] name ∧
        (OperationArtifact.files · directory before) <$>
            connectionArtifact settings op [tokenOrLogin []] name =
          (OperationArtifact.files · directory before) <$>
            connectionArtifact settings op [login] name := by
  intro login settings
  exact ⟨rfl, rfl, (renderings_closed [login]).2.2.2 [tokenOrLogin []] rfl settings rfl⟩

end SignatureForms
