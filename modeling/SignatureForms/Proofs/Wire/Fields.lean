import SignatureForms.Proofs.Form.Rendering
import SignatureForms.Wire.Declaration

/-!
# Fields of a wire

The numbered fields of a wire are made by a recursion that may fail and that counts as it goes. This
module describes them by a plain traversal of the parameter tree that only collects the nodes to be
numbered, and reads a wire as what each of its parameters declares on its own.

The module introduces:

* `FieldNode` — a node that is numbered, with the union member that it belongs to;
* `ParamNode.inside expandRecords node` — the nodes that are numbered in the scope of a parameter;
* `ParamNode.declarations scope expandRecords index node` — what a parameter declares.

## Main results

* `wireFields_eq_mapM`: the fields of a node are those of the nodes that it numbers, in order;
* `wire_eq_ok_iff`: a wire is what its parameters declare, if none has a leaf of a wrong variant.
-/

namespace SignatureForms

/-! ## Numbered nodes -/

/-- A node that a wire numbers, with the label of the union member that it belongs to. -/
structure FieldNode where
  /-- The label of the union member. -/
  member : Option String
  /-- The node. -/
  node : ParamNode

namespace FieldNode

/-- What the field of the node tells. -/
def field (entry : FieldNode) : WireField :=
  ⟨entry.node.value, entry.node.kind, entry.node.discriminator?, entry.member⟩

/-- The field of a node that has the variant of its kind. -/
def checked (entry : FieldNode) : Except Fault WireField := do
  entry.node.checkVariant
  return entry.field

end FieldNode

namespace ParamNode

mutual

/-- The nodes that a node inside a record or union member numbers: a record that is unfolded has no
number of its own, and a union comes before the fields of its records. -/
def numbered (expandRecords : Bool) (tag : Option String) : ParamNode → List FieldNode
  | record info recordName parentPath fields =>
    if expandRecords && !fields.isEmpty then numberedAll expandRecords tag fields
    else [⟨tag, record info recordName parentPath fields⟩]
  | union info members =>
    ⟨tag, union info members⟩ :: if expandRecords then numberedArms members 0 else []
  | node => [⟨tag, node⟩]

/-- The nodes that several nodes number in turn. -/
def numberedAll (expandRecords : Bool) (tag : Option String) : List ParamNode → List FieldNode
  | [] => []
  | node :: rest => numbered expandRecords tag node ++ numberedAll expandRecords tag rest

/-- The nodes that the fields of the record members of a union number; the first of the members has
the given position. -/
def numberedArms : List ParamNode → Nat → List FieldNode
  | [], _ => []
  | record info recordName parentPath fields :: rest, position =>
    numberedAll true ((record info recordName parentPath fields).memberLabel position) fields ++
      numberedArms rest (position + 1)
  | _ :: rest, position => numberedArms rest (position + 1)

end

theorem numberedAll_eq_flatMap (expandRecords : Bool) (tag : Option String)
    (nodes : List ParamNode) :
    numberedAll expandRecords tag nodes = nodes.flatMap (numbered expandRecords tag) := by
  induction nodes with
  | nil => rfl
  | cons node rest ih => rw [numberedAll, ih, List.flatMap_cons]

/-- Of the members of a union the fields are numbered, which only records have. -/
theorem numberedArms_eq_flatMap (members : List ParamNode) (position : Nat) :
    numberedArms members position = (members.zipIdx position).flatMap fun (member, position) =>
      numberedAll true (member.memberLabel position) member.fields := by
  induction members generalizing position with
  | nil => rfl
  | cons member rest ih =>
    rw [List.zipIdx_cons, List.flatMap_cons, ← ih]
    cases member <;> rfl

/-- The nodes that are numbered in the scope of a parameter. -/
def inside (expandRecords : Bool) : ParamNode → List FieldNode
  | record _ _ _ fields =>
    if expandRecords && !fields.isEmpty then numberedAll expandRecords none fields else []
  | union _ members => if expandRecords then numberedArms members 0 else []
  | _ => []

end ParamNode

mutual

/-- The fields of a node are those of the nodes that it numbers. -/
theorem wireFields_eq_mapM (expandRecords : Bool) (tag : Option String) : ∀ node : ParamNode,
    wireFields expandRecords tag node =
      (node.numbered expandRecords tag).mapM FieldNode.checked
  | .record info recordName parentPath fields => by
    rw [wireFields, ParamNode.numbered]
    split
    · exact wireFieldsAll_eq_mapM expandRecords tag fields
    · rfl
  | .union info members => by
    rw [wireFields, ParamNode.numbered, List.mapM_cons]
    cases expandRecords with
    | false => rfl
    | true =>
      rw [if_pos rfl, if_pos rfl, wireFieldsOfArms_eq_mapM members 0]
      rfl
  | .simple info kind => by
    unfold wireFields ParamNode.numbered
    rw [List.mapM_cons, FieldNode.checked]
    -- a leaf of a wrong variant ends both sides alike
    cases (ParamNode.simple info kind).checkVariant <;> rfl
  | .map info shape => rfl
  | .array info shape => rfl

/-- The fields of several nodes are those of the nodes that they number in turn. -/
theorem wireFieldsAll_eq_mapM (expandRecords : Bool) (tag : Option String) :
    ∀ nodes : List ParamNode, wireFieldsAll expandRecords tag nodes =
      (ParamNode.numberedAll expandRecords tag nodes).mapM FieldNode.checked
  | [] => rfl
  | node :: rest => by
    rw [wireFieldsAll, ParamNode.numberedAll, List.mapM_append,
      wireFields_eq_mapM expandRecords tag node, wireFieldsAll_eq_mapM expandRecords tag rest]

/-- The fields of the record members of a union are those of the nodes that the members number. -/
theorem wireFieldsOfArms_eq_mapM : ∀ (members : List ParamNode) (position : Nat),
    wireFieldsOfArms members position =
      (ParamNode.numberedArms members position).mapM FieldNode.checked
  | [], _ => rfl
  | .record info recordName parentPath fields :: rest, position => by
    rw [wireFieldsOfArms, ParamNode.numberedArms, List.mapM_append,
      wireFieldsAll_eq_mapM, wireFieldsOfArms_eq_mapM rest]
  | .simple .. :: rest, position => wireFieldsOfArms_eq_mapM rest (position + 1)
  | .map .. :: rest, position => wireFieldsOfArms_eq_mapM rest (position + 1)
  | .array .. :: rest, position => wireFieldsOfArms_eq_mapM rest (position + 1)
  | .union .. :: rest, position => wireFieldsOfArms_eq_mapM rest (position + 1)

end

/-- What the records in a union number is numbered by one of their fields, with the label of the
record as its tag. -/
theorem exists_field_of_mem_numberedArms {members : List ParamNode} {entry : FieldNode}
    (h : entry ∈ ParamNode.numberedArms members 0) :
    ∃ (position : Nat) (member field : ParamNode), members[position]? = some member ∧
      field ∈ member.fields ∧
        entry ∈ field.numbered true (some (member.memberLabel position)) := by
  rw [ParamNode.numberedArms_eq_flatMap] at h
  obtain ⟨⟨member, position⟩, hmember, hentry⟩ := List.mem_flatMap.1 h
  dsimp only at hentry
  rw [ParamNode.numberedAll_eq_flatMap] at hentry
  obtain ⟨field, hfield, hentry⟩ := List.mem_flatMap.1 hentry
  exact ⟨position, member, field, List.mk_mem_zipIdx_iff_getElem?.1 hmember, hfield, hentry⟩

/-- What a parameter numbers in its scope it would number as a field. -/
theorem inside_subset_numbered (expandRecords : Bool) (node : ParamNode) :
    node.inside expandRecords ⊆ node.numbered expandRecords none := by
  cases node with
  | record info recordName parentPath fields =>
    rw [ParamNode.inside, ParamNode.numbered]
    split
    · exact List.Subset.refl _
    · exact List.nil_subset _
  | union info members => exact List.subset_cons_self _ _
  | _ => exact List.nil_subset _

/-! ## Declarations of a parameter -/

namespace ParamNode

/-- The name that a record declares if it is unfolded. -/
def unfoldedName? (expandRecords : Bool) : ParamNode → Option String
  | record _ recordName _ fields =>
    if expandRecords && !fields.isEmpty then some recordName else none
  | _ => none

/-- What a parameter declares of itself. -/
def headDeclarations (scope : String) (expandRecords : Bool) (index : Nat) (node : ParamNode) :
    List Declaration :=
  [⟨numberedKey scope "param" index, node.value⟩,
   ⟨numberedKey scope "paramType" index, node.kind.name⟩]
    ++ ((node.unfoldedName? expandRecords).map
      (⟨numberedKey scope "param" index ++ "_recordName", ·⟩)).toList
    ++ (node.discriminator?.map (⟨numberedKey scope "dataType" index, ·⟩)).toList

/-- The scope in which the fields of a parameter are numbered. -/
def fieldScope (scope : String) (node : ParamNode) : String := scopedKey scope node.name

/-- What a parameter declares. -/
def declarations (scope : String) (expandRecords : Bool) (index : Nat) (node : ParamNode) :
    List Declaration :=
  node.headDeclarations scope expandRecords index ++
    fieldDeclarations (node.fieldScope scope) ((node.inside expandRecords).map FieldNode.field)

/-- The parameter and the nodes that are numbered in its scope have the variants of their kinds. -/
def IsWired (expandRecords : Bool) (node : ParamNode) : Prop :=
  node.checkVariant = .ok () ∧ ∀ entry ∈ node.inside expandRecords,
    entry.node.checkVariant = .ok ()

end ParamNode

/-- Nodes have fields if all of them have the variants of their kinds. -/
theorem mapM_checked_eq_ok_iff {entries : List FieldNode} {fields : List WireField} :
    entries.mapM FieldNode.checked = .ok fields ↔
      (∀ entry ∈ entries, entry.node.checkVariant = .ok ()) ∧
        fields = entries.map FieldNode.field := by
  induction entries generalizing fields with
  | nil =>
    rw [List.mapM_nil, pure_eq_ok_iff]
    simp [eq_comm]
  | cons entry rest ih =>
    simp only [List.mapM_cons, FieldNode.checked, bind_eq_ok_iff, pure_eq_ok_iff, ih,
      List.forall_mem_cons, List.map_cons]
    constructor
    · rintro ⟨_, ⟨⟨⟩, hcheck, rfl⟩, _, ⟨hrest, rfl⟩, rfl⟩
      exact ⟨⟨hcheck, hrest⟩, rfl⟩
    · rintro ⟨⟨hcheck, hrest⟩, rfl⟩
      exact ⟨_, ⟨(), hcheck, rfl⟩, _, ⟨hrest, rfl⟩, rfl⟩

/-- A parameter declares itself and then the nodes that are numbered in its scope. -/
theorem parameterDeclarations_eq_bind (scope : String) (expandRecords : Bool) (index : Nat)
    (node : ParamNode) :
    parameterDeclarations scope expandRecords index node = do
      node.checkVariant
      let fields ← (node.inside expandRecords).mapM FieldNode.checked
      return node.headDeclarations scope expandRecords index ++
        fieldDeclarations (node.fieldScope scope) fields := by
  cases node with
  | record info recordName parentPath fields =>
    rw [parameterDeclarations, ParamNode.inside, ParamNode.headDeclarations,
      ParamNode.unfoldedName?, ParamNode.expands]
    cases expandRecords && !fields.isEmpty with
    | false => rfl
    | true =>
      simp only [if_true, wireFieldsAll_eq_mapM]
      rfl
  | union info members =>
    rw [parameterDeclarations, ParamNode.inside]
    cases expandRecords with
    | false => rfl
    | true =>
      simp only [if_true, wireFieldsOfArms_eq_mapM]
      rfl
  | _ => rfl

/-- A parameter that has declarations is wired, and they are its declarations. -/
theorem parameterDeclarations_eq_ok_iff {scope : String} {expandRecords : Bool} {index : Nat}
    {node : ParamNode} {ds : List Declaration} :
    parameterDeclarations scope expandRecords index node = .ok ds ↔
      node.IsWired expandRecords ∧ ds = node.declarations scope expandRecords index := by
  simp only [parameterDeclarations_eq_bind, bind_eq_ok_iff, pure_eq_ok_iff, mapM_checked_eq_ok_iff,
    ParamNode.IsWired, ParamNode.declarations]
  constructor
  · rintro ⟨⟨⟩, hcheck, _, ⟨hinside, rfl⟩, rfl⟩
    exact ⟨⟨hcheck, hinside⟩, rfl⟩
  · rintro ⟨⟨hcheck, hinside⟩, rfl⟩
    exact ⟨(), hcheck, _, ⟨hinside, rfl⟩, rfl⟩

/-! ## Wires -/

/-- Parameters from a number on declare what each of them does. -/
theorem wireFrom_eq_ok_iff {scope : String} {expandRecords : Bool} {start : Nat}
    {params : List ParamNode} {ds : List Declaration} :
    wireFrom scope expandRecords start params = .ok ds ↔
      (∀ node ∈ params, node.IsWired expandRecords) ∧
        ds = (params.zipIdx start).flatMap fun (node, index) =>
          node.declarations scope expandRecords index := by
  induction params generalizing start ds with
  | nil => simp [wireFrom, eq_comm]
  | cons node rest ih =>
    simp only [wireFrom, bind_eq_ok_iff, pure_eq_ok_iff, parameterDeclarations_eq_ok_iff, ih,
      List.forall_mem_cons, List.zipIdx_cons, List.flatMap_cons]
    constructor
    · rintro ⟨_, ⟨hnode, rfl⟩, _, ⟨hrest, rfl⟩, rfl⟩
      exact ⟨⟨hnode, hrest⟩, rfl⟩
    · rintro ⟨⟨hnode, hrest⟩, rfl⟩
      exact ⟨_, ⟨hnode, rfl⟩, _, ⟨hrest, rfl⟩, rfl⟩

/-- A wire is what its parameters declare, one after the other, if each of them is wired. -/
theorem wire_eq_ok_iff {params : List ParamNode} {scope : String} {expandRecords : Bool}
    {ds : List Declaration} :
    wire params scope expandRecords = .ok ds ↔
      (∀ node ∈ params, node.IsWired expandRecords) ∧
        ds = params.zipIdx.flatMap fun (node, index) =>
          node.declarations scope expandRecords index :=
  wireFrom_eq_ok_iff

end SignatureForms
