import SignatureForms.Proofs.ParamTree.Accounting
import SignatureForms.Proofs.ParamTree.Evaluation
import SignatureForms.Proofs.ParamTree.Simulation
import SignatureForms.Proofs.ParamTree.Subtrees

/-!
# Shapes of parameter trees

What a parameter is called, where it stands and whether it may be left out has no part in which
nodes its tree has. The name and the position only show in the names of the nodes, and a parameter
that may be left out passes this on to every node of its tree.

The module introduces:

* `ParamNode.shape` — a tree without names, positions, texts and marks: variants, kinds, labels,
  columns and parts;
* `ParamNode.optional` — the tree in which every node may be left out;
* `ParamNode.InheritsOptional` — below a node that may be left out, all nodes may be left out.

## Main results

* `follows_shape`, `follows_optional`: the rules of classification keep shapes in any two slots, and
  make a tree optional that is derived in a slot that may be left out;
* `Classifies.inheritsOptional`: in a tree that is derived, a mark to be left out is passed on;
* `exists_classify_shape`: two calls for one type agree in shape and in what is left of the budget.
-/

namespace SignatureForms

/-! ## Shapes -/

/-- What a node is, apart from what it is called and how it is marked: its variant and kind, its
label as the member of a union, its columns, and the shapes of its parts. -/
inductive TreeShape where
  /-- A leaf. -/
  | simple (label : Option String) (typeDescriptor : Bool) (kind : Kind)
  /-- A record. -/
  | record (label : Option String) (fields : List TreeShape)
  /-- Values by key. -/
  | map (label : Option String) (shape : MapShape)
  /-- A sequence. -/
  | array (label : Option String) (shape : ArrayShape)
  /-- A choice. -/
  | union (label : Option String) (typeDescriptor : Bool) (members : List TreeShape)
deriving Inhabited

namespace TreeShape

/-- The shape of a choice. -/
def isUnion : TreeShape → Bool
  | union .. => true
  | _ => false

/-- The shape under a label. -/
def labelled (label : String) : TreeShape → TreeShape
  | simple _ typeDescriptor kind => simple (some label) typeDescriptor kind
  | record _ fields => record (some label) fields
  | map _ shape => map (some label) shape
  | array _ shape => array (some label) shape
  | union _ typeDescriptor members => union (some label) typeDescriptor members

end TreeShape

namespace ParamNode

mutual

/-- The shape of a tree. -/
def shape : ParamNode → TreeShape
  | simple info kind => .simple info.label info.typeDescriptor kind
  | record info _ _ fields => .record info.label (shapeAll fields)
  | map info shape => .map info.label shape
  | array info shape => .array info.label shape
  | union info members => .union info.label info.typeDescriptor (shapeAll members)

/-- The shapes of several trees. -/
def shapeAll : List ParamNode → List TreeShape
  | [] => []
  | node :: rest => shape node :: shapeAll rest

end

theorem shapeAll_eq_map (nodes : List ParamNode) : shapeAll nodes = nodes.map shape := by
  induction nodes with
  | nil => rfl
  | cons node rest ih => rw [shapeAll, ih, List.map_cons]

@[simp]
theorem isUnion_shape (node : ParamNode) : node.shape.isUnion = node.isUnion := by
  cases node <;> rfl

/-- As the member of a union, a node gets a label and keeps its shape otherwise. -/
@[simp]
theorem shape_asMember (label : String) (condition : Condition) (node : ParamNode) :
    (node.asMember label condition).shape = node.shape.labelled label := by
  cases node <;> rfl

end ParamNode

/-- Nodes of pairwise equal shapes have equal lists of shapes. -/
theorem shapeAll_eq_of_forall₂ {nodes nodes' : List ParamNode}
    (h : List.Forall₂ (fun node node' => node.shape = node'.shape) nodes nodes') :
    ParamNode.shapeAll nodes = ParamNode.shapeAll nodes' := by
  induction h with
  | nil => rfl
  | cons hhead _ ih => rw [ParamNode.shapeAll, ParamNode.shapeAll, hhead, ih]

section FlatShape

variable {types : TypeGraph}

/-- The nodes that a type below which nothing is unfolded has in two slots are related, if this is so
of each node that such a type can have. -/
theorem flatNode_related {Q : Option ParamNode → Option ParamNode → Prop} {slot slot' : Slot}
    (habsent : Q none none)
    (hmap : ∀ valueType, Q (some (.map slot.info (mapShape types valueType)))
      (some (.map slot'.info (mapShape types valueType))))
    (harray : ∀ elementType, Q (some (.array slot.info (arrayShape types elementType)))
      (some (.array slot'.info (arrayShape types elementType))))
    (hleaf : ∀ kind, Q (some (slot.leaf kind)) (some (slot'.leaf kind)))
    (htype : ∀ kind (text : String → Option String),
      Q (some (typeLeaf slot kind (text slot.name))) (some (typeLeaf slot' kind (text slot'.name))))
    (hchoice : ∀ members,
      Q (classifyTypeUnion types members slot) (classifyTypeUnion types members slot'))
    (d : TypeDescriptor) : Q (flatNode types d slot) (flatNode types d slot') := by
  unfold flatNode
  split
  · exact hmap _
  · exact harray _
  -- a type descriptor: the kind of what it describes decides
  · unfold classifyTypeDescriptor
    split
    · exact habsent
    · dsimp only
      split
      · exact hchoice _
      · exact htype _ fun name => some (recordDisplayName _ name)
      · exact htype _ fun _ => none
      · exact habsent
      · exact habsent
      · exact habsent
      · exact habsent
      · cases Kind.supported? _ with
        | none => exact habsent
        | some kind => exact htype kind fun _ => none
  · exact habsent
  · cases Kind.supported? _ with
    | none => exact habsent
    | some kind => exact hleaf kind

/-- The shape of a choice of types does not depend on its slot. -/
theorem shape_classifyTypeUnion (members : List TypeId) (slot slot' : Slot) :
    (classifyTypeUnion types members slot).map ParamNode.shape =
      (classifyTypeUnion types members slot').map ParamNode.shape := by
  simp only [classifyTypeUnion]
  split
  · rfl
  · rfl
  · simp only [Option.map_some, ParamNode.shape, ParamNode.shapeAll_eq_map, List.map_map]
    rfl

/-- The shape of a node below which nothing is unfolded does not depend on its slot. -/
theorem shape_flatNode (d : TypeDescriptor) (slot slot' : Slot) :
    (flatNode types d slot).map ParamNode.shape = (flatNode types d slot').map ParamNode.shape := by
  apply flatNode_related (Q := fun node node' => node.map ParamNode.shape = node'.map ParamNode.shape)
  case hchoice => exact fun members => shape_classifyTypeUnion members slot slot'
  all_goals intros; rfl

/-- Results of equal shapes are related by their shapes. -/
theorem rel_shape_of_map_eq {node node' : Option ParamNode}
    (h : node.map ParamNode.shape = node'.map ParamNode.shape) :
    Option.Rel (fun node node' => node.shape = node'.shape) node node' := by
  match node, node' with
  | none, none => exact .none
  | some _, some _ => exact .some (by simpa using h)

/-- The rules keep shapes, in whatever slots they are followed. -/
theorem follows_shape (types : TypeGraph) :
    Follows types (fun _ _ => True) fun node node' => node.shape = node'.shape where
  field _ _ _ := trivial
  member _ _ _ := trivial
  enter _ _ := trivial
  flat _ d := rel_shape_of_map_eq (shape_flatNode d _ _)
  record _ hfields d := by
    rw [ParamNode.shape, ParamNode.shape, shapeAll_eq_of_forall₂ hfields]
    rfl
  union _ hmembers := by
    rw [ParamNode.shape, ParamNode.shape, shapeAll_eq_of_forall₂ hmembers]
    rfl
  asMember _ hnode label := by
    rw [ParamNode.shape_asMember, ParamNode.shape_asMember, hnode]
  isUnion hnode := by
    rw [← ParamNode.isUnion_shape, ← hnode, ParamNode.isUnion_shape]

/-- In any other slot a type gives a node of the same shape, and the same is left. -/
theorem Classifies.exists_shape_eq {type : TypeId} {slot : Slot} {active : List TypeId}
    {budget left : Budget} {node : Option ParamNode}
    (h : Classifies types type slot active budget node left) (slot' : Slot) :
    ∃ node', Classifies types type slot' active budget node' left ∧
      node.map ParamNode.shape = node'.map ParamNode.shape := by
  obtain ⟨node', hnode', hrelated⟩ : ∃ node', Classifies types type slot' active budget node' left ∧
      Option.Rel (fun node node' => node.shape = node'.shape) node node' :=
    h.follow (follows_shape types) trivial
  refine ⟨node', hnode', ?_⟩
  cases hrelated with
  | some hshape => rw [Option.map_some, Option.map_some, hshape]
  | none => rfl

end FlatShape

/-! ## Nodes that may be left out -/

/-- The shared parts of a node that may be left out. -/
def NodeInfo.optional (info : NodeInfo) : NodeInfo := { info with required := false }

namespace ParamNode

mutual

/-- The tree in which every node may be left out. -/
def optional : ParamNode → ParamNode
  | record info recordName parentPath fields =>
    record info.optional recordName parentPath (optionalAll fields)
  | union info members => union info.optional (optionalAll members)
  | simple info kind => simple info.optional kind
  | map info shape => map info.optional shape
  | array info shape => array info.optional shape

/-- Several trees in which every node may be left out. -/
def optionalAll : List ParamNode → List ParamNode
  | [] => []
  | node :: rest => optional node :: optionalAll rest

end

theorem optionalAll_eq_map (nodes : List ParamNode) : optionalAll nodes = nodes.map optional := by
  induction nodes with
  | nil => rfl
  | cons node rest ih => rw [optionalAll, ih, List.map_cons]

@[simp]
theorem info_optional (node : ParamNode) : node.optional.info = node.info.optional := by
  cases node <;> rfl

@[simp]
theorem isUnion_optional (node : ParamNode) : node.optional.isUnion = node.isUnion := by
  cases node <;> rfl

theorem optional_asMember (label : String) (condition : Condition) (node : ParamNode) :
    (node.asMember label condition).optional = node.optional.asMember label condition := by
  cases node <;> rfl

mutual

/-- The nodes of the optional tree are those of the tree, made optional. -/
theorem walk_optional : ∀ node : ParamNode, node.optional.walk = node.walk.map optional
  | simple _ _ => rfl
  | record _ _ _ fields => by
    rw [optional, walk, walkAll_optionalAll fields]
    rfl
  | map _ _ => rfl
  | array _ _ => rfl
  | union _ members => by
    rw [optional, walk, walkAll_optionalAll members]
    rfl

/-- The nodes of several optional trees are those of the trees, made optional. -/
theorem walkAll_optionalAll :
    ∀ nodes : List ParamNode, walkAll (optionalAll nodes) = (walkAll nodes).map optional
  | [] => rfl
  | node :: rest => by
    rw [optionalAll, walkAll, walkAll, List.map_append, walk_optional node,
      walkAll_optionalAll rest]

end

/-- Every node of an optional tree may be left out. -/
theorem required_eq_false_of_mem_walk_optional {tree node : ParamNode}
    (h : node ∈ tree.optional.walk) : node.info.required = false := by
  rw [walk_optional] at h
  obtain ⟨origin, -, rfl⟩ := List.mem_map.1 h
  rw [info_optional]
  rfl

end ParamNode

/-- The place in which the value may be left out. -/
def Slot.optional (slot : Slot) : Slot := { slot with required := false }

/-- A place that may be left out is optional already. -/
theorem Slot.optional_eq_self {slot : Slot} (h : slot.required = false) : slot.optional = slot := by
  rw [optional, ← h]

/-- Entering a union twice marks the place as entering it once does. -/
@[simp]
theorem Slot.ofUnion_ofUnion (slot : Slot) (types : TypeGraph) (members : List TypeId) :
    (slot.ofUnion types members).ofUnion types members = slot.ofUnion types members := by
  simp [ofUnion]

section FlatOptional

variable {types : TypeGraph}

/-- A choice of types in an optional slot is the optional choice. -/
theorem classifyTypeUnion_optional (members : List TypeId) (slot : Slot) :
    classifyTypeUnion types members slot.optional =
      (classifyTypeUnion types members slot).map ParamNode.optional := by
  have hslot : slot.optional.ofUnion types members = (slot.ofUnion types members).optional := rfl
  simp only [classifyTypeUnion, hslot]
  split
  · rfl
  · rfl
  · simp only [Option.map_some, ParamNode.optional, ParamNode.optionalAll_eq_map, List.map_map]
    rfl

/-- A node below which nothing is unfolded is optional in an optional slot. -/
theorem flatNode_optional (d : TypeDescriptor) (slot : Slot) :
    flatNode types d slot.optional = (flatNode types d slot).map ParamNode.optional := by
  apply flatNode_related (Q := fun node node' => node' = node.map ParamNode.optional)
  case hchoice => exact fun members => classifyTypeUnion_optional members slot
  all_goals intros; rfl

/-- A list of which each member is the optional node of another list holds the optional nodes. -/
theorem eq_optionalAll_of_forall₂ {nodes nodes' : List ParamNode}
    (h : List.Forall₂ (fun node node' => node' = node.optional) nodes nodes') :
    nodes' = ParamNode.optionalAll nodes := by
  induction h with
  | nil => rfl
  | cons hhead _ ih => rw [ParamNode.optionalAll, hhead, ih]

/-- In optional slots the rules make the nodes optional. -/
theorem follows_optional (types : TypeGraph) :
    Follows types (fun slot slot' => slot' = slot.optional)
      fun node node' => node' = node.optional where
  field hslot position field := by
    subst hslot
    simp [Slot.ofField, Slot.optional]
  member hslot label position := by
    subst hslot
    rfl
  enter hslot members := by
    subst hslot
    rfl
  flat hslot d := by
    subst hslot
    rw [flatNode_optional]
    cases flatNode types d _ with
    | none => exact .none
    | some node => exact .some rfl
  record hslot hfields d := by
    subst hslot
    rw [eq_optionalAll_of_forall₂ hfields]
    rfl
  union hslot hmembers := by
    subst hslot
    rw [eq_optionalAll_of_forall₂ hmembers]
    rfl
  asMember hslot hnode label := by
    subst hslot hnode
    exact (ParamNode.optional_asMember _ _ _).symm
  isUnion hnode := by rw [hnode, ParamNode.isUnion_optional]

/-- In a slot that may be left out, a type gives the optional tree, and the same is left. -/
theorem Classifies.optional {type : TypeId} {slot : Slot} {active : List TypeId}
    {budget left : Budget} {node : Option ParamNode}
    (h : Classifies types type slot active budget node left) :
    Classifies types type slot.optional active budget (node.map ParamNode.optional) left := by
  obtain ⟨node', hnode', hrelated⟩ := h.follow (follows_optional types) rfl
  cases hrelated with
  | some hoptional => rwa [Option.map_some, ← hoptional]
  | none => exact hnode'

/-- A tree that is derived in a slot that may be left out is optional throughout. -/
theorem Classifies.optional_eq_self {type : TypeId} {slot : Slot} {active : List TypeId}
    {budget left : Budget} {tree : ParamNode}
    (h : Classifies types type slot active budget (some tree) left)
    (hslot : slot.required = false) : tree.optional = tree := by
  have hoptional := h.optional
  rw [Slot.optional_eq_self hslot] at hoptional
  simpa using (hoptional.unique h).1

end FlatOptional

/-! ## Marks are passed on -/

namespace ParamNode

/-- Every node of the tree may be left out. -/
def IsOptional (tree : ParamNode) : Prop := ∀ node ∈ tree.walk, node.info.required = false

/-- Below a node that may be left out, all nodes may be left out. -/
def InheritsOptional (tree : ParamNode) : Prop :=
  ∀ node ∈ tree.walk, node.info.required = false → node.IsOptional

/-- A tree that making it optional does not change is optional. -/
theorem isOptional_of_optional_eq_self {tree : ParamNode} (h : tree.optional = tree) :
    tree.IsOptional := by
  intro node hnode
  rw [← h] at hnode
  exact required_eq_false_of_mem_walk_optional hnode

theorem isOptional_iff {tree : ParamNode} :
    tree.IsOptional ↔ tree.info.required = false ∧ ∀ part ∈ tree.parts, part.IsOptional :=
  forall_mem_walk_iff

/-- A node without parts is optional if it may be left out. -/
theorem isOptional_of_parts_eq_nil {tree : ParamNode} (hparts : tree.parts = [])
    (hroot : tree.info.required = false) : tree.IsOptional := by
  rw [isOptional_iff, hparts]
  exact ⟨hroot, List.forall_mem_nil _⟩

@[simp]
theorem required_asMember (label : String) (condition : Condition) (node : ParamNode) :
    (node.asMember label condition).info.required = node.info.required := by
  cases node <;> rfl

@[simp]
theorem isOptional_asMember {label : String} {condition : Condition} {node : ParamNode} :
    (node.asMember label condition).IsOptional ↔ node.IsOptional := by
  rw [isOptional_iff, isOptional_iff, parts_asMember, required_asMember]

end ParamNode

section Inherits

variable {types : TypeGraph}

/-- A choice of types that may be left out is optional with its options, which are marked alike. -/
theorem isOptional_of_classifyTypeUnion {members : List TypeId} {slot : Slot} {tree : ParamNode}
    (h : classifyTypeUnion types members slot = some tree) (hroot : tree.info.required = false) :
    tree.IsOptional := by
  rw [ParamNode.isOptional_iff]
  refine ⟨hroot, ?_⟩
  simp only [classifyTypeUnion] at h
  split at h
  · cases h
  · cases h
    exact List.forall_mem_nil _
  · cases h
    intro part hpart
    obtain ⟨⟨option, position⟩, -, rfl⟩ := List.mem_map.1 hpart
    exact ParamNode.isOptional_of_parts_eq_nil rfl hroot

/-- A node below which nothing is unfolded passes a mark on: it has no parts unless it is a choice of
types. -/
theorem isOptional_of_flatNode {d : TypeDescriptor} {slot : Slot} {tree : ParamNode}
    (h : flatNode types d slot = some tree) (hroot : tree.info.required = false) :
    tree.IsOptional := by
  refine @flatNode_related types
    (fun node _ => ∀ tree ∈ node, tree.info.required = false → tree.IsOptional) slot slot
    ?absent ?map ?array ?leaf ?typeLeaf ?choice d tree h hroot
  case absent => rintro _ ⟨⟩
  case map | array | leaf =>
    rintro _ _ ⟨⟩ hroot
    exact ParamNode.isOptional_of_parts_eq_nil rfl hroot
  case typeLeaf =>
    rintro _ _ _ ⟨⟩ hroot
    exact ParamNode.isOptional_of_parts_eq_nil rfl hroot
  case choice => exact fun members tree htree => isOptional_of_classifyTypeUnion htree

/-- A tree whose root a rule puts there is optional throughout if the root may be left out. -/
theorem Introduced.isOptional {tree : ParamNode} (h : Introduced types tree)
    (hroot : tree.info.required = false) : tree.IsOptional := by
  cases h with
  | flat htree => exact isOptional_of_flatNode htree hroot
  | closedRecord slot recordName => exact ParamNode.isOptional_of_parts_eq_nil rfl hroot
  | openRecord hkind hfunded hfields =>
    -- a record is marked as its slot, and in a slot that may be left out the tree is optional
    have hself := (Classifies.openRecord hkind hfunded hfields).optional_eq_self hroot
    exact ParamNode.isOptional_of_optional_eq_self hself
  | openUnion henter hchoice hmembers hnonempty hsole =>
    -- the absent value among the members marks the union, which is the same in the marked slot
    rw [← Slot.ofUnion_ofUnion] at hmembers
    have hself :=
      (Classifies.openUnion henter hchoice hmembers hnonempty hsole).optional_eq_self hroot
    rw [Slot.ofUnion_ofUnion] at hself
    exact ParamNode.isOptional_of_optional_eq_self hself

/-- Derived trees pass a mark at their roots on, labels and conditions do not touch marks, and the
options of a choice of types have nothing below them. -/
theorem holdsOfDerived_isOptional (types : TypeGraph) :
    HoldsOfDerived types fun node => node.info.required = false → node.IsOptional where
  root hroot := hroot.isOptional
  member label condition hnode := by simpa using hnode
  option _ _ _ hroot := ParamNode.isOptional_of_parts_eq_nil rfl hroot

/-- In a derived tree, what lies below a node that may be left out may be left out. -/
theorem Classifies.inheritsOptional {type : TypeId} {slot : Slot} {active : List TypeId}
    {budget left : Budget} {node : Option ParamNode}
    (h : Classifies types type slot active budget node left) :
    ∀ tree ∈ node, ParamNode.InheritsOptional tree :=
  h.forall_mem_walk (holdsOfDerived_isOptional types)

end Inherits

/-! ## Two calls for one type -/

/-- Two calls for one type with the same budget, under any names, positions and descriptions and
required or not, give no node both times or trees of one shape, and leave the same of the budget.
With all else the same, the call for a value that may be left out gives the tree with every node
made optional. And in the tree, what lies below a node that may be left out may be left out. -/
theorem exists_classify_shape {types : TypeGraph} (hnamed : FieldsNamed types) (type : TypeId)
    (budget : Budget) {name name' : String} (hname : name ≠ "") (hname' : name' ≠ "")
    (position position' : Int) (required required' : Bool)
    (description description' : Option String) :
    ∃ node node' left,
      classify types type position budget name required description = .ok (node, left) ∧
      classify types type position' budget name' required' description' = .ok (node', left) ∧
      node.map ParamNode.shape = node'.map ParamNode.shape ∧
      classify types type position budget name false description =
        .ok (node.map ParamNode.optional, left) ∧
      ∀ tree ∈ node, ParamNode.InheritsOptional tree := by
  obtain ⟨node, left, hrun⟩ :=
    exists_classify hnamed type position budget hname required description
  have hderivation := (classifies_of_classify hrun).2
  obtain ⟨node', hother, hshape⟩ :=
    hderivation.exists_shape_eq (.ofParameter position' name' required' description')
  refine ⟨node, node', left, hrun, ?_, hshape, ?_, hderivation.inheritsOptional⟩
  · exact classify_eq_ok_iff.2 ⟨hname', hother⟩
  · -- the slot of the optional parameter is the optional slot of the parameter
    exact classify_eq_ok_iff.2 ⟨hname, hderivation.optional⟩

theorem exists_classify_shape_selfReferring :
    FieldsNamed selfReferringTypes ∧ "root" ≠ "" ∧ "settings" ≠ "" ∧
      ∃ node node' left,
        classify selfReferringTypes 0 0 ⟨3⟩ "root" true none = .ok (node, left) ∧
        classify selfReferringTypes 0 4 ⟨3⟩ "settings" false (some "tree") = .ok (node', left) ∧
        node.map ParamNode.shape = node'.map ParamNode.shape ∧
        classify selfReferringTypes 0 0 ⟨3⟩ "root" false none =
          .ok (node.map ParamNode.optional, left) ∧
        ∀ tree ∈ node, ParamNode.InheritsOptional tree :=
  have hnamed : FieldsNamed selfReferringTypes := by decide
  ⟨hnamed, by decide, by decide,
    exists_classify_shape hnamed 0 ⟨3⟩ (by decide) (by decide) 0 4 true false none (some "tree")⟩

end SignatureForms
