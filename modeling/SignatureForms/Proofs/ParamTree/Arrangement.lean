import Mathlib.Data.List.Forall2
import Mathlib.Data.List.Nodup
import SignatureForms.Proofs.ParamTree.Leaves
import SignatureForms.Proofs.ParamTree.Reachability
import SignatureForms.Proofs.ParamTree.Shape
import SignatureForms.Proofs.Wire.Fields

/-!
# The arrangement of parameter trees

The renderers take the numbers, the names and the conditions in a parameter tree as they find them.
This module states what classification promises about them, for every node of a tree: the fields of
a record are numbered in the order of their declarations and named below the path of the record,
the members of a union are numbered, named, labelled and shown by labels of which none is used
twice, and no other node has a label or a condition. Every way to build a node restores all of this,
also where a union is replaced by the one member that is left of it.

The module introduces:

* `IsPlain index node` — the node has a number, and neither a condition nor a label;
* `IsField path field position node` — the node is the field of a record, at a position;
* `IsArm union tag position node` — the node is the member of a union, at a position;
* `Arranged types type node` — the tree stems from the type, and its parts are arranged;
* `NumberedAsWired params` — a wire declares the parameters under the numbers that they have.

## Main results

* `nodup_label_unionCandidates`, `nodup_label_typeOptions`: no label is used twice;
* `Classifies.arranged`: every tree that is derived is arranged;
* `exists_classify_arranged`: so is the tree of a parameter, and the parameters of an operation have
  the numbers under which they are declared.
-/

namespace SignatureForms

/-! ## Labels are distinct -/

section Labels

variable {types : TypeGraph}

/-- No two candidates have one label. -/
theorem nodup_label_unionCandidates {members : List TypeId} {done : List Candidate}
    (hdone : (done.map Candidate.label).Nodup) :
    ((unionCandidates types done members).map Candidate.label).Nodup := by
  induction members generalizing done with
  | nil => exact hdone
  | cons member rest ih =>
    rw [unionCandidates]
    split
    · exact ih hdone
    · next hkept =>
      apply ih
      rw [List.map_append, List.map_singleton, ← List.concat_eq_append]
      refine .concat (fun hlabel => hkept ?_) hdone
      rw [List.contains_iff_mem.2 hlabel, Bool.or_true]

/-- No two options have one label. -/
theorem nodup_label_typeOptions {members : List TypeId} {done : List (String × Kind)}
    (hdone : (done.map Prod.fst).Nodup) :
    ((typeOptions types done members).map Prod.fst).Nodup := by
  induction members generalizing done with
  | nil => exact hdone
  | cons member rest ih =>
    rw [typeOptions]
    split
    · exact ih hdone
    · split
      · exact ih hdone
      · next hnew =>
        apply ih
        rw [List.map_append, List.map_singleton, ← List.concat_eq_append]
        exact .concat (fun hlabel => hnew (List.contains_iff_mem.2 hlabel)) hdone

end Labels

/-! ## Fields and members -/

namespace ParamNode

/-- The path below which the fields of a record are named. -/
def fieldsPath? : ParamNode → Option String
  | record _ _ parentPath _ => some parentPath
  | _ => none

/-- The name of a record. -/
def recordName? : ParamNode → Option String
  | record _ recordName _ _ => some recordName
  | _ => none

end ParamNode

/-- The node has a number and is no member of a union: it is shown whenever its parent is. -/
structure IsPlain (index : String) (node : ParamNode) : Prop where
  /-- The node has the number. -/
  index : node.info.index = index
  /-- The node has no condition of its own. -/
  condition : node.condition = .empty
  /-- The node has no label. -/
  label : node.info.label = none

/-- The node is the field of a record whose fields are named below a path, at a position among
them. -/
structure IsField (path : String) (field : Field) (position : Nat) (node : ParamNode) : Prop
    extends IsPlain (toString position) node where
  /-- The node is named below the path. -/
  value : node.value = qualify path field.name
  /-- The fields of a record go on from its own name. -/
  below : ∀ path ∈ node.fieldsPath?, path = node.value

/-- The node is the member of a union, at a position among its members: it is named after the union
and its own label, and shown where the discriminator of the union has that label. -/
structure IsArm (union tag : String) (position : Nat) (node : ParamNode) : Prop where
  /-- The node has the number of its position. -/
  index : node.info.index = toString position
  /-- The label follows the name of the union. -/
  value : node.value = union ++ Naming.capitalize tag
  /-- The node has just the condition that its label is selected. -/
  condition : node.condition = .when (discriminatorName union) tag
  /-- The node has the label. -/
  label : node.info.label = some tag
  /-- A record is called by its label. -/
  name : ∀ name ∈ node.recordName?, name = tag
  /-- The fields of a record go on from the name of the union. -/
  below : ∀ path ∈ node.fieldsPath?, path = union

/-- The nodes are fields of a record, one for each of the declared fields `chosen`, in order. -/
def FieldsInOrder (path : String) (chosen : List Field) (nodes : List ParamNode) : Prop :=
  List.Forall₂ (fun entry node => IsField path entry.1 entry.2 node) chosen.zipIdx nodes

/-- The nodes are the members of a union, one for each label, in order. -/
structure ArmsInOrder (union : String) (labels : List String) (nodes : List ParamNode) :
    Prop where
  /-- There are several members, or there is one that is a union itself. -/
  several : 1 < nodes.length ∨ ∃ only, nodes = [only] ∧ only.isUnion = true
  /-- No two members have one label. -/
  distinct : labels.Nodup
  /-- No label is empty. -/
  nonempty : ∀ label ∈ labels, label ≠ ""
  /-- Each node is the member of its label. -/
  arms : List.Forall₂ (fun entry node => IsArm union entry.1 entry.2 node) labels.zipIdx nodes

/-- The tree stems from the type, and the parts of all its nodes are arranged: those of a record are
the fields for some of the declared fields, in order, and those of a union the members for some of
the declared ones. A union may be replaced by what stems from one of its members, and a choice of
types has leaves for its options. -/
inductive Arranged (types : TypeGraph) : TypeId → ParamNode → Prop
  | simple (type : TypeId) (info : NodeInfo) (kind : Kind) : Arranged types type (.simple info kind)
  | map (type : TypeId) (info : NodeInfo) (shape : MapShape) : Arranged types type (.map info shape)
  | array (type : TypeId) (info : NodeInfo) (shape : ArrayShape) :
      Arranged types type (.array info shape)
  | record {type : TypeId} {info : NodeInfo} {recordName path : String} {chosen : List Field}
      {fields : List ParamNode} (hkind : types.kind type = .record)
      (hchosen : chosen.Sublist (types.descriptor type).fields)
      (hfields : FieldsInOrder path chosen fields)
      (hbelow : ∀ entry ∈ chosen.zip fields, Arranged types entry.1.type entry.2) :
      Arranged types type (.record info recordName path fields)
  | union {type : TypeId} {info : NodeInfo} {labels : List String} {origins : List TypeId}
      {members : List ParamNode} (hkind : types.kind type = .union)
      (hlength : origins.length = members.length)
      (horigins : origins ⊆ (types.descriptor type).members)
      (hmembers : ArmsInOrder info.value labels members)
      (hbelow : ∀ entry ∈ origins.zip members, Arranged types entry.1 entry.2) :
      Arranged types type (.union info members)
  | replaced {type member : TypeId} {node : ParamNode} (hkind : types.kind type = .union)
      (hmember : member ∈ (types.descriptor type).members) (hnode : Arranged types member node) :
      Arranged types type node
  | choice (type : TypeId) {info : NodeInfo} {labels : List String} {members : List ParamNode}
      (hmembers : ArmsInOrder info.value labels members)
      (hleaves : ∀ member ∈ members, ∃ info kind, member = .simple info kind) :
      Arranged types type (.union info members)

section Node

variable {types : TypeGraph} {type : TypeId} {node : ParamNode}

/-- All that nodes share, other than the value, may change without disarranging a tree. -/
theorem Arranged.withInfo (h : Arranged types type node) {info : NodeInfo}
    (hvalue : info.value = node.value) : Arranged types type (node.withInfo info) := by
  induction h with
  | simple => exact .simple _ _ _
  | map => exact .map _ _ _
  | array => exact .array _ _ _
  | record hkind hchosen hfields hbelow => exact .record hkind hchosen hfields hbelow
  | union hkind hlength horigins hmembers hbelow =>
    rw [ParamNode.value, ParamNode.info] at hvalue
    rw [← hvalue] at hmembers
    exact .union hkind hlength horigins hmembers hbelow
  | replaced hkind hmember _ ih => exact .replaced hkind hmember (ih hvalue)
  | choice type hmembers hleaves =>
    rw [ParamNode.value, ParamNode.info] at hvalue
    rw [← hvalue] at hmembers
    exact .choice type hmembers hleaves

/-- A tree stays arranged as the member of a union. -/
theorem Arranged.asMember (h : Arranged types type node) (label : String) (condition : Condition) :
    Arranged types type (node.asMember label condition) := by
  induction h with
  | simple => exact .simple _ _ _
  | map => exact .map _ _ _
  | array => exact .array _ _ _
  | record hkind hchosen hfields hbelow => exact .record hkind hchosen hfields hbelow
  | union hkind hlength horigins hmembers hbelow =>
    exact .union hkind hlength horigins hmembers hbelow
  | replaced hkind hmember _ ih => exact .replaced hkind hmember ih
  | choice type hmembers hleaves => exact .choice type hmembers hleaves

end Node

/-! ## Nodes in their slots -/

/-- The node stands in the slot, and names its fields, if it is a record, below the path of the
slot. -/
structure Slot.Hosts (slot : Slot) (node : ParamNode) : Prop where
  /-- The node has the position and the value of the slot, and neither a condition nor a label. -/
  places : slot.Places node.info
  /-- The fields of a record are named below the path of the slot. -/
  path : ∀ path ∈ node.fieldsPath?, path = slot.fieldsPath

namespace Slot.Hosts

variable {slot : Slot} {node : ParamNode}

/-- A node that shares what the slot gives, and is no record, stands in the slot. -/
theorem of_info (hinfo : slot.Places node.info) (hpath : node.fieldsPath? = none) :
    slot.Hosts node := by
  refine ⟨hinfo, ?_⟩
  rw [hpath]
  nofun

/-- What stands in a place is plain. -/
theorem isPlain (h : slot.Hosts node) : IsPlain (toString slot.position) node where
  index := h.places.index
  condition := h.places.condition
  label := h.places.label

/-- What stands in the place of a field is the field. -/
theorem isField {path : String} {required : Bool} {position : Nat} {field : Field}
    (h : (ofField path required position field).Hosts node) : IsField path field position node where
  toIsPlain := h.isPlain
  value := h.places.value
  below path hpath := (h.path path hpath).trans h.places.value.symm

/-- What stands in the place of a member is the member, once it has its label and its condition. -/
theorem isArm {label : String} {position : Nat} (h : (slot.ofMember label position).Hosts node) :
    IsArm slot.value label position
      (node.asMember label (.when (discriminatorName slot.value) label)) := by
  obtain ⟨⟨hindex, hvalue, -, -⟩, hpath⟩ := h
  cases node with
  | record info recordName parentPath fields =>
    refine ⟨hindex, hvalue, rfl, rfl, ?_, hpath⟩
    rintro _ ⟨⟩
    rfl
  | _ => exact ⟨hindex, hvalue, rfl, rfl, nofun, nofun⟩

end Slot.Hosts

/-! ## Derived trees are arranged -/

section Derived

variable {types : TypeGraph}

/-- The options of a choice of types are its members. -/
theorem armsInOrder_typeOptions {slot : Slot} {options : List (String × Kind)}
    (hseveral : 1 < options.length) (hdistinct : (options.map Prod.fst).Nodup)
    (hlabels : ∀ option ∈ options, option.1 ≠ "") :
    ArmsInOrder slot.value (options.map Prod.fst)
      (options.zipIdx.map fun (option, position) => typeMember slot position option) where
  several := by
    rw [List.length_map, List.length_zipIdx]
    exact .inl hseveral
  distinct := hdistinct
  nonempty := List.forall_mem_map.2 hlabels
  arms := by
    rw [List.zipIdx_map, List.forall₂_map_left_iff, List.forall₂_map_right_iff, List.forall₂_same]
    intro entry _
    exact ⟨rfl, rfl, rfl, rfl, nofun, nofun⟩

/-- What comes of the candidates of a union are its members. -/
theorem armsInOrder_of_candidates {slot : Slot} {declared : List TypeId}
    {chosen : List Candidate} {nodes : List ParamNode}
    (hchosen : chosen.Sublist (unionCandidates types [] declared))
    (hseveral : 1 < nodes.length ∨ ∃ only, nodes = [only] ∧ only.isUnion = true)
    (horder : List.Forall₂ (fun entry node => IsArm slot.value entry.1.label entry.2 node)
      chosen.zipIdx nodes) :
    ArmsInOrder slot.value (chosen.map Candidate.label) nodes where
  several := hseveral
  distinct :=
    have hnone : (([] : List Candidate).map Candidate.label).Nodup := List.nodup_nil
    (nodup_label_unionCandidates hnone).sublist (hchosen.map _)
  nonempty := List.forall_mem_map.2 fun _ hcandidate =>
    label_ne_empty_of_mem_unionCandidates (hchosen.subset hcandidate)
  arms := by
    rw [List.zipIdx_map, List.forall₂_map_left_iff]
    exact horder

/-- A choice of types stands in its slot, arranged. -/
theorem arranged_of_classifyTypeUnion (type : TypeId) {members : List TypeId} {slot : Slot}
    {tree : ParamNode} (h : classifyTypeUnion types members slot = some tree) :
    slot.Hosts tree ∧ Arranged types type tree := by
  simp only [classifyTypeUnion] at h
  split at h
  · cases h
  · cases h
    exact ⟨.of_info ⟨rfl, rfl, rfl, rfl⟩ rfl, .simple _ _ _⟩
  · next hnone hsole =>
    cases h
    refine ⟨.of_info ⟨rfl, rfl, rfl, rfl⟩ rfl, .choice type (armsInOrder_typeOptions ?_ ?_ ?_) ?_⟩
    · rcases hoptions : typeOptions types [] members with _ | ⟨⟨label, kind⟩, _ | ⟨_, _⟩⟩
      · exact absurd hoptions hnone
      · exact absurd hoptions (hsole label kind)
      · simp
    · exact nodup_label_typeOptions List.nodup_nil
    · exact fun _ => label_ne_empty_of_mem_typeOptions
    · intro member hmember
      obtain ⟨⟨option, position⟩, -, rfl⟩ := List.mem_map.1 hmember
      exact ⟨_, _, rfl⟩

/-- A node below which nothing is unfolded stands in its slot, arranged. -/
theorem arranged_of_flatNode (type : TypeId) {d : TypeDescriptor} {slot : Slot} {tree : ParamNode}
    (h : flatNode types d slot = some tree) : slot.Hosts tree ∧ Arranged types type tree := by
  refine @flatNode_related types
    (fun node _ => ∀ tree ∈ node, slot.Hosts tree ∧ Arranged types type tree) slot slot
    ?absent ?map ?array ?leaf ?typeLeaf ?choice d tree h
  case absent =>
    intro tree htree
    cases htree
  case map =>
    rintro _ _ ⟨⟩
    exact ⟨.of_info ⟨rfl, rfl, rfl, rfl⟩ rfl, .map _ _ _⟩
  case array =>
    rintro _ _ ⟨⟩
    exact ⟨.of_info ⟨rfl, rfl, rfl, rfl⟩ rfl, .array _ _ _⟩
  case leaf =>
    rintro _ _ ⟨⟩
    exact ⟨.of_info ⟨rfl, rfl, rfl, rfl⟩ rfl, .simple _ _ _⟩
  case typeLeaf =>
    rintro _ _ _ ⟨⟩
    exact ⟨.of_info ⟨rfl, rfl, rfl, rfl⟩ rfl, .simple _ _ _⟩
  case choice => exact fun members tree htree => arranged_of_classifyTypeUnion type htree

/-- A record stands in its slot. -/
theorem Slot.hosts_record (slot : Slot) (recordName : String) (fields : List ParamNode) :
    slot.Hosts (.record slot.info recordName slot.fieldsPath fields) := by
  refine ⟨⟨rfl, rfl, rfl, rfl⟩, ?_⟩
  rintro _ ⟨⟩
  rfl

/-- What stands in the place of a union that was entered stands in its slot: only the mark that the
value may be left out is not that of the slot. -/
theorem Slot.Hosts.of_ofUnion {slot : Slot} {members : List TypeId} {node : ParamNode}
    (h : (slot.ofUnion types members).Hosts node) : slot.Hosts node :=
  ⟨⟨h.places.index, h.places.value, h.places.condition, h.places.label⟩, h.path⟩

mutual

/-- A tree that is derived stands in its slot and is arranged. -/
theorem Classifies.arranged {type : TypeId} {slot : Slot} {active : List TypeId}
    {budget left : Budget} {node : Option ParamNode} :
    Classifies types type slot active budget node left →
      ∀ tree ∈ node, slot.Hosts tree ∧ Arranged types type tree
  | .flat _ _ => fun _ htree => arranged_of_flatNode type htree
  | .closedRecord hkind _ => by
    rintro _ ⟨⟩
    exact ⟨slot.hosts_record _ _,
      .record hkind (List.nil_sublist _) .nil (by simp)⟩
  | .openRecord hkind _ hfields => by
    rintro _ ⟨⟩
    obtain ⟨chosen, hchosen, horder, hbelow⟩ := hfields.arranged
    exact ⟨slot.hosts_record _ _,
      .record hkind hchosen horder fun _ hentry => List.forall₂_zip hbelow hentry⟩
  | .closedUnion _ _ => nofun
  | .emptyUnion _ _ => nofun
  -- a union that is replaced hands its slot on, and the mark is all that it changes
  | .soleCandidate henter hcandidates _ hnode => by
    intro tree htree
    obtain ⟨hhosts, harranged⟩ := hnode.arranged tree htree
    have hmember := type_mem_of_mem_unionCandidates (hcandidates ▸ List.mem_singleton_self _)
    exact ⟨hhosts.of_ofUnion, .replaced henter.kind (hmember.resolve_left (by simp)) harranged⟩
  | .absentChoice _ _ _ => nofun
  | .survivor henter _ hmembers _ hnode => by
    intro tree htree
    obtain ⟨hhosts, harranged⟩ := hnode.arranged tree htree
    obtain ⟨chosen, hchosen, htypes, -, -⟩ := hmembers.arranged
    obtain ⟨candidate, rfl⟩ : ∃ candidate, chosen = [candidate] := by
      rw [← List.length_eq_one_iff, ← List.length_map Candidate.type, ← htypes]
      rfl
    obtain rfl : _ = candidate.type := by simpa using htypes
    have hmember := type_mem_of_mem_unionCandidates (hchosen.subset List.mem_cons_self)
    exact ⟨hhosts.of_ofUnion, .replaced henter.kind (hmember.resolve_left (by simp)) harranged⟩
  | @Classifies.openUnion _ _ _ _ _ _ members henter _ hmembers hnonempty hsole => by
    rintro _ ⟨⟩
    obtain ⟨chosen, hchosen, htypes, horder, hbelow⟩ := hmembers.arranged
    have hseveral : 1 < (members.map Prod.fst).length ∨
        ∃ only, members.map Prod.fst = [only] ∧ only.isUnion = true := by
      match members, hnonempty, hsole with
      | [only], _, hsole => exact .inr ⟨only.1, rfl, hsole only rfl⟩
      | _ :: _ :: _, _, _ => exact .inl (by simp)
    have harms := armsInOrder_of_candidates hchosen hseveral horder
    refine ⟨.of_info ⟨rfl, rfl, rfl, rfl⟩ rfl,
      @Arranged.union _ _ _ _ (chosen.map Candidate.type) _ henter.kind ?_ ?_ harms ?_⟩
    · rw [List.length_map, hbelow.length_eq]
    · intro origin horigin
      obtain ⟨candidate, hcandidate, rfl⟩ := List.mem_map.1 horigin
      have hmember := type_mem_of_mem_unionCandidates (hchosen.subset hcandidate)
      exact hmember.resolve_left (by simp)
    · rintro ⟨origin, node⟩ hentry
      have horigins := List.forall₂_map_left_iff.2 hbelow
      exact List.forall₂_zip horigins hentry

/-- The fields that are derived are those of some of the declared fields, in order. -/
theorem ClassifiesFields.arranged {path : String} {required : Bool} {active : List TypeId}
    {fields : List Field} {position : Nat} {budget left : Budget} {nodes : List ParamNode} :
    ClassifiesFields types path required active fields position budget nodes left →
      ∃ chosen, chosen.Sublist fields ∧
        List.Forall₂ (fun entry node => IsField path entry.1 entry.2 node)
          (chosen.zipIdx position) nodes ∧
        List.Forall₂ (fun field node => Arranged types field.type node) chosen nodes
  | .done => ⟨[], .slnil, .nil, .nil⟩
  | .unsupported _ _ hrest => by
    obtain ⟨chosen, hchosen, horder, hbelow⟩ := hrest.arranged
    exact ⟨chosen, hchosen.cons _, horder, hbelow⟩
  | .cut _ _ _ => ⟨[], List.nil_sublist _, .nil, .nil⟩
  | .absent _ _ _ _ hrest => by
    obtain ⟨chosen, hchosen, horder, hbelow⟩ := hrest.arranged
    exact ⟨chosen, hchosen.cons _, horder, hbelow⟩
  | @ClassifiesFields.present _ _ _ _ field _ _ _ _ _ _ _ _ _ _ hnode hrest => by
    obtain ⟨hhosts, harranged⟩ := hnode.arranged _ rfl
    obtain ⟨chosen, hchosen, horder, hbelow⟩ := hrest.arranged
    refine ⟨field :: chosen, hchosen.cons_cons _, ?_, .cons harranged hbelow⟩
    rw [List.zipIdx_cons]
    exact .cons hhosts.isField horder

/-- The members that are derived are those of some of the candidates, in order. -/
theorem ClassifiesMembers.arranged {slot : Slot} {inside : List TypeId}
    {candidates : List Candidate} {position : Nat} {budget left : Budget}
    {members : List (ParamNode × TypeId)} :
    ClassifiesMembers types slot inside candidates position budget members left →
      ∃ chosen, chosen.Sublist candidates ∧
        members.map Prod.snd = chosen.map Candidate.type ∧
        List.Forall₂ (fun entry node => IsArm slot.value entry.1.label entry.2 node)
          (chosen.zipIdx position) (members.map Prod.fst) ∧
        List.Forall₂ (fun candidate node => Arranged types candidate.type node) chosen
          (members.map Prod.fst)
  | .done => ⟨[], .slnil, rfl, .nil, .nil⟩
  | .absent _ hrest => by
    obtain ⟨chosen, hchosen, htypes, horder, hbelow⟩ := hrest.arranged
    exact ⟨chosen, hchosen.cons _, htypes, horder, hbelow⟩
  | @ClassifiesMembers.present _ _ _ candidate _ _ _ _ _ _ _ hnode hrest => by
    obtain ⟨hhosts, harranged⟩ := hnode.arranged _ rfl
    obtain ⟨chosen, hchosen, htypes, horder, hbelow⟩ := hrest.arranged
    refine ⟨candidate :: chosen, hchosen.cons_cons _, ?_, ?_, .cons (harranged.asMember _ _) hbelow⟩
    · rw [List.map_cons, List.map_cons, htypes]
    · rw [List.zipIdx_cons]
      exact .cons hhosts.isArm horder

end

end Derived

/-! ## Operations -/

section Operations

variable {types : TypeGraph} {fieldBudget : Int}

/-- The tree of a parameter is a plain one with the number of its position, and is arranged. -/
theorem arranged_of_classifyParameter {p : Parameter} {position : Nat} {node : ParamNode}
    (h : classifyParameter types p position fieldBudget = .ok (some node)) :
    IsPlain (toString position) node ∧ Arranged types p.type node := by
  obtain ⟨-, derived, left, hderivation, default, rfl⟩ := exists_classifies_of_classifyParameter h
  obtain ⟨hhosts, harranged⟩ := hderivation.arranged derived rfl
  obtain ⟨hindex, hcondition, hlabel⟩ := hhosts.isPlain
  refine ⟨?_, harranged.withInfo rfl⟩
  -- a default value is all that the parameter adds to what is derived
  cases derived <;> exact ⟨hindex, hcondition, hlabel⟩

/-- The trees of parameters are those of some of the parameters, in order, numbered from the given
position on. -/
theorem arranged_of_classifyParameters {parameters : List Parameter} {position : Nat}
    {params : List ParamNode}
    (h : classifyParameters types fieldBudget parameters position = .ok (.ok params)) :
    ∃ chosen : List Parameter, chosen.Sublist parameters ∧
      List.Forall₂ (fun entry node => IsPlain (toString entry.2) node ∧
        Arranged types entry.1.type node) (chosen.zipIdx position) params := by
  induction parameters generalizing position params with
  | nil =>
    cases h
    exact ⟨[], .slnil, .nil⟩
  | cons p rest ih =>
    rw [classifyParameters] at h
    split at h
    · cases h
    · next node hnode =>
      split at h
      · cases h
      · next outcome hrest =>
        obtain ⟨more, hmore, rfl⟩ := map_eq_ok_iff.1 (Except.ok.inj h)
        rw [hmore] at hrest
        obtain ⟨chosen, hchosen, harranged⟩ := ih hrest
        refine ⟨p :: chosen, hchosen.cons_cons _, ?_⟩
        rw [List.zipIdx_cons]
        exact .cons (arranged_of_classifyParameter hnode) harranged
    · split at h
      · cases h
      · obtain ⟨chosen, hchosen, harranged⟩ := ih h
        exact ⟨chosen, hchosen.cons _, harranged⟩

end Operations

/-! ## Numbers on a wire -/

/-- What a parameter declares begins with its value and its kind. -/
theorem exists_declarations_eq (scope : String) (expandRecords : Bool) (index : Nat)
    (node : ParamNode) :
    ∃ rest, node.declarations scope expandRecords index =
      ⟨numberedKey scope "param" index, node.value⟩ ::
        ⟨numberedKey scope "paramType" index, node.kind.name⟩ :: rest :=
  ⟨_, rfl⟩

/-- A wire declares a parameter after those before it, under the number of its position. -/
theorem exists_wire_eq_of_getElem? {params : List ParamNode} {position : Nat} {node : ParamNode}
    (hnode : params[position]? = some node) {scope : String} {expandRecords : Bool}
    {ds : List Declaration} (hwire : wire params scope expandRecords = .ok ds) :
    ∃ before after, wire (params.take position) scope expandRecords = .ok before ∧
      ds = before ++ ⟨numberedKey scope "param" position, node.value⟩ ::
        ⟨numberedKey scope "paramType" position, node.kind.name⟩ :: after := by
  obtain ⟨hlt, rfl⟩ := List.getElem?_eq_some_iff.1 hnode
  have hsplit : params = params.take position ++ params[position] :: params.drop (position + 1) := by
    rw [← List.drop_eq_getElem_cons hlt, List.take_append_drop]
  have hlength : (params.take position).length = position := by
    rw [List.length_take, Nat.min_eq_left (Nat.le_of_lt hlt)]
  obtain ⟨hwired, rfl⟩ := wire_eq_ok_iff.1 hwire
  have hbefore : ∀ earlier ∈ params.take position, earlier.IsWired expandRecords :=
    fun earlier hearlier => hwired earlier (List.mem_of_mem_take hearlier)
  obtain ⟨rest, hrest⟩ := exists_declarations_eq scope expandRecords position params[position]
  generalize params[position] = node, params.take position = earlier,
    params.drop (position + 1) = later at *
  subst hsplit
  rw [List.zipIdx_append, List.flatMap_append, List.zipIdx_cons, List.flatMap_cons, hlength,
    Nat.zero_add]
  dsimp only
  rw [hrest, List.cons_append, List.cons_append]
  exact ⟨_, _, wire_eq_ok_iff.2 ⟨hbefore, rfl⟩, rfl⟩

/-- A wire declares each of the parameters after those before it, under the number that it has. -/
def NumberedAsWired (params : List ParamNode) : Prop :=
  ∀ (position : Nat) (node : ParamNode), params[position]? = some node → ∀ scope expandRecords ds,
    wire params scope expandRecords = .ok ds → ∃ before after,
      wire (params.take position) scope expandRecords = .ok before ∧
        ds = before ++ ⟨scopedKey scope ("param" ++ node.info.index), node.value⟩ ::
          ⟨scopedKey scope ("paramType" ++ node.info.index), node.kind.name⟩ :: after

/-- Nodes that are numbered from zero are numbered as a wire does. -/
theorem numberedAsWired_of_index {params : List ParamNode}
    (hindex : ∀ (position : Nat) (node : ParamNode), params[position]? = some node →
      node.info.index = toString position) : NumberedAsWired params := by
  intro position node hnode scope expandRecords ds hwire
  rw [hindex position node hnode]
  exact exists_wire_eq_of_getElem? hnode hwire

/-! ## Classified parameters -/

/-- A parameter with a name is classified, and its tree, if it has one, is called by the name, is a
plain one with the number of the position, and is arranged. The trees of an operation that is not
skipped are those of some of its parameters, in order; they are plain, numbered from zero, and
arranged, and a wire declares them under their numbers. -/
theorem exists_classify_arranged {types : TypeGraph} (hnamed : FieldsNamed types) :
    (∀ (type : TypeId) (position : Int) (budget : Budget) (name : String) (required : Bool)
      (description : Option String), name ≠ "" →
      ∃ node left,
        classify types type position budget name required description = .ok (node, left) ∧
        ∀ tree ∈ node, tree.value = name ∧ IsPlain (toString position) tree ∧
          Arranged types type tree) ∧
    ∀ (op : Operation) (fieldBudget : Int) (params : List ParamNode),
      classifyOperation types op fieldBudget = .ok (.ok params) →
      (∃ chosen : List Parameter, chosen.Sublist op.params ∧
        List.Forall₂ (fun entry node => IsPlain (toString entry.2) node ∧
          Arranged types entry.1.type node) chosen.zipIdx params) ∧
      NumberedAsWired params := by
  constructor
  · intro type position budget name required description hname
    obtain ⟨node, left, hrun⟩ :=
      exists_classify hnamed type position budget hname required description
    have hderivation := (classifies_of_classify hrun).2
    refine ⟨node, left, hrun, fun tree htree => ?_⟩
    obtain ⟨hhosts, harranged⟩ := hderivation.arranged tree htree
    exact ⟨hhosts.places.value, hhosts.isPlain, harranged⟩
  · intro op fieldBudget params hparams
    obtain ⟨chosen, hchosen, htrees⟩ := arranged_of_classifyParameters hparams
    refine ⟨⟨chosen, hchosen, htrees⟩, numberedAsWired_of_index fun position node hnode => ?_⟩
    obtain ⟨hlt, rfl⟩ := List.getElem?_eq_some_iff.1 hnode
    have hplain := (htrees.get (htrees.length_eq ▸ hlt) hlt).1
    rw [List.get_eq_getElem, List.getElem_zipIdx, Nat.zero_add] at hplain
    exact hplain.index

/-- An operation on a tree, and on a tree or a text. What it could say of the place has no type. -/
def graftTree : Operation where
  name := "graft"
  kind := .remote
  params := [{ name := "place", type := 3, doc := none, defaultable := true, default := none },
    { name := "tree", type := 0, doc := none, defaultable := false, default := none },
    { name := "branch", type := 1, doc := none, defaultable := false, default := none }]
  operationId := none
  path := []
  returns := none
  doc := ""

theorem exists_classify_arranged_graftTree :
    FieldsNamed selfReferringTypes ∧ "branch" ≠ "" ∧
      (∃ node left, classify selfReferringTypes 1 7 ⟨3⟩ "branch" true none = .ok (node, left) ∧
        ∀ tree ∈ node, tree.value = "branch" ∧ IsPlain "7" tree ∧
          Arranged selfReferringTypes 1 tree) ∧
      ∃ params, classifyOperation selfReferringTypes graftTree 3 = .ok (.ok params) ∧
        (∃ chosen : List Parameter, chosen.Sublist graftTree.params ∧
          List.Forall₂ (fun entry node => IsPlain (toString entry.2) node ∧
            Arranged selfReferringTypes entry.1.type node) chosen.zipIdx params) ∧
        NumberedAsWired params := by
  have hnamed : FieldsNamed selfReferringTypes := by decide
  have hname : "branch" ≠ "" := by decide
  obtain ⟨htrees, hoperations⟩ := exists_classify_arranged hnamed
  refine ⟨hnamed, hname, htrees 1 7 ⟨3⟩ "branch" true none hname, ?_⟩
  obtain ⟨params, hrun⟩ :
      ∃ params, classifyOperation selfReferringTypes graftTree 3 = .ok (.ok params) := ⟨_, rfl⟩
  exact ⟨params, hrun, hoperations graftTree 3 params hrun⟩

end SignatureForms
