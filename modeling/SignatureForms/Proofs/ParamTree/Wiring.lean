import SignatureForms.ParamTree.OfOperation
import SignatureForms.Proofs.Naming.ControlNames
import SignatureForms.Proofs.ParamTree.Labels

/-!
# Wiring of classified trees

Classification writes into the members of a union the conditions under which a form shows them, and
a form makes the controls that these conditions ask for. This module states what classification
promises about the conditions, for every node of a tree that it gives.

The module introduces:

* `MemberOf value member` — the member of a union is shown where the discriminator of the union has
  the label of the member;
* `Wired node` — all members of unions in the tree are so, and fields have no conditions;
* `KeysFrom least node` — the names of discriminators in the tree have at least a length, and grow
  on the way down.

## Main results

* `Classifies.wired`: a tree that is derived is wired;
* `Classifies.keysFrom`: the names of its discriminators grow on the way down, where no name
  consists of quote marks only;
* `wired_of_classifyParameter`, `keysFrom_of_classifyParameter`: both for parameters.
-/

namespace SignatureForms

/-! ## Wired trees -/

/-- The member of a union with a value is shown where the discriminator of the union has the label
of the member, and it can be selected. -/
structure MemberOf (value : String) (member : ParamNode) : Prop where
  /-- The member is no union without members. -/
  selectable : member.isEmptyUnion = false
  /-- The member has a label, which its condition asks for. -/
  wired : ∃ label, label ≠ "" ∧ member.info.label = some label ∧
    member.condition = .when (discriminatorName value) label

/-- The members of all unions in the tree are shown by their labels, and fields are shown whenever
their record is. -/
inductive Wired : ParamNode → Prop
  | simple (info : NodeInfo) (kind : Kind) : Wired (.simple info kind)
  | map (info : NodeInfo) (shape : MapShape) : Wired (.map info shape)
  | array (info : NodeInfo) (shape : ArrayShape) : Wired (.array info shape)
  | record {info : NodeInfo} {recordName parentPath : String} {fields : List ParamNode}
      (hconditions : ∀ field ∈ fields, field.condition = .empty)
      (hfields : ∀ field ∈ fields, Wired field) :
      Wired (.record info recordName parentPath fields)
  | union {info : NodeInfo} {members : List ParamNode}
      (hlabels : ∀ member ∈ members, MemberOf info.value member)
      (hmembers : ∀ member ∈ members, Wired member) : Wired (.union info members)

/-- All discriminators in the tree have names of at least a length, and those inside a union have
longer names than its own. -/
inductive KeysFrom : Nat → ParamNode → Prop
  | simple (least : Nat) (info : NodeInfo) (kind : Kind) : KeysFrom least (.simple info kind)
  | map (least : Nat) (info : NodeInfo) (shape : MapShape) : KeysFrom least (.map info shape)
  | array (least : Nat) (info : NodeInfo) (shape : ArrayShape) : KeysFrom least (.array info shape)
  | record {least : Nat} {info : NodeInfo} {recordName parentPath : String}
      {fields : List ParamNode} (hfields : ∀ field ∈ fields, KeysFrom least field) :
      KeysFrom least (.record info recordName parentPath fields)
  | union {least : Nat} {info : NodeInfo} {members : List ParamNode}
      (hkey : least ≤ (discriminatorName info.value).length)
      (hmembers : ∀ member ∈ members,
        KeysFrom ((discriminatorName info.value).length + 1) member) :
      KeysFrom least (.union info members)

/-- All that nodes share, other than the value, may change without unwiring a node. -/
theorem Wired.withInfo {node : ParamNode} (h : Wired node) {info : NodeInfo}
    (hvalue : info.value = node.value) : Wired (node.withInfo info) := by
  cases h with
  | simple => exact .simple _ _
  | map => exact .map _ _
  | array => exact .array _ _
  | record hconditions hfields => exact .record hconditions hfields
  | union hlabels hmembers =>
    refine .union (fun member hmember => ?_) hmembers
    rw [hvalue]
    exact hlabels member hmember

/-- All that nodes share, other than the value, may change without making the names of
discriminators shorter. -/
theorem KeysFrom.withInfo {least : Nat} {node : ParamNode} (h : KeysFrom least node)
    {info : NodeInfo} (hvalue : info.value = node.value) : KeysFrom least (node.withInfo info) := by
  cases h with
  | simple => exact .simple _ _ _
  | map => exact .map _ _ _
  | array => exact .array _ _ _
  | record hfields => exact .record hfields
  | union hkey hmembers =>
    refine .union ?_ ?_
    · rw [hvalue]
      exact hkey
    · rw [hvalue]
      exact hmembers

/-- A node stays wired as a member of a union. -/
theorem Wired.asMember {node : ParamNode} (h : Wired node) (label : String)
    (condition : Condition) : Wired (node.asMember label condition) := by
  cases node with
  | record info recordName parentPath fields =>
    rcases h with _ | _ | _ | ⟨hconditions, hfields⟩
    exact .record hconditions hfields
  | simple => exact h.withInfo rfl
  | map => exact h.withInfo rfl
  | array => exact h.withInfo rfl
  | union => exact h.withInfo rfl

/-- A node keeps the names of the discriminators in it as a member of a union. -/
theorem KeysFrom.asMember {least : Nat} {node : ParamNode} (h : KeysFrom least node)
    (label : String) (condition : Condition) : KeysFrom least (node.asMember label condition) := by
  cases node with
  | record info recordName parentPath fields =>
    rcases h with _ | _ | _ | hfields
    exact .record hfields
  | simple => exact h.withInfo rfl
  | map => exact h.withInfo rfl
  | array => exact h.withInfo rfl
  | union => exact h.withInfo rfl

/-- A node that is made a member of a union under a label is one. -/
theorem memberOf_asMember {node : ParamNode} (hnode : node.isEmptyUnion = false) (value : String)
    {label : String} (hlabel : label ≠ "") :
    MemberOf value (node.asMember label (.when (discriminatorName value) label)) := by
  refine ⟨?_, label, hlabel, ?_, ?_⟩
  · cases node with
    | union info members =>
      cases members with
      | nil => cases hnode
      | cons => rfl
    | _ => rfl
  · cases node <;> rfl
  · cases node <;> rfl

/-! ## Derivations give wired trees -/

/-- The tree at a place that is no member of a union: it is wired, has no condition, and is no union
without members. -/
structure Rooted (node : ParamNode) : Prop where
  /-- The node is shown whenever its parent is. -/
  condition : node.condition = .empty
  /-- The node is no union without members. -/
  selectable : node.isEmptyUnion = false
  /-- The tree is wired. -/
  wired : Wired node

/-- A union with members can be selected. -/
theorem isEmptyUnion_of_ne_nil {info : NodeInfo} {members : List ParamNode} (h : members ≠ []) :
    (ParamNode.union info members).isEmptyUnion = false := by
  cases members with
  | nil => exact absurd rfl h
  | cons => rfl

/-- A node below which nothing is unfolded is wired. -/
theorem rooted_of_flatForm {slot : Slot} {node : ParamNode} (h : FlatForm slot node) :
    Rooted node := by
  cases h with
  | leaf hplace => exact ⟨hplace.condition, rfl, .simple _ _⟩
  | map shape => exact ⟨rfl, rfl, .map _ shape⟩
  | array shape => exact ⟨rfl, rfl, .array _ shape⟩
  | @typeChoice info place options hplace hvalue hseveral hlabels =>
    refine ⟨hplace.condition, ?_, .union (fun member hmember => ?_) fun member hmember => ?_⟩
    · refine isEmptyUnion_of_ne_nil (List.ne_nil_of_length_pos ?_)
      rw [List.length_map, List.length_zipIdx]
      omega
    · obtain ⟨⟨option, position⟩, hoption, rfl⟩ := List.mem_map.1 hmember
      have hlabel := hlabels option (List.fst_mem_of_mem_zipIdx hoption)
      refine ⟨rfl, option.1, hlabel, rfl, ?_⟩
      rw [hplace.value, ← hvalue]
      rfl
    · obtain ⟨⟨option, position⟩, -, rfl⟩ := List.mem_map.1 hmember
      exact .simple _ _

mutual

/-- A tree that is derived is wired, and nothing hides its root. -/
theorem Classifies.rooted {types : TypeGraph} {type : TypeId} {slot : Slot}
    {active : List TypeId} {budget left : Budget} {node : Option ParamNode} :
    Classifies types type slot active budget node left → ∀ tree ∈ node, Rooted tree
  | .flat _ _ => fun _ htree => rooted_of_flatForm (flatForm_of_flatNode htree)
  | .closedRecord _ _ => by
    rintro _ ⟨⟩
    exact ⟨rfl, rfl, .record (by simp) (by simp)⟩
  | .openRecord _ _ hfields => by
    rintro _ ⟨⟩
    -- the slot puts no condition on the record, and no field has one of its own
    have hrooted := hfields.rooted
    exact ⟨rfl, rfl, .record (fun field hfield => (hrooted field hfield).condition)
      fun field hfield => (hrooted field hfield).wired⟩
  | .closedUnion _ _ => nofun
  | .emptyUnion _ _ => nofun
  | .soleCandidate _ _ _ hnode => hnode.rooted
  | .absentChoice _ _ _ => nofun
  | .survivor _ _ _ _ hnode => hnode.rooted
  | .openUnion _ _ hmembers hnonempty _ => by
    rintro _ ⟨⟩
    -- members are labelled by their candidates, and no candidate has an empty label
    have hwired := hmembers.wired fun _ => label_ne_empty_of_mem_unionCandidates
    refine ⟨rfl, isEmptyUnion_of_ne_nil (by simpa using hnonempty),
      .union (fun node hnode => ?_) fun node hnode => ?_⟩
    · obtain ⟨member, hmember, rfl⟩ := List.mem_map.1 hnode
      exact (hwired member hmember).1
    · obtain ⟨member, hmember, rfl⟩ := List.mem_map.1 hnode
      exact (hwired member hmember).2

/-- The fields that are derived are wired, and nothing hides them within their record. -/
theorem ClassifiesFields.rooted {types : TypeGraph} {path : String} {required : Bool}
    {active : List TypeId} {fields : List Field} {position : Nat} {budget left : Budget}
    {nodes : List ParamNode} :
    ClassifiesFields types path required active fields position budget nodes left →
      ∀ node ∈ nodes, Rooted node
  | .done => by simp
  | .unsupported _ _ hrest => hrest.rooted
  | .cut _ _ _ => by simp
  | .absent _ _ _ _ hrest => hrest.rooted
  | .present _ _ _ hnode hrest =>
    List.forall_mem_cons.2 ⟨hnode.rooted _ rfl, hrest.rooted⟩

/-- The members that are derived are shown by their labels, and wired. -/
theorem ClassifiesMembers.wired {types : TypeGraph} {slot : Slot} {inside : List TypeId}
    {candidates : List Candidate} {position : Nat} {budget left : Budget}
    {members : List (ParamNode × TypeId)} :
    ClassifiesMembers types slot inside candidates position budget members left →
      (∀ candidate ∈ candidates, candidate.label ≠ "") →
        ∀ member ∈ members, MemberOf slot.value member.1 ∧ Wired member.1
  | .done => by simp
  | .absent _ hrest => fun hlabels => hrest.wired (List.forall_mem_cons.1 hlabels).2
  | .present hnode hrest => fun hlabels => by
    -- the tree of the member is as at any other place; only then it gets label and condition
    have hrooted := hnode.rooted _ rfl
    have hlabel := List.forall_mem_cons.1 hlabels
    refine List.forall_mem_cons.2 ⟨⟨?_, hrooted.wired.asMember _ _⟩, hrest.wired hlabel.2⟩
    exact memberOf_asMember hrooted.selectable slot.value hlabel.1

end

/-! ## Keys grow on the way down -/

/-- No field of a record has a name that consists of quote marks only. -/
def NoFieldIsQuotes (types : TypeGraph) : Prop :=
  ∀ d ∈ types.descriptors.toList, ∀ field ∈ d.fields, ¬ Naming.IsQuotes field.name

instance (types : TypeGraph) : Decidable (NoFieldIsQuotes types) :=
  inferInstanceAs (Decidable (∀ d ∈ types.descriptors.toList, _))

theorem NoFieldIsQuotes.descriptor {types : TypeGraph} (h : NoFieldIsQuotes types)
    (type : TypeId) : ∀ field ∈ (types.descriptor type).fields, ¬ Naming.IsQuotes field.name := by
  rcases descriptor_mem_or_eq_default types type with hmem | hdefault
  · exact h _ hmem
  · rw [hdefault]
    intro field hfield
    cases hfield

/-- Fields below the path have discriminators whose names have at least a length: either the path
is that of a parameter, below which no length is asked for, or it is as long. -/
def PathNests (least : Nat) (path : String) : Prop :=
  path = "" ∧ least = 0 ∨
    Naming.HasText path ∧ least ≤ (discriminatorName path).length + 1

/-- Unions in the slot have discriminators whose names have at least a length. -/
structure Slot.Nests (least : Nat) (slot : Slot) : Prop where
  /-- The value is not only quote marks. -/
  hasText : Naming.HasText slot.value
  /-- The discriminator of a union in the slot itself is long enough. -/
  le_length : least ≤ (discriminatorName slot.value).length
  /-- The discriminators of the fields of a record in the slot are long enough. -/
  path : PathNests least slot.fieldsPath

namespace Slot

variable {least : Nat} {slot : Slot}

/-- The slot of a union differs only in whether the value may be left out. -/
theorem Nests.ofUnion (h : slot.Nests least) (types : TypeGraph) (members : List TypeId) :
    (slot.ofUnion types members).Nests least :=
  ⟨h.hasText, h.le_length, h.path⟩

/-- The field of a record has a value that goes on from the path. -/
theorem nests_ofField {path : String} (hpath : PathNests least path) (required : Bool)
    (position : Nat) {field : Field} (hnamed : field.name ≠ "")
    (hquotes : ¬ Naming.IsQuotes field.name) :
    (ofField path required position field).Nests least := by
  have hvalue : Naming.HasText (qualify path field.name) ∧
      least ≤ (discriminatorName (qualify path field.name)).length := by
    rcases hpath with ⟨rfl, rfl⟩ | ⟨htext, hleast⟩
    -- the field of a parameter has just its own name
    · exact ⟨Naming.hasText_of_not_isQuotes hnamed hquotes, Nat.zero_le _⟩
    -- any other field has a name that is longer than that of its path by at least the dot
    · rw [qualify_of_ne_empty htext.ne_empty, length_discriminatorName_append htext,
        String.length_append]
      refine ⟨htext.append _, Nat.le_trans hleast ?_⟩
      have hdot : ".".length = 1 := rfl
      omega
  exact ⟨hvalue.1, hvalue.2, .inr ⟨hvalue.1, Nat.le_succ_of_le hvalue.2⟩⟩

/-- The member of a union has a value that goes on from that of the union, and so have its
fields. -/
theorem nests_ofMember (htext : Naming.HasText slot.value) {label : String} (hlabel : label ≠ "")
    (position : Nat) :
    (slot.ofMember label position).Nests ((discriminatorName slot.value).length + 1) := by
  have hcapital : 0 < (Naming.capitalize label).length := by
    rw [Nat.pos_iff_ne_zero]
    intro hzero
    exact Naming.capitalize_ne_empty hlabel (String.length_eq_zero_iff.1 hzero)
  refine ⟨htext.append _, ?_, .inr ⟨htext, Nat.le_refl _⟩⟩
  show _ ≤ (discriminatorName (slot.value ++ Naming.capitalize label)).length
  rw [length_discriminatorName_append htext]
  omega

end Slot

/-- A choice of types has a discriminator of its own, and none inside it. -/
theorem keysFrom_of_flatForm {least : Nat} {slot : Slot} (hslot : slot.Nests least)
    {node : ParamNode} (h : FlatForm slot node) : KeysFrom least node := by
  cases h with
  | leaf => exact .simple _ _ _
  | map => exact .map _ _ _
  | array => exact .array _ _ _
  | typeChoice hplace hvalue hseveral hlabels =>
    refine .union ?_ fun member hmember => ?_
    · rw [hplace.value]
      exact hslot.le_length
    · obtain ⟨⟨option, position⟩, -, rfl⟩ := List.mem_map.1 hmember
      exact .simple _ _ _

mutual

/-- In a slot below which names have at least a length, a tree is derived whose discriminators have
names of that length. -/
theorem Classifies.keysFrom {types : TypeGraph} (hfields : NoFieldIsQuotes types) {type : TypeId}
    {slot : Slot} {active : List TypeId} {budget left : Budget} {node : Option ParamNode} :
    Classifies types type slot active budget node left →
      ∀ {least : Nat}, slot.Nests least → ∀ tree ∈ node, KeysFrom least tree
  | .flat _ _ => fun hslot _ htree => keysFrom_of_flatForm hslot (flatForm_of_flatNode htree)
  | .closedRecord _ _ => fun _ => by
    rintro _ ⟨⟩
    exact .record (by simp)
  | .openRecord _ _ hnodes => fun hslot => by
    rintro _ ⟨⟩
    exact .record (hnodes.keysFrom hfields hslot.path (hfields.descriptor _))
  | .closedUnion _ _ => fun _ => nofun
  | .emptyUnion _ _ => fun _ => nofun
  | .soleCandidate _ _ _ hnode => fun hslot => hnode.keysFrom hfields (hslot.ofUnion types _)
  | .absentChoice _ _ _ => fun _ => nofun
  | .survivor _ _ _ _ hnode => fun hslot => hnode.keysFrom hfields (hslot.ofUnion types _)
  | .openUnion _ _ hmembers _ _ => fun hslot => by
    rintro _ ⟨⟩
    -- the members start over, from the length of this discriminator
    have hkeys := hmembers.keysFrom hfields hslot.hasText
      fun _ => label_ne_empty_of_mem_unionCandidates
    refine .union hslot.le_length fun node hnode => ?_
    obtain ⟨member, hmember, rfl⟩ := List.mem_map.1 hnode
    exact hkeys member hmember

/-- Below a path below which names have at least a length, fields are derived whose discriminators
have names of that length. -/
theorem ClassifiesFields.keysFrom {types : TypeGraph} (hnames : NoFieldIsQuotes types)
    {path : String} {required : Bool} {active : List TypeId} {fields : List Field}
    {position : Nat} {budget left : Budget} {nodes : List ParamNode} :
    ClassifiesFields types path required active fields position budget nodes left →
      ∀ {least : Nat}, PathNests least path →
        (∀ field ∈ fields, ¬ Naming.IsQuotes field.name) → ∀ node ∈ nodes, KeysFrom least node
  | .done => by simp
  | .unsupported _ _ hrest => fun hpath hquotes =>
    hrest.keysFrom hnames hpath (List.forall_mem_cons.1 hquotes).2
  | .cut _ _ _ => by simp
  | .absent _ _ _ _ hrest => fun hpath hquotes =>
    hrest.keysFrom hnames hpath (List.forall_mem_cons.1 hquotes).2
  | .present hnamed _ _ hnode hrest => fun hpath hquotes => by
    have hquotes := List.forall_mem_cons.1 hquotes
    refine List.forall_mem_cons.2 ⟨?_, hrest.keysFrom hnames hpath hquotes.2⟩
    exact hnode.keysFrom hnames (Slot.nests_ofField hpath _ _ hnamed hquotes.1) _ rfl

/-- The members of a union have discriminators with longer names than its own. -/
theorem ClassifiesMembers.keysFrom {types : TypeGraph} (hfields : NoFieldIsQuotes types)
    {slot : Slot} {inside : List TypeId} {candidates : List Candidate} {position : Nat}
    {budget left : Budget} {members : List (ParamNode × TypeId)} :
    ClassifiesMembers types slot inside candidates position budget members left →
      Naming.HasText slot.value → (∀ candidate ∈ candidates, candidate.label ≠ "") →
        ∀ member ∈ members, KeysFrom ((discriminatorName slot.value).length + 1) member.1
  | .done => by simp
  | .absent _ hrest => fun htext hlabels =>
    hrest.keysFrom hfields htext (List.forall_mem_cons.1 hlabels).2
  | .present hnode hrest => fun htext hlabels => by
    have hlabel := List.forall_mem_cons.1 hlabels
    refine List.forall_mem_cons.2 ⟨?_, hrest.keysFrom hfields htext hlabel.2⟩
    exact (hnode.keysFrom hfields (Slot.nests_ofMember htext hlabel.1 _) _ rfl).asMember _ _

end

/-! ## Parameters -/

section Parameters

variable {types : TypeGraph} {p : Parameter} {position fieldBudget : Int} {node : ParamNode}

/-- A parameter has a name, and its tree has a derivation, apart from the default value. -/
theorem exists_classifies_of_classifyParameter
    (h : classifyParameter types p position fieldBudget = .ok (some node)) :
    p.name ≠ "" ∧ ∃ derived left,
      Classifies types p.type (.ofParameter position p.name p.isRequired p.doc) [] ⟨fieldBudget⟩
        (some derived) left ∧
      ∃ default, node = derived.withInfo { derived.info with default } := by
  rw [classifyParameter] at h
  split at h
  · cases h
  · next derived left hrun =>
    obtain ⟨hname, hderivation⟩ := classifies_of_classify hrun
    obtain ⟨tree, rfl, rfl⟩ := Option.map_eq_some_iff.1 (Except.ok.inj h)
    refine ⟨hname, tree, left, hderivation, ?_⟩
    split
    · next written _ => exact ⟨some (defaultValue written), rfl⟩
    · exact ⟨tree.info.default, (ParamNode.withInfo_info tree).symm⟩

/-- The tree of a parameter is wired and shown at once. -/
theorem wired_of_classifyParameter
    (h : classifyParameter types p position fieldBudget = .ok (some node)) :
    node.condition = .empty ∧ Wired node := by
  obtain ⟨-, derived, left, hderivation, default, rfl⟩ :=
    exists_classifies_of_classifyParameter h
  have hrooted := hderivation.rooted derived rfl
  refine ⟨?_, hrooted.wired.withInfo rfl⟩
  rw [ParamNode.condition, ParamNode.info_withInfo]
  exact hrooted.condition

/-- In the tree of a parameter the names of discriminators grow on the way down, if neither its
name nor that of a field consists of quote marks only. -/
theorem keysFrom_of_classifyParameter (hfields : NoFieldIsQuotes types)
    (hname : ¬ Naming.IsQuotes p.name)
    (h : classifyParameter types p position fieldBudget = .ok (some node)) : KeysFrom 0 node := by
  obtain ⟨hnamed, derived, left, hderivation, default, rfl⟩ :=
    exists_classifies_of_classifyParameter h
  have hslot : (Slot.ofParameter position p.name p.isRequired p.doc).Nests 0 :=
    ⟨Naming.hasText_of_not_isQuotes hnamed hname, Nat.zero_le _, .inl ⟨rfl, rfl⟩⟩
  exact (hderivation.keysFrom hfields hslot derived rfl).withInfo rfl

end Parameters

end SignatureForms
