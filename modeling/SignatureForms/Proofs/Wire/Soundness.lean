import SignatureForms.Proofs.Form.Unfolding
import SignatureForms.Proofs.Wire.Completeness

/-!
# What a wire declares is in the form

A wire, the descriptors and a form are made from the same parameter trees by three recursions. This
module shows that the wire of classified parameters declares nothing that the others do not know:
the values of its leaves are described and entered in the form, the controls that it names for the
choice of a member are lists of choices of the form, and the labels with which it tags the fields
of a record are those by which the form shows the fields.

The labels agree although they are computed apart: classification gives every member a label of its
own, so that its position among the members plays no part. And a record in a union has a label to be
tagged with only if there is a choice: the only member of a union is a union itself.

The module introduces:

* `UnionArm` — a record that is a member of a union, with its place;
* `UnionArm.Holds expandRecords arm tree node` — the node is unfolded from a field of the record,
  inside no other union;
* `Entry.IsCombo name values` — the entry is a list of choices;
* `RendersUnder ctx clause node entries` — the node is rendered to controls that ask for a clause;
* `UnionArm.Shows ctx form arm tree node` — the form shows the node by the label of the record.

## Main results

* `unfolds_or_holds_of_mem_inside`: a node with a tag is held by an arm with this label;
* `UnionArm.Holds.exists_rendersUnder`: what an arm holds is rendered under its label;
* `wire_sound`: what the wire of classified parameters declares is in their form.
-/

namespace SignatureForms

/-! ## Names of what is unfolded -/

section Names

variable {ctx : FormContext}

/-- Behind a check box a composite has the sites of its content. -/
theorem map_name_subset_gated (info : NodeInfo) (content : List Site) :
    content.map Site.name ⊆ (Site.gated ctx info content).map Site.name := by
  rw [Site.gated]
  split
  · rw [List.map_cons, Site.map_name_below]
    exact List.subset_cons_self _ _
  · exact List.Subset.refl _

/-- A node that is neither a union nor an unfolded record has a site of its own name. -/
theorem name_mem_sites {node : ParamNode} (hunion : node.isUnion = false)
    (hflat : node.expands ctx.expandRecords = false) :
    node.name ∈ (node.sites ctx).map Site.name := by
  have hself : node.name ∈ [(⟨node.name, []⟩ : Site)].map Site.name := List.mem_cons_self
  cases node with
  | simple info kind => exact hself
  | record info recordName parentPath fields =>
    rw [ParamNode.sites]
    split
    · next hon =>
      have hempty : fields.isEmpty = true := by simpa [ParamNode.expands, hon] using hflat
      rw [if_pos hempty]
      exact map_name_subset_gated info _ hself
    · exact hself
  | map info shape => exact map_name_subset_gated info _ hself
  | array info shape => exact map_name_subset_gated info _ hself
  | union info members => cases hunion

/-- What is unfolded in one step has no site that the node has not. -/
theorem UnfoldStep.map_name_sites_subset {outer inner : ParamNode}
    (h : UnfoldStep ctx.expandRecords outer inner) :
    (inner.sites ctx).map Site.name ⊆ (outer.sites ctx).map Site.name := by
  cases h with
  | field hexpands hpart =>
    exact List.Subset.trans (map_name_subset_fieldSites hpart) (map_name_fieldSites_subset hexpands)
  | @arm info members arm part hplain harm hexpands hpart =>
    intro name hname
    rw [ParamNode.sites, hplain, List.map_append, List.mem_append, if_neg Bool.false_ne_true,
      ParamNode.map_name_memberSites]
    refine .inr (List.mem_flatMap.2 ⟨arm, harm, ?_⟩)
    rw [if_pos hexpands]
    exact map_name_subset_fieldSites hpart hname

/-- What is unfolded in several steps has no site that the node has not. -/
theorem Unfolds.map_name_sites_subset {outer inner : ParamNode}
    (h : Unfolds ctx.expandRecords outer inner) :
    (inner.sites ctx).map Site.name ⊆ (outer.sites ctx).map Site.name := by
  induction h with
  | refl => exact List.Subset.refl _
  | tail _ hstep ih => exact List.Subset.trans hstep.map_name_sites_subset ih

/-- Parameters that can be rendered can be described, by the names of the sites outside of
connections. -/
theorem exists_parameterDescriptors_sites {params : List ParamNode} {form : List Entry}
    (h : renderForm ctx params = .ok form) :
    ∃ described emitted,
      parameterDescriptors params [] ctx.expandRecords = .ok (described, emitted) ∧
        ∀ name, name ∈ described.map ParameterDescriptor.name ↔
          name ∈ (ParamNode.fieldSites ctx.plain params).map Site.name := by
  obtain ⟨found, hfound, hsites⟩ := exists_mentionsAll_of_renderForm h
  refine ⟨firstMentions [] found, [] ++ (firstMentions [] found).map ParameterDescriptor.name, ?_,
    fun name => ?_⟩
  · rw [parameterDescriptors, hfound]
    rfl
  · rw [mem_map_name_firstMentions, hsites]
    exact and_iff_left List.not_mem_nil

end Names

/-! ## Numbered nodes and arms -/

/-- A record that is a member of a union. -/
structure UnionArm where
  /-- What the union shares with other nodes. -/
  info : NodeInfo
  /-- The members of the union. -/
  members : List ParamNode
  /-- The position of the record among the members. -/
  position : Nat
  /-- The record. -/
  record : ParamNode

namespace UnionArm

/-- The label by which the record is selected. -/
def label (arm : UnionArm) : String := arm.record.memberLabel arm.position

/-- The name of the control by which a member of the union is selected. -/
def key (arm : UnionArm) : String := discriminatorName arm.info.value

/-- The labels of the members of the union. -/
def choices (arm : UnionArm) : List String :=
  arm.members.zipIdx.map fun (member, position) => member.memberLabel position

/-- The union is unfolded from the tree, the record is its member, and the node is unfolded from a
field of the record without entering another union. -/
structure Holds (expandRecords : Bool) (arm : UnionArm) (tree node : ParamNode) : Prop where
  /-- The union is unfolded from the tree. -/
  union : Unfolds expandRecords tree (.union arm.info arm.members)
  /-- The union is no choice of types. -/
  plain : arm.info.typeDescriptor = false
  /-- The record is a member of the union. -/
  member : arm.members[arm.position]? = some arm.record
  /-- The record is unfolded. -/
  expands : arm.record.expands expandRecords = true
  /-- The node is unfolded from a field of the record. -/
  field : ∃ field ∈ arm.record.fields, UnfoldsFields expandRecords field node

variable {expandRecords : Bool} {arm : UnionArm} {tree node : ParamNode}

/-- An arm inside a part of a tree is an arm inside the tree. -/
theorem Holds.of_unfoldStep {outer : ParamNode} (h : arm.Holds expandRecords tree node)
    (hstep : UnfoldStep expandRecords outer tree) : arm.Holds expandRecords outer node :=
  { h with union := .head hstep h.union }

/-- A field of the record is unfolded from the union. -/
theorem Holds.step (h : arm.Holds expandRecords tree node) {field : ParamNode}
    (hfield : field ∈ arm.record.fields) :
    UnfoldStep expandRecords (.union arm.info arm.members) field :=
  .arm h.plain (List.mem_of_getElem? h.member) h.expands hfield

/-- What an arm inside a tree holds is unfolded from the tree. -/
theorem Holds.unfolds (h : arm.Holds expandRecords tree node) :
    Unfolds expandRecords tree node := by
  obtain ⟨field, hfield, hnode⟩ := h.field
  exact (h.union.tail (h.step hfield)).trans hnode.unfolds

end UnionArm

/-- A record with a field, unfolded, expands. -/
theorem ParamNode.expands_of_mem_fields {node field : ParamNode} (h : field ∈ node.fields) :
    node.expands true = true := by
  cases node with
  | record info recordName parentPath fields =>
    have hfull : fields.isEmpty = false := by
      rw [List.isEmpty_eq_false_iff]
      exact List.ne_nil_of_mem h
    rw [expands, hfull]
    rfl
  | _ => cases h

section Numbered

variable {types : TypeGraph}

/-- A union in which a record has a field is no choice of types, and the field is offerable. -/
theorem Offerable.of_mem_fields {info : NodeInfo} {members : List ParamNode}
    (h : Offerable types (.union info members)) {member field : ParamNode}
    (hmember : member ∈ members) (hfield : field ∈ member.fields) :
    info.typeDescriptor = false ∧ Offerable types field := by
  cases h with
  | typeChoice htype hmembers =>
    -- the options of a choice of types have no fields
    obtain ⟨place, kind, rfl⟩ := hmembers member hmember
    cases hfield
  | union hplain hmembers =>
    refine ⟨hplain, ?_⟩
    cases hmembers member hmember with
    | record hfields => exact hfields field hfield
    | _ => cases hfield

/-- A node that a tree numbers is unfolded from it and has the tag of the tree, or it is held by an
arm inside the tree, whose label is its tag. -/
theorem unfolds_or_holds_of_mem_numbered (expandRecords : Bool) (tag : Option String)
    (node : ParamNode) (hoffered : Offerable types node) {entry : FieldNode}
    (h : entry ∈ node.numbered expandRecords tag) :
    entry.member = tag ∧ UnfoldsFields expandRecords node entry.node ∨
      ∃ arm : UnionArm, arm.Holds expandRecords node entry.node ∧
        entry.member = some arm.label := by
  match node, hoffered with
  | .simple info kind, _ | .map info shape, _ | .array info shape, _ =>
    rw [List.mem_singleton.1 h]
    exact .inl ⟨rfl, .refl⟩
  | .record info recordName parentPath fields, .record hfields =>
    rw [ParamNode.numbered] at h
    split at h
    · next hexpands =>
      -- the fields of an unfolded record keep its tag
      rw [ParamNode.numberedAll_eq_flatMap] at h
      obtain ⟨field, hfield, hentry⟩ := List.mem_flatMap.1 h
      rcases unfolds_or_holds_of_mem_numbered expandRecords tag field (hfields field hfield)
        hentry with ⟨htag, hunfolds⟩ | ⟨arm, hholds, hlabel⟩
      · exact .inl ⟨htag, .head ⟨hexpands, hfield⟩ hunfolds⟩
      · exact .inr ⟨arm, hholds.of_unfoldStep (.field hexpands hfield), hlabel⟩
    · rw [List.mem_singleton.1 h]
      exact .inl ⟨rfl, .refl⟩
  | .union info members, hoffered =>
    rw [ParamNode.numbered, List.mem_cons] at h
    rcases h with rfl | h
    · exact .inl ⟨rfl, .refl⟩
    · cases expandRecords with
      | false => cases h
      | true =>
        rw [if_pos rfl] at h
        obtain ⟨position, member, field, hposition, hfield, hentry⟩ :=
          exists_field_of_mem_numberedArms h
        have hmember := List.mem_of_getElem? hposition
        have hexpands := ParamNode.expands_of_mem_fields hfield
        obtain ⟨hplain, hofferedField⟩ := hoffered.of_mem_fields hmember hfield
        -- below the field this arm holds what no further union is entered for
        right
        rcases unfolds_or_holds_of_mem_numbered true _ field hofferedField hentry with
          ⟨htag, hunfolds⟩ | ⟨arm, hholds, hlabel⟩
        · exact ⟨⟨info, members, position, member⟩,
            ⟨.refl, hplain, hposition, hexpands, field, hfield, hunfolds⟩, htag⟩
        · exact ⟨arm, hholds.of_unfoldStep (.arm hplain hmember hexpands hfield), hlabel⟩
termination_by sizeOf node
decreasing_by
  · have := List.sizeOf_lt_of_mem hfield
    simp only [ParamNode.record.sizeOf_spec]
    omega
  · have := ParamNode.sizeOf_lt_of_mem_fields hfield
    have := List.sizeOf_lt_of_mem hmember
    simp only [ParamNode.union.sizeOf_spec]
    omega

/-- What a parameter declares is unfolded from the parameter and has no tag, or is held by an arm
whose label is its tag. -/
theorem unfolds_or_holds_of_mem_inside {expandRecords : Bool} {param : ParamNode}
    (hoffered : Offerable types param) {entry : FieldNode}
    (h : entry ∈ (⟨none, param⟩ : FieldNode) :: param.inside expandRecords) :
    entry.member = none ∧ UnfoldsFields expandRecords param entry.node ∨
      ∃ arm : UnionArm, arm.Holds expandRecords param entry.node ∧
        entry.member = some arm.label := by
  rcases List.mem_cons.1 h with rfl | hinside
  · exact .inl ⟨rfl, .refl⟩
  · exact unfolds_or_holds_of_mem_numbered expandRecords none param hoffered
      (inside_subset_numbered expandRecords param hinside)

end Numbered

/-! ## Lists of choices -/

/-- The entry is a list of choices with a name and values to choose from. -/
def Entry.IsCombo (name : String) (values : List String) : Entry → Prop
  | .input i => i.name = name ∧ i.inputType = .combo ∧ i.comboValues = some values
  | _ => False

section Rendered

variable {ctx : FormContext} {condition : Condition} {group : Option String}
  {entries : List Entry}

/-- A union with a choice is rendered with a list of the labels of its members. -/
theorem exists_combo_of_renderNode {info : NodeInfo} {members : List ParamNode}
    (hchoice : ParamNode.hasDiscriminator members = true)
    (h : renderNode ctx condition group (.union info members) = .ok entries) :
    ∃ combo ∈ Entry.controls entries, combo.IsCombo (discriminatorName info.value)
      ((ParamNode.selectable members).zipIdx.map fun (member, position) =>
        member.memberLabel position) := by
  have hsubset := unionChoice_subset_controls h
  rw [unionChoice, if_pos hchoice] at hsubset
  exact ⟨_, hsubset List.mem_cons_self, rfl, rfl, rfl⟩

/-- A node that declares a discriminator is rendered with a list of choices of this name. -/
theorem exists_combo_of_mem_discriminator {node : ParamNode} {name : String}
    (hname : name ∈ node.discriminator?)
    (h : renderNode ctx condition group node = .ok entries) :
    ∃ combo ∈ Entry.controls entries, ∃ values, combo.IsCombo name values := by
  cases node with
  | union info members =>
    rw [ParamNode.discriminator?] at hname
    split at hname
    · next hchoice =>
      obtain rfl := Option.some.inj hname
      obtain ⟨combo, hcombo, hoffers⟩ := exists_combo_of_renderNode hchoice h
      exact ⟨combo, hcombo, _, hoffers⟩
    · cases hname
  | _ => cases hname

/-- Where there is a choice, more than one member can be selected. -/
theorem hasSingleMember_eq_false {members : List ParamNode}
    (h : ParamNode.hasDiscriminator members = true) : hasSingleMember members = false := by
  have hseveral : 1 < (ParamNode.selectable members).length := of_decide_eq_true h
  rw [hasSingleMember, beq_eq_false_iff_ne]
  omega

/-- The names of a rendered node are those of its sites. -/
theorem mem_namesAll_renderNode {node : ParamNode}
    (h : renderNode ctx condition group node = .ok entries) (name : String) :
    name ∈ Entry.namesAll entries ↔ name ∈ (node.sites ctx).map Site.name := by
  have houtline : (Entry.outline entries).Perm (Site.outline condition (node.sites ctx)) :=
    (outlinedBySites ctx).holds node h
  have hnames := houtline.map Prod.fst
  rw [Entry.map_fst_outline, Site.map_fst_outline] at hnames
  exact hnames.mem_iff

/-- The entries are what a node is rendered to: some controls, one of the name of the node if it is
neither a union nor an unfolded record, all of which ask what the clause asks. -/
structure RendersUnder (ctx : FormContext) (clause : Clause) (node : ParamNode)
    (entries : List Entry) : Prop where
  /-- The node is rendered to the entries. -/
  rendered : ∃ condition group, renderNode ctx condition group node = .ok entries
  /-- The entries have some control. -/
  nonempty : Entry.controls entries ≠ []
  /-- A leaf has a control of its own name. -/
  named : node.isUnion = false → node.expands ctx.expandRecords = false →
    node.name ∈ Entry.namesAll entries
  /-- All controls ask what the clause asks. -/
  asked : ∀ control ∈ Entry.controls entries, clause ∈ control.condition.clauses

end Rendered

/-! ## Arms of classified trees -/

/-- All nodes of a wired tree are wired. -/
theorem Wired.of_mem_walk {tree : ParamNode} (h : Wired tree) : ∀ node ∈ tree.walk, Wired node := by
  induction h with
  | simple info kind => exact List.forall_mem_singleton.2 (.simple info kind)
  | map info shape => exact List.forall_mem_singleton.2 (.map info shape)
  | array info shape => exact List.forall_mem_singleton.2 (.array info shape)
  | record hconditions hfields ih =>
    exact ParamNode.forall_mem_walk_iff.2 ⟨.record hconditions hfields, ih⟩
  | union hlabels hmembers ih =>
    exact ParamNode.forall_mem_walk_iff.2 ⟨.union hlabels hmembers, ih⟩

/-- A field is a node of its record. -/
theorem ParamNode.mem_walk_of_mem_fields {node field : ParamNode} (h : field ∈ node.fields) :
    field ∈ node.walk := by
  cases node with
  | record info recordName parentPath fields =>
    exact List.mem_cons_of_mem _ (subset_walkAll fields h)
  | _ => cases h

/-- What is unfolded from a tree is a node of the tree. -/
theorem Unfolds.mem_walk {expandRecords : Bool} {tree node : ParamNode}
    (h : Unfolds expandRecords tree node) : node ∈ tree.walk := by
  -- on the steps, the last of which leads from a node of the tree to a node inside of it
  induction h with
  | refl => exact ParamNode.mem_walk_self tree
  | tail _ hstep ih =>
    apply ParamNode.walk_subset_walk ih
    cases hstep with
    | field _ hpart => exact ParamNode.mem_walk_of_mem_fields hpart
    | @arm info members arm _ _ harm _ hpart =>
      have hmember : arm ∈ (ParamNode.union info members).walk :=
        List.mem_cons_of_mem _ (ParamNode.subset_walkAll members harm)
      exact ParamNode.walk_subset_walk hmember (ParamNode.mem_walk_of_mem_fields hpart)

namespace UnionArm.Holds

variable {expandRecords : Bool} {arm : UnionArm} {tree node : ParamNode}

/-- The union of an arm has a choice: if it had just one member, this would not be a record. -/
theorem hasDiscriminator (h : arm.Holds expandRecords tree node)
    (hbranches : ∀ node ∈ tree.walk, node.Branches) :
    ParamNode.hasDiscriminator arm.members = true := by
  rcases hbranches _ h.union.mem_walk with hchoice | ⟨-, only, honly, hunion⟩
  · exact hchoice
  · have hrecord : arm.record = only := by
      have hmember := List.mem_of_getElem? h.member
      rw [honly] at hmember
      exact List.mem_singleton.1 hmember
    have hexpands := h.expands
    rw [hrecord] at hexpands
    cases only with
    | union => cases hexpands
    | _ => cases hunion

/-- The members of the union are shown by their labels. -/
theorem memberOf (h : arm.Holds expandRecords tree node) (hwired : Wired tree) :
    ∀ member ∈ arm.members, MemberOf arm.info.value member := by
  rcases hwired.of_mem_walk _ h.union.mem_walk with _ | _ | _ | _ | ⟨hlabels, -⟩
  exact hlabels

/-- The label of the record is what its condition asks for, and is among the labels of the
members. -/
theorem label_spec (h : arm.Holds expandRecords tree node) (hwired : Wired tree) :
    arm.record.condition = .when arm.key arm.label ∧ arm.label ∈ arm.choices := by
  have hmember := List.mem_of_getElem? h.member
  obtain ⟨label, hnonempty, hlabel, hcondition⟩ := (h.memberOf hwired _ hmember).wired
  have hself : arm.label = label := memberLabel_of_label hnonempty hlabel arm.position
  rw [hself]
  exact ⟨hcondition, mem_memberLabels hmember hnonempty hlabel⟩

end UnionArm.Holds

section RenderedArms

variable {ctx : FormContext} {condition : Condition} {group : Option String}
  {entries : List Entry} {arm : UnionArm} {tree node : ParamNode}

/-- The tree of an arm is rendered with the list of choices of its union. -/
theorem UnionArm.Holds.exists_combo (h : arm.Holds ctx.expandRecords tree node)
    (hwired : Wired tree) (hbranches : ∀ node ∈ tree.walk, node.Branches)
    (hrender : renderNode ctx condition group tree = .ok entries) :
    ∃ combo ∈ Entry.controls entries, combo.IsCombo arm.key arm.choices := by
  obtain ⟨own, place, inner, hinner, -, hsubset⟩ := h.union.renderedInside hrender
  obtain ⟨combo, hcombo, hoffers⟩ :=
    exists_combo_of_renderNode (h.hasDiscriminator hbranches) hinner
  rw [selectable_eq_self (h.memberOf hwired)] at hoffers
  exact ⟨combo, hsubset hcombo, hoffers⟩

/-- What an arm holds is rendered to controls that all ask for the label of the arm. -/
theorem UnionArm.Holds.exists_rendersUnder (h : arm.Holds ctx.expandRecords tree node)
    (hwired : Wired tree) (hbranches : ∀ node ∈ tree.walk, node.Branches)
    (hrender : renderNode ctx condition group tree = .ok entries) :
    ∃ inner, RendersUnder ctx ⟨arm.key, arm.label⟩ node inner ∧
      Entry.controls inner ⊆ Entry.controls entries := by
  obtain ⟨field, hfield, hbelow⟩ := h.field
  obtain ⟨outer, _, choice, hchoice, -, hchoiceSubset⟩ := h.union.renderedInside hrender
  obtain ⟨place, content, hcontent, hcontentSubset⟩ :=
    exists_renderNode_arm h.plain (List.mem_of_getElem? h.member) h.expands hfield hchoice
  obtain ⟨own, place', inner, hinner, hclauses, hinnerSubset⟩ :=
    hbelow.unfolds.renderedInside hcontent
  -- with a choice the condition of the record is not left out, and conditions only grow below
  have hasked : ⟨arm.key, arm.label⟩ ∈ own.clauses := by
    apply hclauses
    rw [hasSingleMember_eq_false (h.hasDiscriminator hbranches), memberCondition,
      if_neg Bool.false_ne_true, (h.label_spec hwired).1]
    exact Condition.mem_merge.2 (.inr (Condition.mem_merge.2 (.inl (Condition.mem_when.2 rfl))))
  refine ⟨inner, ⟨⟨own, place', hinner⟩, ?_, ?_, ?_⟩,
    List.Subset.trans hinnerSubset (List.Subset.trans hcontentSubset hchoiceSubset)⟩
  · -- all unions inside the node are unions of the tree
    apply (renderInvariant_controls_ne_nil ctx).holds node hinner
    intro below hmem
    exact hbranches below (ParamNode.walk_subset_walk h.unfolds.mem_walk hmem)
  · intro hunion hflat
    rw [mem_namesAll_renderNode hinner]
    exact name_mem_sites hunion hflat
  · intro control hcontrol
    exact clauses_subset_of_renderNode hinner control hcontrol hasked

end RenderedArms

/-! ## Wires of classified parameters -/

/-- All unions in the tree of a parameter branch. -/
theorem branches_of_classifyParameter {types : TypeGraph} {p : Parameter}
    {position fieldBudget : Int} {param : ParamNode}
    (h : classifyParameter types p position fieldBudget = .ok (some param)) :
    ∀ node ∈ param.walk, node.Branches := by
  obtain ⟨-, derived, left, hderivation, default, rfl⟩ :=
    exists_classifies_of_classifyParameter h
  obtain ⟨hroot, hparts⟩ := ParamNode.forall_mem_walk_iff.1 hderivation.forall_mem_walk_branches
  rw [ParamNode.forall_mem_walk_iff, ParamNode.parts_withInfo]
  refine ⟨?_, hparts⟩
  cases derived with
  | union info members => exact hroot
  | _ => trivial

section Forms

variable {ctx : FormContext} {params : List ParamNode} {form : List Entry}

/-- Each parameter of a form is rendered to some of its controls. -/
theorem exists_renderNode_of_renderForm (h : renderForm ctx params = .ok form) :
    ∀ param ∈ params, ∃ entries, renderNode ctx param.condition none param = .ok entries ∧
      Entry.controls entries ⊆ Entry.controls form := by
  induction params generalizing form with
  | nil => exact List.forall_mem_nil _
  | cons param rest ih =>
    simp only [renderForm, bind_eq_ok_iff, pure_eq_ok_iff] at h
    obtain ⟨first, hfirst, others, hothers, rfl⟩ := h
    rw [Entry.controls_append]
    refine List.forall_mem_cons.2 ⟨⟨first, hfirst, List.subset_append_left _ _⟩, ?_⟩
    intro param' hparam'
    obtain ⟨entries, hentries, hsubset⟩ := ih hothers param' hparam'
    exact ⟨entries, hentries, List.Subset.trans hsubset (List.subset_append_right _ _)⟩

/-- A node that is unfolded from a parameter, and is neither a union nor an unfolded record, has a
site among those of the parameters. -/
theorem Unfolds.name_mem_fieldSites {param node : ParamNode} (hparam : param ∈ params)
    (h : Unfolds ctx.expandRecords param node) (hunion : node.isUnion = false)
    (hflat : node.expands ctx.expandRecords = false) :
    node.name ∈ (ParamNode.fieldSites ctx params).map Site.name :=
  map_name_subset_fieldSites hparam (h.map_name_sites_subset (name_mem_sites hunion hflat))

/-- In the form the node is shown by the label of a record that is a member of a union. -/
structure UnionArm.Shows (ctx : FormContext) (form : List Entry) (arm : UnionArm)
    (tree node : ParamNode) : Prop where
  /-- The node is unfolded from a field of the record, inside no other union. -/
  holds : arm.Holds ctx.expandRecords tree node
  /-- The record is shown by its label. -/
  condition : arm.record.condition = .when arm.key arm.label
  /-- The list of choices of the union offers the label. -/
  choice : arm.label ∈ arm.choices ∧
    ∃ combo ∈ Entry.controls form, combo.IsCombo arm.key arm.choices
  /-- The controls for the node ask for the label. -/
  shown : ∃ entries, RendersUnder ctx ⟨arm.key, arm.label⟩ node entries ∧
    Entry.controls entries ⊆ Entry.controls form

/-- The form shows what an arm holds by the label of the arm. -/
theorem UnionArm.Holds.shows {arm : UnionArm} {param node : ParamNode}
    (h : arm.Holds ctx.expandRecords param node) (hwired : Wired param)
    (hbranches : ∀ node ∈ param.walk, node.Branches)
    (hrender : ∃ entries, renderNode ctx param.condition none param = .ok entries ∧
      Entry.controls entries ⊆ Entry.controls form) :
    arm.Shows ctx form param node := by
  obtain ⟨entries, hentries, hsubset⟩ := hrender
  obtain ⟨hcondition, hlabel⟩ := h.label_spec hwired
  obtain ⟨combo, hcombo, hoffers⟩ := h.exists_combo hwired hbranches hentries
  obtain ⟨inner, hinner, hinnerSubset⟩ := h.exists_rendersUnder hwired hbranches hentries
  exact ⟨h, hcondition, ⟨hlabel, combo, hsubset hcombo, hoffers⟩, inner, hinner,
    List.Subset.trans hinnerSubset hsubset⟩

/-- A wire declares for each parameter the parameter itself and the nodes that are numbered in its
scope. In the wire of classified parameters the value of each node that is neither a union nor an
unfolded record is described, and entered in the form, by its sanitized name; each discriminator is
the name of a list of choices of the form; and each label is that of a record in a union by which
the form shows the node: the list of choices of the union offers it, and all controls for the node
ask for it. -/
theorem wire_sound {sources : List ParamSource}
    (hparams : List.Forall₂ ParamSource.Gives sources params) {scope : String}
    {ds : List Declaration} (hwire : wire params scope ctx.expandRecords = .ok ds)
    (hform : renderForm ctx params = .ok form) :
    ∃ described emitted,
      parameterDescriptors params [] ctx.expandRecords = .ok (described, emitted) ∧
      (ds = params.zipIdx.flatMap fun (param, index) =>
        param.declarations scope ctx.expandRecords index) ∧
      ∀ param ∈ params, ∀ entry ∈ (⟨none, param⟩ : FieldNode) :: param.inside ctx.expandRecords,
        (entry.node.isUnion = false → entry.node.expands ctx.expandRecords = false →
          Naming.flatName entry.field.value ∈ described.map ParameterDescriptor.name ∧
            Naming.flatName entry.field.value ∈ Entry.namesAll form) ∧
        (∀ name ∈ entry.field.discriminator, ∃ combo ∈ Entry.controls form, ∃ values,
          combo.IsCombo name values) ∧
        ∀ label ∈ entry.field.unionMember, ∃ arm : UnionArm,
          label = arm.label ∧ arm.Shows ctx form param entry.node := by
  obtain ⟨described, emitted, hdescribed, hnames⟩ := exists_parameterDescriptors_sites hform
  refine ⟨described, emitted, hdescribed, (wire_eq_ok_iff.1 hwire).2, ?_⟩
  intro param hparam entry hentry
  obtain ⟨source, -, hgives⟩ := exists_source_of_mem hparams hparam
  obtain ⟨-, hwired⟩ := wired_of_classifyParameter hgives
  have hbranches := branches_of_classifyParameter hgives
  have hrender := exists_renderNode_of_renderForm hform param hparam
  have hplace := unfolds_or_holds_of_mem_inside (offerable_of_classifyParameter hgives) hentry
  have hunfolds : Unfolds ctx.expandRecords param entry.node := by
    rcases hplace with ⟨-, hfields⟩ | ⟨arm, hholds, -⟩
    · exact hfields.unfolds
    · exact hholds.unfolds
  refine ⟨?_, ?_, ?_⟩
  · intro hunion hflat
    -- descriptors and form have the sites of the same nodes, with and without check boxes
    constructor
    · rw [hnames]
      exact Unfolds.name_mem_fieldSites hparam hunfolds hunion hflat
    · rw [mem_namesAll_renderForm hform]
      exact hunfolds.name_mem_fieldSites hparam hunion hflat
  · intro name hname
    obtain ⟨entries, hentries, hsubset⟩ := hrender
    obtain ⟨own, group, inner, hinner, -, hinnerSubset⟩ := hunfolds.renderedInside hentries
    obtain ⟨combo, hcombo, hoffers⟩ := exists_combo_of_mem_discriminator hname hinner
    exact ⟨combo, hsubset (hinnerSubset hcombo), hoffers⟩
  · intro label hlabel
    have htag : entry.member = some label := hlabel
    rcases hplace with ⟨hnone, -⟩ | ⟨arm, hholds, hsome⟩
    · -- outside of all unions there is no tag
      rw [hnone] at htag
      cases htag
    · rw [hsome] at htag
      exact ⟨arm, (Option.some.inj htag).symm, hholds.shows hwired hbranches hrender⟩

end Forms

theorem wire_sound_signIn :
    ∃ param ds form node, signInSource.Gives param ∧ wire [param] "" true = .ok ds ∧
      renderForm ⟨true, false⟩ [param] = .ok form ∧
      ⟨"signIn_param0", "signIn.user"⟩ ∈ ds ∧ "signIn_user" ∈ Entry.namesAll form ∧
      ⟨"signIn_unionMember0", "Basic"⟩ ∈ ds ∧
      ∃ arm : UnionArm, "Basic" = arm.label ∧ arm.Shows ⟨true, false⟩ form param node := by
  obtain ⟨param, ds, form, node, hparam, hwire, hform, hnode, hleaf, hname, hdeclared⟩ :
      ∃ param ds form node, signInSource.Gives param ∧ wire [param] "" true = .ok ds ∧
        renderForm ⟨true, false⟩ [param] = .ok form ∧
        ⟨some "Basic", node⟩ ∈ param.inside true ∧
        (node.isUnion = false ∧ node.expands true = false) ∧ node.name = "signIn_user" ∧
        (⟨"signIn_param0", "signIn.user"⟩ ∈ ds ∧ ⟨"signIn_unionMember0", "Basic"⟩ ∈ ds) :=
    ⟨_, _, _, _, rfl, rfl, rfl, .head _, ⟨rfl, rfl⟩, rfl, by decide +kernel⟩
  obtain ⟨_, _, -, -, hsound⟩ := wire_sound (.cons hparam .nil) hwire hform
  obtain ⟨hnames, -, harm⟩ := hsound param List.mem_cons_self _ (List.mem_cons_of_mem _ hnode)
  have hentered : "signIn_user" ∈ Entry.namesAll form := by
    rw [← hname]
    exact (hnames hleaf.1 hleaf.2).2
  exact ⟨param, ds, form, node, hparam, hwire, hform, hdeclared.1, hentered, hdeclared.2,
    harm "Basic" rfl⟩

end SignatureForms
