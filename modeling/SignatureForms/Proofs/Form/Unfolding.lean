import Mathlib.Logic.Relation
import SignatureForms.Proofs.Form.Visibility
import SignatureForms.Proofs.ParamTree.Subtrees

/-!
# Unfolding in a form

A form unfolds records into their fields, wherever they stand: in a record, or as members of a
union. A node that is reached in this way is rendered by itself, under a condition that only grows
on the way, and its controls are controls of the form. So a clause that an arm of a union puts on
its fields is found on all controls below them.

The module introduces:

* `UnfoldStep`, `Unfolds` — one step of unfolding, and any number of them;
* `UnfoldsFields` — unfolding without entering a union;
* `RenderedInside ctx condition entries node` — the node is rendered to some of the controls of
  `entries`, under a condition that asks at least what `condition` asks;
* `ParamNode.Branches` — a union has a list of choices, or it is no choice of types and its only
  member is a union.

## Main results

* `Unfolds.renderedInside`: what is unfolded from a rendered node is rendered inside of it;
* `Classifies.forall_mem_walk_branches`: the unions in derived trees branch;
* `renderInvariant_controls_ne_nil`: a tree whose unions branch is never rendered to nothing.
-/

namespace SignatureForms

/-! ## Unfolding -/

/-- One step of unfolding leads from a record to one of its fields, or from a union to a field of
one of its records. A choice of types has no records. -/
inductive UnfoldStep (expandRecords : Bool) : ParamNode → ParamNode → Prop
  | field {node part : ParamNode} (hexpands : node.expands expandRecords = true)
      (hpart : part ∈ node.fields) : UnfoldStep expandRecords node part
  | arm {info : NodeInfo} {members : List ParamNode} {arm part : ParamNode}
      (hplain : info.typeDescriptor = false) (harm : arm ∈ members)
      (hexpands : arm.expands expandRecords = true) (hpart : part ∈ arm.fields) :
      UnfoldStep expandRecords (.union info members) part

/-- The second node is unfolded from the first one in any number of steps. -/
def Unfolds (expandRecords : Bool) : ParamNode → ParamNode → Prop :=
  Relation.ReflTransGen (UnfoldStep expandRecords)

/-- The second node is unfolded from the first one without entering a union. -/
def UnfoldsFields (expandRecords : Bool) : ParamNode → ParamNode → Prop :=
  Relation.ReflTransGen fun node part => node.expands expandRecords = true ∧ part ∈ node.fields

theorem UnfoldsFields.unfolds {expandRecords : Bool} {outer inner : ParamNode}
    (h : UnfoldsFields expandRecords outer inner) : Unfolds expandRecords outer inner :=
  Relation.ReflTransGen.mono (fun _ _ hstep => .field hstep.1 hstep.2) _ _ h

/-! ## Rendering what is unfolded -/

section Rendered

variable {ctx : FormContext} {condition : Condition} {group : Option String}
  {entries : List Entry}

/-- The node is rendered to some of the controls of the entries, under a condition that asks at
least what the given one asks. -/
def RenderedInside (ctx : FormContext) (condition : Condition) (entries : List Entry)
    (node : ParamNode) : Prop :=
  ∃ own group inner, renderNode ctx own group node = .ok inner ∧
    condition.clauses ⊆ own.clauses ∧ Entry.controls inner ⊆ Entry.controls entries

/-- The content of a composite is under its condition. -/
theorem subset_gate (ctx : FormContext) (info : NodeInfo) (condition : Condition) :
    condition.clauses ⊆ (gate ctx info condition).2.clauses := by
  rw [gate]
  split
  · exact Condition.subset_merge_left _ _
  · exact List.Subset.refl _

/-- The controls of placed fields are among those of the gathered ones. -/
theorem controls_subset_controls_gather {placed : List Placed} {p : Placed} (hp : p ∈ placed)
    (condition : Condition) :
    Entry.controls p.entries ⊆ Entry.controls (gather condition [] placed) := by
  intro control hcontrol
  rw [(controls_gather_perm condition placed).mem_iff]
  exact List.mem_flatMap.2 ⟨p, hp, hcontrol⟩

/-- A field of an unfolded record is rendered inside the record. -/
theorem renderedInside_of_mem_fields {record part : ParamNode}
    (hexpands : record.expands ctx.expandRecords = true) (hpart : part ∈ record.fields)
    (h : renderNode ctx condition group record = .ok entries) :
    RenderedInside ctx condition entries part := by
  obtain ⟨hon, info, recordName, parentPath, fields, hfull, rfl⟩ :=
    ParamNode.exists_of_expands hexpands
  have hsome : ¬ fields.isEmpty = true := by simpa using hfull
  simp only [renderNode, hon, Bool.not_true, Bool.false_eq_true, if_false, if_neg hsome,
    bind_eq_ok_iff, pure_eq_ok_iff] at h
  obtain ⟨placed, hplaced, rfl⟩ := h
  obtain ⟨hplaces, hfields⟩ := placeFields_eq_ok hplaced
  obtain ⟨inner, hinner⟩ := hfields part hpart
  refine ⟨_, _, inner, hinner, ?_, ?_⟩
  · exact List.Subset.trans (subset_gate ctx info condition) (Condition.subset_merge_left _ _)
  · have hplace : (⟨groupSegment group part.value, inner⟩ : Placed) ∈ placed := by
      rw [hplaces, renderedEntries_of_eq_ok hinner]
      exact List.mem_map.2 ⟨part, hpart, rfl⟩
    rw [Entry.controls_append]
    exact List.Subset.trans (controls_subset_controls_gather hplace _)
      (List.subset_append_right _ _)

/-- A field of a record in a union is rendered inside the union, under the condition of the
record. -/
theorem exists_renderNode_arm {info : NodeInfo} {members : List ParamNode} {arm part : ParamNode}
    (hplain : info.typeDescriptor = false) (harm : arm ∈ members)
    (hexpands : arm.expands ctx.expandRecords = true) (hpart : part ∈ arm.fields)
    (h : renderNode ctx condition group (.union info members) = .ok entries) :
    ∃ place inner,
      renderNode ctx
        (condition.merge ((memberCondition (hasSingleMember members) arm).merge part.condition))
        place part = .ok inner ∧ Entry.controls inner ⊆ Entry.controls entries := by
  simp only [renderNode, hplain, Bool.false_eq_true, if_false, bind_eq_ok_iff, pure_eq_ok_iff] at h
  obtain ⟨others, -, placed, hplaced, rfl⟩ := h
  obtain ⟨hplaces, hfields⟩ := placeArms_eq_ok hplaced
  obtain ⟨inner, hinner⟩ := hfields arm harm hexpands part hpart
  refine ⟨_, inner, hinner, ?_⟩
  -- the field is placed with the arms, which are spliced in after the list of choices
  have hplace : (⟨groupSegment (unionGroup group info) part.value, inner⟩ : Placed) ∈ placed := by
    rw [hplaces, renderedEntries_of_eq_ok hinner]
    refine List.mem_flatMap.2 ⟨arm, harm, ?_⟩
    rw [if_pos hexpands]
    exact List.mem_map.2 ⟨part, hpart, rfl⟩
  intro control hcontrol
  rw [Entry.controls_append, List.mem_append, (controls_spliceArms_perm _ _).mem_iff,
    List.mem_append]
  exact .inr (.inr (controls_subset_controls_gather hplace _ hcontrol))

/-- The list of choices of a union is rendered with it. -/
theorem unionChoice_subset_controls {info : NodeInfo} {members : List ParamNode}
    (h : renderNode ctx condition group (.union info members) = .ok entries) :
    Entry.controls (unionChoice info members condition) ⊆ Entry.controls entries := by
  simp only [renderNode] at h
  split at h
  · cases h
    exact List.Subset.refl _
  · simp only [bind_eq_ok_iff, pure_eq_ok_iff] at h
    obtain ⟨others, -, placed, -, rfl⟩ := h
    rw [Entry.controls_append]
    exact List.subset_append_left _ _

/-- What is unfolded in one step is rendered inside. -/
theorem UnfoldStep.renderedInside {outer inner : ParamNode}
    (hstep : UnfoldStep ctx.expandRecords outer inner)
    (h : renderNode ctx condition group outer = .ok entries) :
    RenderedInside ctx condition entries inner := by
  cases hstep with
  | field hexpands hpart => exact renderedInside_of_mem_fields hexpands hpart h
  | arm hplain harm hexpands hpart =>
    obtain ⟨place, content, hcontent, hsubset⟩ :=
      exists_renderNode_arm hplain harm hexpands hpart h
    exact ⟨_, place, content, hcontent, Condition.subset_merge_left _ _, hsubset⟩

/-- What is unfolded from a rendered node is rendered inside of it. -/
theorem Unfolds.renderedInside {outer inner : ParamNode}
    (hunfolds : Unfolds ctx.expandRecords outer inner)
    (h : renderNode ctx condition group outer = .ok entries) :
    RenderedInside ctx condition entries inner := by
  -- on the steps, the first of which leads to a node that is rendered under a longer condition
  induction hunfolds using Relation.ReflTransGen.head_induction_on
    generalizing condition group entries with
  | refl => exact ⟨condition, group, entries, h, List.Subset.refl _, List.Subset.refl _⟩
  | head hstep _ ih =>
    obtain ⟨mid, place, content, hcontent, hclauses, hcontrols⟩ := hstep.renderedInside h
    obtain ⟨own, place', last, hlast, hclauses', hcontrols'⟩ := ih hcontent
    exact ⟨own, place', last, hlast, List.Subset.trans hclauses hclauses',
      List.Subset.trans hcontrols' hcontrols⟩

/-- A control of a rendered node asks what is asked for the node. -/
theorem clauses_subset_of_renderNode {node : ParamNode}
    (h : renderNode ctx condition group node = .ok entries) :
    ∀ control ∈ Entry.controls entries, condition.clauses ⊆ control.condition.clauses := by
  intro control hcontrol
  have henclosed := (EnclosedBy.renderInvariant ctx).holds node h
  exact henclosed.subset control (List.mem_of_mem_filter hcontrol)

end Rendered

/-! ## Unions branch -/

/-- A union has a list of choices, or it is no choice of types and its only member is a union. -/
def ParamNode.Branches : ParamNode → Prop
  | union info members =>
    hasDiscriminator members = true ∨
      info.typeDescriptor = false ∧ ∃ only, members = [only] ∧ only.isUnion = true
  | _ => True

/-- A wired union of several members has a list of choices. -/
theorem hasDiscriminator_of_wired {info : NodeInfo} {members : List ParamNode}
    (hwired : Wired (.union info members)) (hseveral : 1 < members.length) :
    ParamNode.hasDiscriminator members = true := by
  rcases hwired with _ | _ | _ | _ | ⟨hlabels, -⟩
  rw [ParamNode.hasDiscriminator, selectable_eq_self hlabels]
  exact decide_eq_true hseveral

/-- A wired union that is no choice of types branches, if its only member is a union. -/
theorem branches_of_wired {info : NodeInfo} {members : List (ParamNode × TypeId)}
    (hwired : Wired (.union info (members.map Prod.fst))) (hplain : info.typeDescriptor = false)
    (hnonempty : members ≠ []) (hsole : ∀ only, members = [only] → only.1.isUnion = true) :
    ParamNode.Branches (.union info (members.map Prod.fst)) := by
  rcases members with _ | ⟨only, _ | ⟨_, _⟩⟩
  · exact absurd rfl hnonempty
  · exact .inr ⟨hplain, only.1, rfl, hsole only rfl⟩
  · exact .inl (hasDiscriminator_of_wired hwired (by simp))

/-- A tree whose root a rule puts there branches at its root. -/
theorem Introduced.branches {types : TypeGraph} {tree : ParamNode} (h : Introduced types tree) :
    tree.Branches := by
  cases h with
  | flat htree =>
    have hform := flatForm_of_flatNode htree
    have hwired := (rooted_of_flatForm hform).wired
    cases hform with
    | typeChoice _ _ hseveral _ =>
      refine .inl (hasDiscriminator_of_wired hwired ?_)
      rwa [List.length_map, List.length_zipIdx]
    | _ => trivial
  | closedRecord slot recordName => trivial
  | openRecord hkind hfunded hfields => trivial
  | openUnion henter hchoice hmembers hnonempty hsole =>
    have hrooted := (Classifies.openUnion henter hchoice hmembers hnonempty hsole).rooted _ rfl
    exact branches_of_wired hrooted.wired rfl hnonempty hsole

/-- Unions in derived trees branch; labels and conditions do not touch this. -/
theorem holdsOfDerived_branches (types : TypeGraph) :
    HoldsOfDerived types ParamNode.Branches where
  root hroot := hroot.branches
  member {node} label condition hnode := by
    cases node with
    | union info members => exact hnode
    | _ => trivial
  option _ _ _ := trivial

/-- All unions in a derived tree branch. -/
theorem Classifies.forall_mem_walk_branches {types : TypeGraph} {type : TypeId} {slot : Slot}
    {active : List TypeId} {budget left : Budget} {tree : ParamNode}
    (h : Classifies types type slot active budget (some tree) left) :
    ∀ node ∈ tree.walk, node.Branches :=
  h.forall_mem_walk (holdsOfDerived_branches types) tree rfl

/-! ## Nothing is rendered to nothing -/

/-- A list that has all members of another one is not empty unless the other one is. -/
theorem ne_nil_of_subset {α : Type} {l l' : List α} (hsubset : l ⊆ l') (h : l ≠ []) : l' ≠ [] := by
  obtain ⟨a, ha⟩ := List.exists_mem_of_ne_nil l h
  exact List.ne_nil_of_mem (hsubset ha)

/-- A union with a list of choices is rendered to it. -/
theorem controls_unionChoice_ne_nil {info : NodeInfo} {members : List ParamNode}
    {condition : Condition} (h : ParamNode.hasDiscriminator members = true) :
    Entry.controls (unionChoice info members condition) ≠ [] := by
  rw [unionChoice, if_pos h]
  exact List.cons_ne_nil _ _

/-- That a tree whose unions branch is rendered to some control is kept by each way of rendering a
node. -/
theorem renderInvariant_controls_ne_nil (ctx : FormContext) :
    RenderInvariant ctx fun _ _ node entries =>
      (∀ below ∈ node.walk, below.Branches) → Entry.controls entries ≠ [] where
  leaf := fun _ hentry _ => by
    rw [Entry.controls_singleton (leafEntry_stands hentry).isControl]
    exact List.cons_ne_nil _ _
  closedRecord := fun _ _ => by
    rw [Entry.controls_singleton (opaqueEntry_stands _ _).isControl]
    exact List.cons_ne_nil _ _
  emptyRecord := fun _ _ => by
    rw [Entry.controls_append, Entry.controls_singleton (opaqueEntry_stands _ _).isControl]
    exact List.append_ne_nil_of_right_ne_nil _ (List.cons_ne_nil _ _)
  openRecord := fun {condition group info recordName parentPath fields entries} _ hfull hfields
      hbranches => by
    obtain ⟨-, hparts⟩ := ParamNode.forall_mem_walk_iff.1 hbranches
    -- one field is enough, and its controls are gathered with the others
    obtain ⟨field, hfield⟩ := List.exists_mem_of_ne_nil fields hfull
    have hplace : (⟨groupSegment group field.value, entries field⟩ : Placed) ∈
        fields.map fun field => ⟨groupSegment group field.value, entries field⟩ :=
      List.mem_map.2 ⟨field, hfield, rfl⟩
    rw [Entry.controls_append]
    apply List.append_ne_nil_of_right_ne_nil
    exact ne_nil_of_subset (controls_subset_controls_gather hplace _)
      (hfields field hfield (hparts field hfield))
  typeChoice := fun htype hbranches => by
    obtain ⟨hroot, -⟩ := ParamNode.forall_mem_walk_iff.1 hbranches
    rcases hroot with hchoice | ⟨hplain, -⟩
    · exact controls_unionChoice_ne_nil hchoice
    -- the other way to branch is open only to unions that are no choice between types
    · rw [htype] at hplain
      cases hplain
  union := fun {condition _ info members entries arms} _ hothers harms hbranches => by
    obtain ⟨hroot, hparts⟩ := ParamNode.forall_mem_walk_iff.1 hbranches
    rw [Entry.controls_append]
    rcases hroot with hchoice | ⟨-, only, rfl, hunion⟩
    · apply List.append_ne_nil_of_left_ne_nil
      exact controls_unionChoice_ne_nil hchoice
    · -- the only member is a union, which is rendered by itself
      have hflat : only.expands ctx.expandRecords = false := by
        cases only with
        | union => rfl
        | _ => cases hunion
      have hrendered := hothers only List.mem_cons_self hflat (hparts only List.mem_cons_self)
      apply List.append_ne_nil_of_right_ne_nil
      refine ne_nil_of_subset (fun control hcontrol => ?_) hrendered
      rw [(controls_spliceArms_perm _ _).mem_iff, flatMap_otherEntries]
      refine List.mem_append_left _ (List.mem_flatMap.2 ⟨only, List.mem_cons_self, ?_⟩)
      rwa [hflat]
  map := fun _ => by
    rw [Entry.controls_append, Entry.controls_singleton (mapEntry_stands _ _ _).isControl]
    exact List.append_ne_nil_of_right_ne_nil _ (List.cons_ne_nil _ _)
  array := fun _ => by
    rw [Entry.controls_append, Entry.controls_singleton (arrayEntry_stands _ _ _).isControl]
    exact List.append_ne_nil_of_right_ne_nil _ (List.cons_ne_nil _ _)

end SignatureForms
