import SignatureForms.Proofs.Form.Visibility
import SignatureForms.Proofs.ParamTree.Arrangement
import SignatureForms.Proofs.ParamTree.Subtrees

/-!
# Choices in parameter trees

Two kinds of nodes are entered through a list of choices: a union, whose members are chosen by
their labels, and an array of unions, each row of which has a kind. This module shows that no choice
stands twice in a list, wherever the node stands in a classified tree, and that only a whole
parameter has a default to choose at first.

The module introduces:

* `ParamNode.choiceLabels members` — the labels among which a member of a union is chosen;
* `ParamNode.DistinctChoices` — the labels of a union, or the kinds of the rows of an array, are
  distinct;
* `ParamNode.Undecided` — the node is no union with a default.

## Main results

* `choices_of_classifyParameter`: the choices in the tree of a parameter are distinct, and no union
  below its root has a default.
-/

namespace SignatureForms

/-! ## Labels and kinds -/

namespace ParamNode

/-- The labels among which a member of a union is chosen. -/
def choiceLabels (members : List ParamNode) : List String :=
  (selectable members).zipIdx.map fun (member, position) => member.memberLabel position

/-- The labels of a union, or the kinds of the rows of an array of unions, are distinct. -/
def DistinctChoices : ParamNode → Prop
  | union _ members => (choiceLabels members).Nodup
  | array _ shape => (shape.memberKinds.map Kind.name).Nodup
  | _ => True

/-- The node is no union with a default. -/
def Undecided : ParamNode → Prop
  | union info _ => info.default = none
  | _ => True

/-- What all nodes share is not looked at for the choices. -/
theorem distinctChoices_withInfo {node : ParamNode} {info : NodeInfo} :
    (node.withInfo info).DistinctChoices ↔ node.DistinctChoices := by
  cases node <;> exact Iff.rfl

end ParamNode

/-- The word for a supported kind names just that kind. -/
theorem Kind.ofName_name {kind : Kind} (h : kind.isSupported = true) : ofName kind.name = kind := by
  cases kind <;> first | rfl | cases h

/-- Members that have labels, none of which is empty, are labelled by these. -/
theorem map_memberLabel_zipIdx {union : String} {labels : List String} {members : List ParamNode}
    {first : Nat}
    (harms : List.Forall₂ (fun entry node => IsArm union entry.1 entry.2 node)
      (labels.zipIdx first) members)
    (hnonempty : ∀ label ∈ labels, label ≠ "") (position : Nat) :
    ((members.zipIdx position).map fun (member, position) => member.memberLabel position) =
      labels := by
  induction labels generalizing members first position with
  | nil =>
    cases harms
    rfl
  | cons label rest ih =>
    rw [List.zipIdx_cons] at harms
    rw [List.forall_mem_cons] at hnonempty
    cases harms with
    | cons harm hrest =>
      rw [List.zipIdx_cons, List.map_cons, ih hrest hnonempty.2]
      exact congrArg (· :: rest) (memberLabel_of_label hnonempty.1 harm.label position)

/-- The members of a union are chosen by labels of which none stands twice. -/
theorem ArmsInOrder.nodup_choiceLabels {union : String} {labels : List String}
    {members : List ParamNode} (h : ArmsInOrder union labels members)
    (hselectable : ParamNode.selectable members = members) :
    (ParamNode.choiceLabels members).Nodup := by
  rw [ParamNode.choiceLabels, hselectable, map_memberLabel_zipIdx h.arms h.nonempty]
  exact h.distinct

section Types

variable {types : TypeGraph}

/-- The members of an arranged union are arranged. -/
theorem Arranged.exists_armsInOrder {type : TypeId} {node : ParamNode}
    (h : Arranged types type node) {info : NodeInfo} {members : List ParamNode}
    (hunion : node = .union info members) : ∃ labels, ArmsInOrder info.value labels members := by
  induction h with
  | union _ _ _ hmembers _ =>
    cases hunion
    exact ⟨_, hmembers⟩
  | replaced _ _ _ ih => exact ih hunion
  | choice _ hmembers _ =>
    cases hunion
    exact ⟨_, hmembers⟩
  | _ => cases hunion

/-- The members of a union that is arranged and wired are chosen by distinct labels. -/
theorem nodup_choiceLabels_of_arranged {type : TypeId} {info : NodeInfo} {members : List ParamNode}
    (harranged : Arranged types type (.union info members))
    (hwired : Wired (.union info members)) : (ParamNode.choiceLabels members).Nodup := by
  obtain ⟨labels, harms⟩ := harranged.exists_armsInOrder rfl
  rcases hwired with _ | _ | _ | _ | ⟨hlabels, -⟩
  exact harms.nodup_choiceLabels (selectable_eq_self hlabels)

/-- The kinds of the rows of an array of unions are supported and distinct. -/
theorem memberKinds_spec (types : TypeGraph) (members : List TypeId) :
    (∀ kind ∈ memberKinds types members, kind.isSupported = true) ∧
      (memberKinds types members).Nodup := by
  rw [memberKinds]
  refine List.foldlRecOn
    (motive := fun found : List Kind => (∀ kind ∈ found, kind.isSupported = true) ∧ found.Nodup)
    members _ ⟨List.forall_mem_nil _, List.nodup_nil⟩ ?_
  intro found hfound member _
  dsimp only
  split
  · exact hfound
  · next hkept =>
    simp only [Bool.or_eq_true, not_or, Bool.not_eq_true', Bool.not_eq_false,
      List.contains_iff_mem] at hkept
    obtain ⟨⟨-, hsupported⟩, hnew⟩ := hkept
    rw [List.forall_mem_append, List.forall_mem_singleton]
    refine ⟨⟨hfound.1, hsupported⟩, ?_⟩
    rw [← List.concat_eq_append]
    exact .concat hnew hfound.2

/-- The words for the kinds of the rows of an array of unions are distinct. -/
theorem nodup_name_memberKinds (members : List TypeId) :
    ((memberKinds types members).map Kind.name).Nodup := by
  obtain ⟨hsupported, hnodup⟩ := memberKinds_spec types members
  refine hnodup.map_on fun kind hkind kind' hkind' hname => ?_
  rw [← Kind.ofName_name (hsupported kind hkind), hname, Kind.ofName_name (hsupported kind' hkind')]

/-- No kind stands twice among those of the rows of an array. -/
theorem nodup_name_arrayShape (elementType : Option TypeId) :
    ((arrayShape types elementType).memberKinds.map Kind.name).Nodup := by
  unfold arrayShape
  split
  · exact List.nodup_nil
  · dsimp only
    split
    · split <;> exact List.nodup_nil
    · exact List.nodup_nil
    · exact nodup_name_memberKinds _
    · exact List.nodup_nil

end Types

/-! ## Derived trees -/

section Derived

variable {types : TypeGraph}

/-- A choice of types has distinct choices and no default. -/
theorem choices_of_classifyTypeUnion {members : List TypeId} {slot : Slot} {tree : ParamNode}
    (h : classifyTypeUnion types members slot = some tree) :
    tree.DistinctChoices ∧ tree.Undecided := by
  have harranged := (arranged_of_classifyTypeUnion 0 h).2
  have hwired := (rooted_of_flatForm (flatForm_of_classifyTypeUnion h)).wired
  simp only [classifyTypeUnion] at h
  -- one option is a leaf, and several are the members of a union
  split at h
  · cases h
  · cases h
    exact ⟨trivial, trivial⟩
  · cases h
    exact ⟨nodup_choiceLabels_of_arranged harranged hwired, rfl⟩

/-- A node below which nothing is unfolded has distinct choices and no default. -/
theorem choices_of_flatNode {d : TypeDescriptor} {slot : Slot} {tree : ParamNode}
    (h : flatNode types d slot = some tree) : tree.DistinctChoices ∧ tree.Undecided := by
  refine @flatNode_related types
    (fun node _ => ∀ tree ∈ node, tree.DistinctChoices ∧ tree.Undecided) slot slot
    ?absent ?map ?array ?leaf ?typeLeaf ?choice d tree h
  case absent => rintro _ ⟨⟩
  case map | leaf =>
    rintro _ _ ⟨⟩
    exact ⟨trivial, trivial⟩
  case typeLeaf =>
    rintro _ _ _ ⟨⟩
    exact ⟨trivial, trivial⟩
  case array =>
    rintro elementType _ ⟨⟩
    exact ⟨nodup_name_arrayShape elementType, trivial⟩
  case choice => exact fun members tree htree => choices_of_classifyTypeUnion htree

/-- A tree whose root a rule puts there has distinct choices and no default at its root. -/
theorem Introduced.choices {tree : ParamNode} (h : Introduced types tree) :
    tree.DistinctChoices ∧ tree.Undecided := by
  cases h with
  | flat htree => exact choices_of_flatNode htree
  | closedRecord slot recordName => exact ⟨trivial, trivial⟩
  | openRecord hkind hfunded hfields => exact ⟨trivial, trivial⟩
  | openUnion henter hchoice hmembers hnonempty hsole =>
    have hunion := Classifies.openUnion henter hchoice hmembers hnonempty hsole
    exact ⟨nodup_choiceLabels_of_arranged (hunion.arranged _ rfl).2 (hunion.rooted _ rfl).wired,
      rfl⟩

/-- Derived trees have distinct choices and no default at their roots, which labels and conditions
do not touch; the options of a choice of types are leaves. -/
theorem holdsOfDerived_choices (types : TypeGraph) :
    HoldsOfDerived types fun node => node.DistinctChoices ∧ node.Undecided where
  root hroot := hroot.choices
  member {node} label condition hnode := by cases node <;> exact hnode
  option _ _ _ := ⟨trivial, trivial⟩

/-- A parameter that becomes a union has the declared default at first. -/
theorem default_of_classifyParameter {p : Parameter} {position fieldBudget : Int}
    {info : NodeInfo} {members : List ParamNode}
    (h : classifyParameter types p position fieldBudget = .ok (some (.union info members))) :
    info.default = p.default.map defaultValue := by
  rw [classifyParameter] at h
  split at h
  · cases h
  · next derived left hrun =>
    obtain ⟨-, hderivation⟩ := classifies_of_classify hrun
    obtain ⟨tree, rfl, htree⟩ := Option.map_eq_some_iff.1 (Except.ok.inj h)
    -- the union that is derived has none
    have hundecided : tree.Undecided := (ParamNode.forall_mem_walk_iff.1
      (hderivation.forall_mem_walk (holdsOfDerived_choices types) tree rfl)).1.2
    cases hdefault : p.default with
    | none =>
      rw [hdefault] at htree
      subst htree
      exact hundecided
    | some written =>
      rw [hdefault] at htree
      cases tree with
      | union =>
        cases htree
        rfl
      | _ => cases htree

/-- All choices in the tree of a parameter are distinct, and no union below its root has a
default. -/
theorem choices_of_classifyParameter {p : Parameter} {position fieldBudget : Int} {node : ParamNode}
    (h : classifyParameter types p position fieldBudget = .ok (some node)) :
    (∀ below ∈ node.walk, below.DistinctChoices) ∧
      ∀ part ∈ node.parts, ∀ below ∈ part.walk, below.Undecided := by
  obtain ⟨-, derived, left, hderivation, default, rfl⟩ := exists_classifies_of_classifyParameter h
  obtain ⟨hroot, hparts⟩ := ParamNode.forall_mem_walk_iff.1
    (hderivation.forall_mem_walk (holdsOfDerived_choices types) derived rfl)
  rw [ParamNode.forall_mem_walk_iff, ParamNode.parts_withInfo, ParamNode.distinctChoices_withInfo]
  exact ⟨⟨hroot.1, fun part hpart below hbelow => (hparts part hpart below hbelow).1⟩,
    fun part hpart below hbelow => (hparts part hpart below hbelow).2⟩

end Derived

end SignatureForms
