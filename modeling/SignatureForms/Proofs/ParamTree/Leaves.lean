import SignatureForms.Proofs.ParamTree.Wiring
import SignatureForms.Proofs.Steps

/-!
# Leaves of classified trees

A form has inputs for some kinds only, and a leaf may not have the kind of a composite. This module
says which kinds classification gives to the leaves that a form asks for: those with an input and,
where a type descriptor offers one type only, the kind of that type, whatever it is.

The module introduces:

* `ParamNode.leaves node` — the leaves of a tree, other than the options of a choice of types;
* `OffersAlone types kind` — some type descriptor offers one type only, which is of the kind;
* `Offerable types node` — the tree has a shape that classification gives.

## Main results

* `Classifies.offerable`: a tree that is derived is offerable;
* `offerable_of_classifyParameters`: so are the trees of the parameters of an operation;
* `exists_classifyParameters`: where fields and parameters are named, there is an outcome.
-/

namespace SignatureForms

/-! ## Leaves -/

namespace ParamNode

mutual

/-- The leaves of a tree, other than the options of a choice of types. -/
def leaves : ParamNode → List ParamNode
  | simple info kind => [simple info kind]
  | record _ _ _ fields => leavesAll fields
  | union info members => if info.typeDescriptor then [] else leavesAll members
  | map .. => []
  | array .. => []

/-- The leaves of several trees in turn. -/
def leavesAll : List ParamNode → List ParamNode
  | [] => []
  | node :: rest => leaves node ++ leavesAll rest

end

theorem leavesAll_eq_flatMap (nodes : List ParamNode) : leavesAll nodes = nodes.flatMap leaves := by
  induction nodes with
  | nil => rfl
  | cons node rest ih => rw [leavesAll, ih, List.flatMap_cons]

/-- The leaves of several trees are those of each of them. -/
theorem mem_leavesAll {nodes : List ParamNode} {leaf : ParamNode} :
    leaf ∈ leavesAll nodes ↔ ∃ node ∈ nodes, leaf ∈ node.leaves := by
  rw [leavesAll_eq_flatMap, List.mem_flatMap]

/-- The leaves of a node are among those of a list that it is in. -/
theorem leaves_subset_leavesAll {node : ParamNode} {nodes : List ParamNode} (h : node ∈ nodes) :
    node.leaves ⊆ leavesAll nodes :=
  fun _ hleaf => mem_leavesAll.2 ⟨node, h, hleaf⟩

end ParamNode

/-! ## Offerable trees -/

/-- A form has an input for leaves of the kind. -/
def Kind.hasInput : Kind → Bool
  | string | xml | json | anydata | int | decimal | float | boolean => true
  | _ => false

theorem Kind.isComposite_eq_false_of_hasInput {kind : Kind} (h : kind.hasInput = true) :
    kind.isComposite = false := by
  cases kind <;> first | rfl | cases h

/-- The constraint of some type descriptor is a union that offers one type only, which is of the
kind. -/
def OffersAlone (types : TypeGraph) (kind : Kind) : Prop :=
  ∃ type id label, types.kind type = .typedesc ∧ (types.descriptor type).constraint = some id ∧
    types.kind id = .union ∧ typeOptions types [] (types.descriptor id).members = [(label, kind)]

/-- The kind is one that a leaf can have. -/
def LeafKind (types : TypeGraph) (kind : Kind) : Prop :=
  kind.hasInput = true ∨ kind.isComposite = true ∧ OffersAlone types kind

theorem LeafKind.offersAlone {types : TypeGraph} {kind : Kind} (h : LeafKind types kind)
    (hcomposite : kind.isComposite = true) : OffersAlone types kind := by
  rcases h with hinput | ⟨-, halone⟩
  · rw [Kind.isComposite_eq_false_of_hasInput hinput] at hcomposite
    cases hcomposite
  · exact halone

/-- The tree has a shape that classification gives: each leaf has a kind that a leaf can have, apart
from the options of a choice of types, below which there is nothing. -/
inductive Offerable (types : TypeGraph) : ParamNode → Prop
  | simple {info : NodeInfo} {kind : Kind} (hkind : LeafKind types kind) :
      Offerable types (.simple info kind)
  | map (info : NodeInfo) (shape : MapShape) : Offerable types (.map info shape)
  | array (info : NodeInfo) (shape : ArrayShape) : Offerable types (.array info shape)
  | record {info : NodeInfo} {recordName parentPath : String} {fields : List ParamNode}
      (hfields : ∀ field ∈ fields, Offerable types field) :
      Offerable types (.record info recordName parentPath fields)
  | typeChoice {info : NodeInfo} {members : List ParamNode} (htype : info.typeDescriptor = true)
      (hmembers : ∀ member ∈ members, ∃ place kind, member = .simple place kind) :
      Offerable types (.union info members)
  | union {info : NodeInfo} {members : List ParamNode} (hplain : info.typeDescriptor = false)
      (hmembers : ∀ member ∈ members, Offerable types member) :
      Offerable types (.union info members)

namespace Offerable

variable {types : TypeGraph} {node : ParamNode}

/-- Each leaf has a kind that a leaf can have. -/
theorem leafKind_of_mem_leaves (h : Offerable types node) :
    ∀ leaf ∈ node.leaves, LeafKind types leaf.kind := by
  induction h with
  | simple hkind => exact List.forall_mem_singleton.2 hkind
  | map | array => nofun
  | record hfields ih =>
    intro leaf hleaf
    obtain ⟨field, hfield, hmem⟩ := ParamNode.mem_leavesAll.1 hleaf
    exact ih field hfield leaf hmem
  | typeChoice htype hmembers =>
    rw [ParamNode.leaves, if_pos htype]
    nofun
  | union hplain hmembers ih =>
    rw [ParamNode.leaves, if_neg (by simp [hplain])]
    intro leaf hleaf
    obtain ⟨member, hmember, hmem⟩ := ParamNode.mem_leavesAll.1 hleaf
    exact ih member hmember leaf hmem

/-- All that nodes share may change, other than that the value is a type. -/
theorem withInfo (h : Offerable types node) {info : NodeInfo}
    (htype : info.typeDescriptor = node.info.typeDescriptor) :
    Offerable types (node.withInfo info) := by
  cases h with
  | simple hkind => exact .simple hkind
  | map => exact .map _ _
  | array => exact .array _ _
  | record hfields => exact .record hfields
  | typeChoice hchoice hmembers => exact .typeChoice (htype.trans hchoice) hmembers
  | union hplain hmembers => exact .union (htype.trans hplain) hmembers

/-- A tree stays offerable as a member of a union. -/
theorem asMember (h : Offerable types node) (label : String) (condition : Condition) :
    Offerable types (node.asMember label condition) := by
  cases node with
  | record info recordName parentPath fields =>
    rcases h with _ | _ | _ | hfields
    exact .record hfields
  | simple => exact h.withInfo rfl
  | map => exact h.withInfo rfl
  | array => exact h.withInfo rfl
  | union => exact h.withInfo rfl

end Offerable

/-! ## Derivations give offerable trees -/

/-- A kind is that of a leaf if it is none of the four composites. -/
theorem Kind.isComposite_eq_false_iff {kind : Kind} :
    kind.isComposite = false ↔
      kind ≠ .record ∧ kind ≠ .map ∧ kind ≠ .array ∧ kind ≠ .union := by
  cases kind <;> simp [isComposite]

/-- The supported kinds that have no rule of their own have an input. -/
theorem Kind.hasInput_of_supported? {kind found : Kind} (h : kind.supported? = some found)
    (hcomposite : kind.isComposite = false) (hnil : kind ≠ .nil) (htypedesc : kind ≠ .typedesc) :
    found.hasInput = true := by
  cases kind <;> first | contradiction | (cases h; rfl)

/-- An option of a type descriptor is entered as a value of its kind, unless that is a
composite. -/
theorem hasInput_or_isComposite_of_mem_typeOptions {types : TypeGraph} {members : List TypeId}
    {option : String × Kind} (h : option ∈ typeOptions types [] members) :
    option.2.hasInput = true ∨ option.2.isComposite = true := by
  refine forall_mem_typeOptions (P := fun option => option.2.hasInput = true ∨
    option.2.isComposite = true) (fun {member position option} hoption => ?_) (by simp) option h
  simp only [typeOption?] at hoption
  split at hoption
  · cases hoption
    exact .inl rfl
  · cases hoption
  · cases hoption
  · next hrecord hnil htypedesc =>
    obtain ⟨kind, hsupported, rfl⟩ := Option.map_eq_some_iff.1 hoption
    cases hcomposite : (types.descriptor member).kind.isComposite with
    | false => exact .inl (Kind.hasInput_of_supported? hsupported hcomposite hnil htypedesc)
    | true =>
      rw [Kind.supported?] at hsupported
      split at hsupported
      · cases hsupported
        exact .inr hcomposite
      · cases hsupported

/-- A choice of types is offerable: with one option it is a leaf of the kind of this option. -/
theorem offerable_of_classifyTypeUnion {types : TypeGraph} {members : List TypeId} {slot : Slot}
    {node : ParamNode} (h : classifyTypeUnion types members slot = some node)
    (halone : ∀ label kind, typeOptions types [] members = [(label, kind)] →
      OffersAlone types kind) : Offerable types node := by
  simp only [classifyTypeUnion] at h
  split at h
  · cases h
  · next label kind hoptions =>
    cases h
    have hmem : (label, kind) ∈ typeOptions types [] members := by simp [hoptions]
    exact .simple ((hasInput_or_isComposite_of_mem_typeOptions hmem).imp_right fun hcomposite =>
      ⟨hcomposite, halone label kind hoptions⟩)
  · cases h
    refine .typeChoice rfl fun member hmember => ?_
    obtain ⟨⟨option, position⟩, -, rfl⟩ := List.mem_map.1 hmember
    exact ⟨_, _, rfl⟩

/-- What a type descriptor within a constraint becomes is offerable. -/
theorem offerable_of_classifyTypeDescriptor {types : TypeGraph} {type : TypeId}
    (hkind : types.kind type = .typedesc) {slot : Slot} {node : ParamNode}
    (h : classifyTypeDescriptor types (types.descriptor type).constraint slot = some node) :
    Offerable types node := by
  unfold classifyTypeDescriptor at h
  split at h
  · cases h
  · next id hconstraint =>
    dsimp only at h
    split at h
    · next hunion =>
      exact offerable_of_classifyTypeUnion h fun label kind hoptions =>
        ⟨type, id, label, hkind, hconstraint, hunion, hoptions⟩
    · cases h
      exact .simple (.inl rfl)
    · cases h
      exact .simple (.inl rfl)
    · cases h
    · cases h
    · cases h
    · cases h
    · next hunion hrecord hanydata htypedesc hnil hmap harray =>
      obtain ⟨kind, hsupported, rfl⟩ := Option.map_eq_some_iff.1 h
      exact .simple (.inl (Kind.hasInput_of_supported? hsupported
        (Kind.isComposite_eq_false_iff.2 ⟨hrecord, hmap, harray, hunion⟩) hnil htypedesc))

/-- A node below which nothing is unfolded is offerable. -/
theorem offerable_of_flatNode {types : TypeGraph} {type : TypeId}
    (hunion : types.kind type ≠ .union) (hrecord : types.kind type ≠ .record) {slot : Slot}
    {node : ParamNode} (h : flatNode types (types.descriptor type) slot = some node) :
    Offerable types node := by
  rw [flatNode] at h
  split at h
  · cases h
    exact .map _ _
  · cases h
    exact .array _ _
  · next htypedesc => exact offerable_of_classifyTypeDescriptor htypedesc h
  · cases h
  · next hmap harray htypedesc hnil =>
    obtain ⟨kind, hsupported, rfl⟩ := Option.map_eq_some_iff.1 h
    exact .simple (.inl (Kind.hasInput_of_supported? hsupported
      (Kind.isComposite_eq_false_iff.2 ⟨hrecord, hmap, harray, hunion⟩) hnil htypedesc))

mutual

/-- A tree that is derived is offerable. -/
theorem Classifies.offerable {types : TypeGraph} {type : TypeId} {slot : Slot}
    {active : List TypeId} {budget left : Budget} {node : Option ParamNode} :
    Classifies types type slot active budget node left → ∀ tree ∈ node, Offerable types tree
  | .flat hunion hrecord => fun _ htree => offerable_of_flatNode hunion hrecord htree
  | .closedRecord _ _ => by
    rintro _ ⟨⟩
    exact .record (by simp)
  | .openRecord _ _ hfields => by
    rintro _ ⟨⟩
    exact .record hfields.offerable
  | .closedUnion _ _ => nofun
  | .emptyUnion _ _ => nofun
  | .soleCandidate _ _ _ hnode => hnode.offerable
  | .absentChoice _ _ _ => nofun
  | .survivor _ _ _ _ hnode => hnode.offerable
  | .openUnion _ _ hmembers _ _ => by
    rintro _ ⟨⟩
    -- the union of several types is no choice of types: these come from type descriptors only
    refine .union rfl fun node hnode => ?_
    obtain ⟨member, hmember, rfl⟩ := List.mem_map.1 hnode
    exact hmembers.offerable member hmember

/-- The fields that are derived are offerable. -/
theorem ClassifiesFields.offerable {types : TypeGraph} {path : String} {required : Bool}
    {active : List TypeId} {fields : List Field} {position : Nat} {budget left : Budget}
    {nodes : List ParamNode} :
    ClassifiesFields types path required active fields position budget nodes left →
      ∀ node ∈ nodes, Offerable types node
  | .done => by simp
  | .unsupported _ _ hrest => hrest.offerable
  | .cut _ _ _ => by simp
  | .absent _ _ _ _ hrest => hrest.offerable
  | .present _ _ _ hnode hrest =>
    List.forall_mem_cons.2 ⟨hnode.offerable _ rfl, hrest.offerable⟩

/-- The members that are derived are offerable. -/
theorem ClassifiesMembers.offerable {types : TypeGraph} {slot : Slot} {inside : List TypeId}
    {candidates : List Candidate} {position : Nat} {budget left : Budget}
    {members : List (ParamNode × TypeId)} :
    ClassifiesMembers types slot inside candidates position budget members left →
      ∀ member ∈ members, Offerable types member.1
  | .done => by simp
  | .absent _ hrest => hrest.offerable
  | .present hnode hrest =>
    List.forall_mem_cons.2 ⟨(hnode.offerable _ rfl).asMember _ _, hrest.offerable⟩

end

/-! ## Operations -/

section Operations

variable {types : TypeGraph} {fieldBudget : Int}

/-- The tree of a parameter is offerable. -/
theorem offerable_of_classifyParameter {p : Parameter} {position : Int} {node : ParamNode}
    (h : classifyParameter types p position fieldBudget = .ok (some node)) :
    Offerable types node := by
  obtain ⟨-, derived, left, hderivation, default, rfl⟩ :=
    exists_classifies_of_classifyParameter h
  exact (hderivation.offerable derived rfl).withInfo rfl

/-- The trees of parameters are offerable. -/
theorem offerable_of_classifyParameters {parameters : List Parameter} {position : Nat}
    {params : List ParamNode}
    (h : classifyParameters types fieldBudget parameters position = .ok (.ok params)) :
    ∀ param ∈ params, Offerable types param := by
  induction parameters generalizing position params with
  | nil =>
    cases h
    nofun
  | cons p rest ih =>
    rw [classifyParameters] at h
    split at h
    · cases h
    · next node hnode =>
      split at h
      · cases h
      · next outcome hrest =>
        obtain ⟨more, hmore, rfl⟩ := map_eq_ok_iff.1 (Except.ok.inj h)
        rw [hmore] at hrest
        exact List.forall_mem_cons.2 ⟨offerable_of_classifyParameter hnode, ih hrest⟩
    · split at h
      · cases h
      · exact ih h

/-- Named parameters have an outcome where the fields of records are named. -/
theorem exists_classifyParameters (hnamed : FieldsNamed types) {parameters : List Parameter}
    (hparameters : ∀ p ∈ parameters, p.name ≠ "") (position : Nat) :
    ∃ outcome, classifyParameters types fieldBudget parameters position = .ok outcome := by
  induction parameters generalizing position with
  | nil => exact ⟨_, rfl⟩
  | cons p rest ih =>
    rw [List.forall_mem_cons] at hparameters
    obtain ⟨hp, hrest⟩ := hparameters
    obtain ⟨node, left, hnode⟩ :=
      exists_classify hnamed p.type position ⟨fieldBudget⟩ hp p.isRequired p.doc
    rw [classifyParameters, classifyParameter, hnode]
    cases node with
    | some node =>
      obtain ⟨outcome, houtcome⟩ := ih hrest (position + 1)
      dsimp only [Option.map]
      rw [houtcome]
      exact ⟨_, rfl⟩
    | none =>
      dsimp only [Option.map]
      split
      · exact ⟨_, rfl⟩
      · exact ih hrest position

end Operations

end SignatureForms
