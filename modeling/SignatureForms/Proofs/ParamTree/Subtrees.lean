import SignatureForms.Proofs.ParamTree.Labels

/-!
# Nodes inside derived trees

Every node inside a derived tree is derived itself: as a field, or as the member of a union, which
only adds a label and a condition, unless it is an option of a choice of types. So a property that
derived trees have at their roots, and that labels and conditions do not touch, holds of all nodes
inside them.

The module introduces:

* `ParamNode.parts` — the fields of a record and the members of a union;
* `Introduced types tree` — one of the rules puts the root of the tree there;
* `HoldsOfDerived types P` — the property `P` holds of such trees, is not touched by labels and
  conditions, and holds of the options of choices of types.

## Main results

* `Classifies.forall_mem_walk`: such a property holds of all nodes inside a derived tree.
-/

namespace SignatureForms

/-! ## Parts of a node -/

namespace ParamNode

/-- The fields of a record and the members of a union. -/
def parts : ParamNode → List ParamNode
  | record _ _ _ fields => fields
  | union _ members => members
  | _ => []

/-- A tree is walked from its root through its parts. -/
theorem walk_eq_cons (node : ParamNode) : node.walk = node :: walkAll node.parts := by
  cases node <;> rfl

@[simp]
theorem parts_asMember (label : String) (condition : Condition) (node : ParamNode) :
    (node.asMember label condition).parts = node.parts := by
  cases node <;> rfl

@[simp]
theorem parts_withInfo (node : ParamNode) (info : NodeInfo) :
    (node.withInfo info).parts = node.parts := by
  cases node <;> rfl

theorem mem_walkAll {nodes : List ParamNode} {below : ParamNode} :
    below ∈ walkAll nodes ↔ ∃ node ∈ nodes, below ∈ node.walk := by
  induction nodes with
  | nil => simp [walkAll]
  | cons node rest ih => simp [walkAll, ih]

/-- What holds of all nodes of a tree holds of its root and of all nodes of its parts. -/
theorem forall_mem_walk_iff {P : ParamNode → Prop} {tree : ParamNode} :
    (∀ node ∈ tree.walk, P node) ↔ P tree ∧ ∀ part ∈ tree.parts, ∀ node ∈ part.walk, P node := by
  rw [walk_eq_cons, List.forall_mem_cons]
  apply and_congr_right
  intro _
  constructor
  · intro hall part hpart node hnode
    exact hall node (mem_walkAll.2 ⟨part, hpart, hnode⟩)
  · intro hall node hnode
    obtain ⟨part, hpart, hnode⟩ := mem_walkAll.1 hnode
    exact hall part hpart node hnode

end ParamNode

/-! ## Properties of derived trees -/

/-- One of the rules puts the root of the tree there. The other rules pass a node on that they are
given, or give none. -/
inductive Introduced (types : TypeGraph) : ParamNode → Prop
  | flat {type : TypeId} {slot : Slot} {tree : ParamNode}
      (htree : flatNode types (types.descriptor type) slot = some tree) : Introduced types tree
  | closedRecord (slot : Slot) (recordName : String) :
      Introduced types (.record slot.info recordName slot.fieldsPath [])
  | openRecord {type : TypeId} {slot : Slot} {active : List TypeId} {budget left : Budget}
      {nodes : List ParamNode} (hkind : types.kind type = .record)
      (hfunded : budget.exhausted = false)
      (hfields : ClassifiesFields types slot.fieldsPath slot.required active
        (types.descriptor type).fields 0 budget nodes left) :
      Introduced types (.record slot.info (recordDisplayName (types.descriptor type) slot.name)
        slot.fieldsPath nodes)
  | openUnion {type : TypeId} {slot : Slot} {active : List TypeId} {budget left : Budget}
      {members : List (ParamNode × TypeId)} (henter : EntersUnion types type active budget)
      (hchoice : OffersChoice (unionCandidates types [] (types.descriptor type).members))
      (hmembers : ClassifiesMembers types (slot.ofUnion types (types.descriptor type).members)
        (type :: active) (unionCandidates types [] (types.descriptor type).members) 0 budget
        members left)
      (hnonempty : members ≠ [])
      (hsole : ∀ only, members = [only] → only.1.isUnion = true) :
      Introduced types (.union (slot.ofUnion types (types.descriptor type).members).info
        (members.map Prod.fst))

/-- The property `P` holds of every tree whose root a rule puts there, is not touched by labels and
conditions, and holds of the options of choices of types. -/
structure HoldsOfDerived (types : TypeGraph) (P : ParamNode → Prop) : Prop where
  /-- The property holds of every tree whose root a rule puts there. -/
  root : ∀ {tree : ParamNode}, Introduced types tree → P tree
  /-- A node with the property keeps it as the member of a union. -/
  member : ∀ {node : ParamNode} (label : String) (condition : Condition),
    P node → P (node.asMember label condition)
  /-- The options of choices of types have the property. -/
  option : ∀ (place : Slot) (position : Nat) (option : String × Kind),
    P (typeMember place position option)

section Derived

variable {types : TypeGraph} {P : ParamNode → Prop}

/-- Becoming the member of a union touches no node inside. -/
theorem HoldsOfDerived.asMember (hP : HoldsOfDerived types P) {node : ParamNode}
    (h : ∀ below ∈ node.walk, P below) (label : String) (condition : Condition) :
    ∀ below ∈ (node.asMember label condition).walk, P below := by
  rw [ParamNode.forall_mem_walk_iff] at h ⊢
  rw [ParamNode.parts_asMember]
  exact ⟨hP.member label condition h.1, h.2⟩

/-- The parts of a node below which nothing is unfolded are options of a choice of types. -/
theorem forall_mem_parts_of_flatForm (hP : HoldsOfDerived types P) {slot : Slot} {tree : ParamNode}
    (h : FlatForm slot tree) : ∀ part ∈ tree.parts, ∀ below ∈ part.walk, P below := by
  cases h with
  | leaf _ => exact List.forall_mem_nil _
  | map _ => exact List.forall_mem_nil _
  | array _ => exact List.forall_mem_nil _
  | typeChoice _ _ _ _ =>
    intro part hpart below hbelow
    obtain ⟨⟨option, position⟩, -, rfl⟩ := List.mem_map.1 hpart
    obtain rfl := List.mem_singleton.1 hbelow
    exact hP.option _ position option

mutual

/-- A property of derived trees holds of all nodes inside a tree that is derived. -/
theorem Classifies.forall_mem_walk (hP : HoldsOfDerived types P) {type : TypeId} {slot : Slot}
    {active : List TypeId} {budget left : Budget} {node : Option ParamNode} :
    Classifies types type slot active budget node left →
      ∀ tree ∈ node, ∀ below ∈ ParamNode.walk tree, P below
  | .flat _ _ => by
    intro tree htree
    exact ParamNode.forall_mem_walk_iff.2
      ⟨hP.root (.flat htree), forall_mem_parts_of_flatForm hP (flatForm_of_flatNode htree)⟩
  | .closedRecord _ _ => by
    rintro _ ⟨⟩
    exact ParamNode.forall_mem_walk_iff.2
      ⟨hP.root (.closedRecord slot _), List.forall_mem_nil _⟩
  | .openRecord hkind hfunded hfields => by
    rintro _ ⟨⟩
    exact ParamNode.forall_mem_walk_iff.2
      ⟨hP.root (.openRecord hkind hfunded hfields), hfields.forall_mem_walk hP⟩
  | .closedUnion _ _ => nofun
  | .emptyUnion _ _ => nofun
  | .soleCandidate _ _ _ hnode => hnode.forall_mem_walk hP
  | .absentChoice _ _ _ => nofun
  | .survivor _ _ _ _ hnode => hnode.forall_mem_walk hP
  | .openUnion henter hchoice hmembers hnonempty hsole => by
    rintro _ ⟨⟩
    refine ParamNode.forall_mem_walk_iff.2
      ⟨hP.root (.openUnion henter hchoice hmembers hnonempty hsole), fun part hpart => ?_⟩
    obtain ⟨member, hmember, rfl⟩ := List.mem_map.1 hpart
    exact hmembers.forall_mem_walk hP member hmember

/-- A property of derived trees holds of all nodes inside fields that are derived. -/
theorem ClassifiesFields.forall_mem_walk (hP : HoldsOfDerived types P) {path : String}
    {required : Bool} {active : List TypeId} {fields : List Field} {position : Nat}
    {budget left : Budget} {nodes : List ParamNode} :
    ClassifiesFields types path required active fields position budget nodes left →
      ∀ node ∈ nodes, ∀ below ∈ node.walk, P below
  | .done => nofun
  | .unsupported _ _ hrest => hrest.forall_mem_walk hP
  | .cut _ _ _ => nofun
  | .absent _ _ _ _ hrest => hrest.forall_mem_walk hP
  | .present _ _ _ hnode hrest =>
    List.forall_mem_cons.2 ⟨hnode.forall_mem_walk hP _ rfl, hrest.forall_mem_walk hP⟩

/-- A property of derived trees holds of all nodes inside members that are derived: these were
derived before they got their labels and conditions. -/
theorem ClassifiesMembers.forall_mem_walk (hP : HoldsOfDerived types P) {slot : Slot}
    {inside : List TypeId} {candidates : List Candidate} {position : Nat} {budget left : Budget}
    {members : List (ParamNode × TypeId)} :
    ClassifiesMembers types slot inside candidates position budget members left →
      ∀ member ∈ members, ∀ below ∈ member.1.walk, P below
  | .done => nofun
  | .absent _ hrest => hrest.forall_mem_walk hP
  | .present hnode hrest =>
    List.forall_mem_cons.2
      ⟨hP.asMember (hnode.forall_mem_walk hP _ rfl) _ _, hrest.forall_mem_walk hP⟩

end

end Derived

end SignatureForms
