import Mathlib.Algebra.GroupWithZero.Nat
import SignatureForms.Proofs.ParamTree.Labels

/-!
# Accounting of the expansion budget

Each node that a record holds as a field is paid for with one unit of the budget, and nothing else
is: a field without a node gets its unit back, a member that is dropped is not charged, and of a
single member that is built twice only the second build counts. A reservation that fails is not
given back, but a record fails at most once, and only after it has paid for a field.

The module introduces:

* `ParamNode.recordChildren tree` — how many nodes of `tree` are fields of a record of `tree`;
* `Spends budget left count slack` — `count` units were paid between `budget` and `left`, and at
  most `count + slack` reservations failed.

## Main results

* `Classifies.spends`: every derivation spends what its node holds;
* `exists_classify_accounting`: a parameter is classified with a finite derivation, and the units
  it pays are the fields in its tree.
-/

namespace SignatureForms

/-! ## Fields in a tree -/

namespace ParamNode

/-- How many fields the node itself holds; only records hold any. -/
def fieldCount : ParamNode → Nat
  | record _ _ _ fields => fields.length
  | _ => 0

/-- How many nodes of a tree are fields of a record of the tree. -/
def recordChildren (tree : ParamNode) : Nat :=
  (tree.walk.map fieldCount).sum

/-- The fields in several trees are those of each of them. -/
theorem sum_map_fieldCount_walkAll (nodes : List ParamNode) :
    ((walkAll nodes).map fieldCount).sum = (nodes.map recordChildren).sum := by
  induction nodes with
  | nil => rfl
  | cons node rest ih =>
    rw [walkAll, List.map_append, List.sum_append, ih]
    rfl

/-- A field counts once for itself and once for each field below it. -/
theorem length_add_sum_map_recordChildren (nodes : List ParamNode) :
    nodes.length + (nodes.map recordChildren).sum =
      (nodes.map fun node => 1 + node.recordChildren).sum := by
  induction nodes with
  | nil => rfl
  | cons node rest ih =>
    rw [List.map_cons, List.map_cons, List.sum_cons, List.sum_cons, List.length_cons, ← ih]
    omega

/-- A record holds its fields and what they hold. -/
theorem recordChildren_record (info : NodeInfo) (recordName parentPath : String)
    (fields : List ParamNode) :
    (record info recordName parentPath fields).recordChildren =
      (fields.map fun field => 1 + field.recordChildren).sum := by
  rw [recordChildren, walk, List.map_cons, List.sum_cons, sum_map_fieldCount_walkAll]
  exact length_add_sum_map_recordChildren fields

/-- A union holds what its members hold. -/
theorem recordChildren_union (info : NodeInfo) (members : List ParamNode) :
    (union info members).recordChildren = (members.map recordChildren).sum := by
  rw [recordChildren, walk, List.map_cons, List.sum_cons, sum_map_fieldCount_walkAll]
  exact Nat.zero_add _

/-- Becoming the member of a union does not change what a node holds. -/
@[simp]
theorem recordChildren_asMember (label : String) (condition : Condition) (node : ParamNode) :
    (node.asMember label condition).recordChildren = node.recordChildren := by
  cases node <;> simp only [asMember, withInfo, recordChildren_record, recordChildren_union] <;> rfl

end ParamNode

/-- A node below which nothing is unfolded holds no fields. -/
theorem recordChildren_of_flatForm {slot : Slot} {node : ParamNode} (hform : FlatForm slot node) :
    node.recordChildren = 0 := by
  cases hform with
  | leaf _ => rfl
  | map _ => rfl
  | array _ => rfl
  | typeChoice _ _ _ _ =>
    rw [ParamNode.recordChildren_union, List.map_map]
    rw [List.sum_eq_zero_iff_forall_eq_nat]
    intro count hcount
    obtain ⟨_, _, rfl⟩ := List.mem_map.1 hcount
    rfl

/-! ## Units and nodes -/

/-- How many fields the node of a type holds, if there is a node. -/
def fieldsOf (node : Option ParamNode) : Nat := (node.map ParamNode.recordChildren).getD 0

/-- Between `budget` and `left`, `count` units were paid, and at most `count + slack` reservations
failed. -/
structure Spends (budget left : Budget) (count slack : Nat) : Prop where
  /-- The units paid are those that are no longer there. -/
  paid : (count : Int) = max budget.remaining 0 - max left.remaining 0
  /-- What is missing below zero are reservations that failed. -/
  failed : min budget.remaining 0 ≤ min left.remaining 0 + count + slack

/-- The reservations that may fail on the fields of a record: none, as long as a unit is left for
the first of them. -/
def Budget.slack (budget : Budget) : Nat := if budget.exhausted then 1 else 0

namespace Spends

variable {budget mid left : Budget} {count more : Nat}

/-- Where nothing is taken, nothing is spent. -/
theorem refl (budget : Budget) (slack : Nat) : Spends budget budget 0 slack where
  paid := by omega
  failed := by omega

/-- A reservation that fails pays nothing. -/
theorem cut (hout : budget.exhausted = true) : Spends budget budget.taken 0 budget.slack := by
  have hempty : budget.remaining ≤ 0 := of_decide_eq_true hout
  rw [Budget.slack, hout, if_pos rfl]
  constructor <;> simp only [Budget.taken] <;> omega

/-- A field is paid with one unit, on top of what its own node and the fields after it spend. It
makes up for the reservation that may fail after it. -/
theorem field (hfunded : budget.exhausted = false) (hnode : Spends budget.taken mid count 0)
    (hrest : Spends mid left more mid.slack) :
    Spends budget left (1 + count + more) budget.slack := by
  have hunit : 0 < budget.remaining := Int.not_le.1 (of_decide_eq_false hfunded)
  have hslack : mid.slack ≤ 1 := by
    rw [Budget.slack]
    split <;> omega
  obtain ⟨hpaid, hfailed⟩ := hnode
  obtain ⟨hpaid', hfailed'⟩ := hrest
  rw [Budget.taken] at hpaid hfailed
  constructor <;> dsimp only at hpaid hfailed <;> omega

/-- Members spend one after the other. -/
theorem append (hnode : Spends budget mid count 0) (hrest : Spends mid left more 0) :
    Spends budget left (count + more) 0 := by
  obtain ⟨hpaid, hfailed⟩ := hnode
  obtain ⟨hpaid', hfailed'⟩ := hrest
  constructor <;> omega

end Spends

mutual

/-- A derivation for a type spends the fields of its node; without a node it leaves the budget as
it was. -/
theorem Classifies.spends {types : TypeGraph} {type : TypeId} {slot : Slot}
    {active : List TypeId} {budget left : Budget} {node : Option ParamNode} :
    Classifies types type slot active budget node left →
      Spends budget left (fieldsOf node) 0 ∧ (node = none → left = budget)
  | .flat _ _ => by
    have hnone : fieldsOf (flatNode types (types.descriptor type) slot) = 0 := by
      cases hnode : flatNode types (types.descriptor type) slot with
      | none => rfl
      | some node => exact recordChildren_of_flatForm (flatForm_of_flatNode hnode)
    rw [hnone]
    exact ⟨.refl budget 0, fun _ => rfl⟩
  | .closedRecord _ _ => ⟨.refl budget 0, fun _ => rfl⟩
  -- a record is entered with a unit left, so that its first field makes up for a failure
  | .openRecord _ hfunded hfields => by
    have hspends := hfields.spends
    rw [Budget.slack, hfunded] at hspends
    refine ⟨?_, by simp⟩
    rw [fieldsOf, Option.map_some, Option.getD_some, ParamNode.recordChildren_record]
    exact hspends
  | .closedUnion _ _ => ⟨.refl budget 0, fun _ => rfl⟩
  | .emptyUnion _ _ => ⟨.refl budget 0, fun _ => rfl⟩
  | .soleCandidate _ _ _ hnode => hnode.spends
  | .absentChoice _ _ hmembers => ⟨hmembers.spends.1, fun _ => hmembers.spends.2 rfl⟩
  -- the first build of a survivor is not charged, so only the second one counts
  | .survivor _ _ _ _ hnode => hnode.spends
  | .openUnion _ _ hmembers _ _ => by
    refine ⟨?_, by simp⟩
    rw [fieldsOf, Option.map_some, Option.getD_some, ParamNode.recordChildren_union, List.map_map]
    exact hmembers.spends.1

/-- A derivation for fields spends each node and the fields below it. -/
theorem ClassifiesFields.spends {types : TypeGraph} {path : String} {required : Bool}
    {active : List TypeId} {fields : List Field} {position : Nat} {budget left : Budget}
    {nodes : List ParamNode} :
    ClassifiesFields types path required active fields position budget nodes left →
      Spends budget left (nodes.map fun node => 1 + node.recordChildren).sum budget.slack
  | .done => .refl budget budget.slack
  | .unsupported _ _ hrest => hrest.spends
  | .cut _ _ hout => .cut hout
  -- a field without a node leaves the budget as its reservation did, which is taken back
  | .absent _ _ _ hnode hrest => by
    have hspends := hrest.spends
    rwa [hnode.spends.2 rfl, Budget.refund_taken] at hspends
  | .present _ _ hfunded hnode hrest => by
    rw [List.map_cons, List.sum_cons]
    exact .field hfunded hnode.spends.1 hrest.spends

/-- A derivation for candidates spends the fields of the members; without members it leaves the
budget as it was. -/
theorem ClassifiesMembers.spends {types : TypeGraph} {slot : Slot} {inside : List TypeId}
    {candidates : List Candidate} {position : Nat} {budget left : Budget}
    {members : List (ParamNode × TypeId)} :
    ClassifiesMembers types slot inside candidates position budget members left →
      Spends budget left (members.map (ParamNode.recordChildren ∘ Prod.fst)).sum 0 ∧
        (members = [] → left = budget)
  | .done => ⟨.refl budget 0, fun _ => rfl⟩
  | .absent _ hrest => hrest.spends
  | .present hnode hrest => by
    refine ⟨?_, by simp⟩
    rw [List.map_cons, List.sum_cons, Function.comp_apply, ParamNode.recordChildren_asMember]
    exact hnode.spends.1.append hrest.spends.1

end

/-! ## Parameters -/

/-- A parameter with a name is classified with a finite derivation, whatever cycles the types make
as long as the fields of records are named. Without a node the budget is as before; otherwise the
units that are gone are the fields in the tree, and no more reservations fail than there were
units. -/
theorem exists_classify_accounting {types : TypeGraph} (hnamed : FieldsNamed types)
    (type : TypeId) (position : Int) (limit : Nat) {name : String} (hname : name ≠ "")
    (required : Bool) (description : Option String) :
    ∃ node left,
      classify types type position ⟨limit⟩ name required description = .ok (node, left) ∧
      Classifies types type (.ofParameter position name required description) [] ⟨limit⟩ node
        left ∧
      (node = none → left.remaining = limit) ∧
      (∀ tree, node = some tree →
        (tree.recordChildren : Int) = limit - max left.remaining 0 ∧
          tree.recordChildren ≤ limit) ∧
      -(limit : Int) ≤ left.remaining := by
  obtain ⟨node, left, hrun⟩ :=
    exists_classify hnamed type position ⟨limit⟩ hname required description
  have hderivation := (classifies_of_classify hrun).2
  obtain ⟨⟨hpaid, hfailed⟩, hnone⟩ := hderivation.spends
  dsimp only at hpaid hfailed
  refine ⟨node, left, hrun, hderivation, ?_, ?_, ?_⟩
  · intro habsent
    rw [hnone habsent]
  · rintro tree rfl
    rw [fieldsOf, Option.map_some, Option.getD_some] at hpaid
    omega
  · omega

/-- A record with a field of its own type and a field that is a union of it and text. -/
def selfReferringTypes : TypeGraph where
  descriptors := #[
    { TypeDescriptor.ofKind .record (some "Tree") with
      fields := [⟨"next", 0, true, false, none⟩, ⟨"value", 1, false, false, none⟩] },
    { TypeDescriptor.ofKind .union none with members := [0, 2] },
    TypeDescriptor.ofKind .string none]

theorem exists_classify_accounting_selfReferring :
    FieldsNamed selfReferringTypes ∧ "root" ≠ "" ∧
      ∃ node left,
        classify selfReferringTypes 0 0 ⟨3⟩ "root" true none = .ok (node, left) ∧
        Classifies selfReferringTypes 0 (.ofParameter 0 "root" true none) [] ⟨3⟩ node left ∧
        (node = none → left.remaining = 3) ∧
        (∀ tree, node = some tree →
          (tree.recordChildren : Int) = 3 - max left.remaining 0 ∧ tree.recordChildren ≤ 3) ∧
        -3 ≤ left.remaining :=
  have hnamed : FieldsNamed selfReferringTypes := by decide
  ⟨hnamed, by decide, exists_classify_accounting hnamed 0 0 3 (by decide) true none⟩

end SignatureForms
