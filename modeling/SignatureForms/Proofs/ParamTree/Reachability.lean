import Mathlib.Data.List.Basic
import Mathlib.Logic.Relation
import SignatureForms.Proofs.ParamTree.Correspondence

/-!
# What classification looks at

Classification looks at descriptors of types that can be reached from the type it is asked for, and
at whether such types are entered already. So it cannot tell apart two graphs, nor two lists of
entered unions, that agree on these types.

The module introduces:

* `TypeGraph.Reaches g a b` — a chain of mentions leads from `a` to `b`;
* `AgreesFrom types types' active active' type` — the graphs and the lists of entered unions agree
  on what `type` reaches.

## Main results

* `correspondence_of_agreesFrom`: types correspond to themselves where there is agreement;
* `classifyWithin_eq_of_agreesFrom`: then classification gives the same at every depth, errors
  included;
* `AgreesFrom.classifies_iff`: and what is derived is the same.
-/

namespace SignatureForms

/-- A chain of mentions leads from one type to another. -/
def TypeGraph.Reaches (g : TypeGraph) : TypeId → TypeId → Prop :=
  Relation.ReflTransGen fun a b => b ∈ (g.descriptor a).children

/-- From a set of types that mention no others only these are reached. -/
theorem TypeGraph.Reaches.mem_of_closed {g : TypeGraph} {known : List TypeId} {a b : TypeId}
    (hclosed : ∀ id ∈ known, (g.descriptor id).children ⊆ known) (ha : a ∈ known)
    (h : g.Reaches a b) : b ∈ known := by
  induction h with
  | refl => exact ha
  | tail _ hmention ih => exact hclosed _ ih hmention

/-- Two graphs and two lists of entered unions agree on what a type reaches. -/
structure AgreesFrom (types types' : TypeGraph) (active active' : List TypeId) (type : TypeId) :
    Prop where
  /-- The descriptors are the same. -/
  descriptor : ∀ id, types.Reaches type id → types'.descriptor id = types.descriptor id
  /-- The unions that are reached are entered in both or in neither. -/
  active : ∀ id, types.Reaches type id → active'.contains id = active.contains id

namespace AgreesFrom

variable {types types' : TypeGraph} {active active' : List TypeId} {type : TypeId}

/-- A type has the same descriptor in graphs that agree on what it reaches. -/
theorem descriptor_eq (h : AgreesFrom types types' active active' type) :
    types'.descriptor type = types.descriptor type :=
  h.descriptor type .refl

/-- What a type mentions reaches nothing that the type does not. -/
theorem child (h : AgreesFrom types types' active active' type) {child : TypeId}
    (hchild : child ∈ (types.descriptor type).children) :
    AgreesFrom types types' active active' child where
  descriptor id hid := h.descriptor id (.head hchild hid)
  active id hid := h.active id (.head hchild hid)

/-- Entering a union on both sides keeps the agreement. -/
theorem enter (h : AgreesFrom types types' active active' type) (id : TypeId) :
    AgreesFrom types types' (id :: active) (id :: active') type where
  descriptor := h.descriptor
  active other hother := by rw [List.contains_cons, List.contains_cons, h.active other hother]

end AgreesFrom

/-! ## Candidates -/

section Candidates

variable {types types' : TypeGraph}

/-- The members of a union come from its candidates. -/
theorem exists_candidate_of_classifyMembers {child : TypeId → Slot → Budget → Classified}
    {slot : Slot} {candidates : List Candidate} {position : Nat} {budget left : Budget}
    {members : List (ParamNode × TypeId)}
    (hrun : classifyMembers child slot candidates position budget = .ok (members, left)) :
    ∀ member ∈ members, ∃ candidate ∈ candidates, candidate.type = member.2 := by
  induction candidates generalizing position budget members left with
  | nil =>
    cases hrun
    simp
  | cons candidate rest ih =>
    simp only [List.exists_mem_cons_iff]
    rw [classifyMembers] at hrun
    split at hrun
    · cases hrun
    · exact fun member hmember => .inr (ih hrun member hmember)
    · split at hrun
      · cases hrun
      · next hrest =>
        cases hrun
        exact List.forall_mem_cons.2
          ⟨.inl rfl, fun member hmember => .inr (ih hrest member hmember)⟩

/-- A choice is the same if the results for the types of the candidates are the same. -/
theorem classifyChoice_congr_of_mem {child child' : ChildClassifier} {candidates : List Candidate}
    {inside inside' : List TypeId}
    (hchild : ∀ candidate ∈ candidates, ∀ slot budget,
      child' candidate.type slot inside' budget = child candidate.type slot inside budget)
    (slot : Slot) (budget : Budget) :
    classifyChoice child' slot inside' candidates budget =
      classifyChoice child slot inside candidates budget := by
  have hself : List.Forall₂ (Candidate.Rel fun type type' =>
      type' = type ∧ ∃ candidate ∈ candidates, candidate.type = type) candidates candidates :=
    List.forall₂_same.2 fun candidate hmem => ⟨rfl, rfl, rfl, candidate, hmem, rfl⟩
  apply classifyChoice_eq_of_rel _ slot hself budget
  rintro _ _ ⟨rfl, candidate, hmem, rfl⟩ place b
  exact hchild candidate hmem place b

/-- Candidates are the same if the graphs agree on the members. -/
theorem unionCandidates_congr {members : List TypeId}
    (h : ∀ member ∈ members, types'.descriptor member = types.descriptor member)
    (done : List Candidate) :
    unionCandidates types' done members = unionCandidates types done members := by
  induction members generalizing done with
  | nil => rfl
  | cons member rest ih =>
    rw [List.forall_mem_cons] at h
    have hrest := ih h.2
    simp only [unionCandidates, h.1, hrest]

/-- The type of a candidate is a member of the union. -/
theorem type_mem_of_mem_unionCandidates {members : List TypeId} {done : List Candidate}
    {candidate : Candidate} (h : candidate ∈ unionCandidates types done members) :
    candidate ∈ done ∨ candidate.type ∈ members := by
  induction members generalizing done with
  | nil => exact .inl h
  | cons member rest ih =>
    rw [unionCandidates] at h
    split at h
    · exact (ih h).imp_right (List.mem_cons_of_mem _)
    · rcases ih h with hdone | hrest
      · rcases List.mem_append.1 hdone with hold | hnew
        · exact .inl hold
        · rw [List.mem_singleton.1 hnew]
          exact .inr List.mem_cons_self
      · exact .inr (List.mem_cons_of_mem _ hrest)

/-- A union is classified in the same way if it has the same candidates in the same slot, and the
results for their types are the same. -/
theorem classifyUnion_congr_of_mem {child child' : ChildClassifier} {type : TypeId}
    {d d' : TypeDescriptor} {slot slot' : Slot} {active active' : List TypeId}
    (hactive : active'.contains type = active.contains type)
    (hslot : slot'.ofUnion types' d'.members = slot.ofUnion types d.members)
    (hcandidates : unionCandidates types' [] d'.members = unionCandidates types [] d.members)
    (hsole : ∀ candidate ∈ unionCandidates types [] d.members, ∀ place budget,
      child' candidate.type place active' budget = child candidate.type place active budget)
    (hinside : ∀ candidate ∈ unionCandidates types [] d.members, ∀ place budget,
      child' candidate.type place (type :: active') budget =
        child candidate.type place (type :: active) budget) (budget : Budget) :
    classifyUnion types' child' type d' slot' active' budget =
      classifyUnion types child type d slot active budget := by
  simp only [classifyUnion, hactive, hslot, hcandidates]
  split
  · rfl
  · split
    · rfl
    · next candidate hone =>
      rw [hone] at hsole hinside
      rw [classifyChoice_congr_of_mem hinside, hsole candidate List.mem_cons_self]
    · exact classifyChoice_congr_of_mem hinside _ budget

end Candidates

/-! ## Agreement is enough -/

variable {types types' : TypeGraph} {active active' : List TypeId} {type : TypeId}

/-- Types correspond to themselves where the graphs and the entered unions agree on what they
reach. -/
theorem correspondence_of_agreesFrom (types types' : TypeGraph) :
    types.Correspondence types' fun type active type' active' =>
      type' = type ∧ AgreesFrom types types' active active' type where
  descriptor type active type' active' := by
    rintro ⟨rfl, h⟩
    rw [h.descriptor_eq]
    exact TypeDescriptor.rel_self fun c hc =>
      ⟨⟨rfl, h.child hc⟩, rfl, (h.child hc).enter type'⟩
  active type active type' active' := by
    rintro ⟨rfl, h⟩
    exact h.active type' .refl

/-- On graphs and entered unions that agree on what a type reaches, the type is classified in the
same way at every depth. -/
theorem classifyWithin_eq_of_agreesFrom (h : AgreesFrom types types' active active' type)
    (depth : Nat) (slot : Slot) (budget : Budget) :
    classifyWithin types' depth type slot active' budget =
      classifyWithin types depth type slot active budget :=
  (correspondence_of_agreesFrom types types').classifyWithin_eq ⟨rfl, h⟩ depth slot budget

/-- On graphs and entered unions that agree on what a type reaches, the same is derived for the
type. -/
theorem AgreesFrom.classifies_iff (h : AgreesFrom types types' active active' type) {slot : Slot}
    {budget left : Budget} {node : Option ParamNode} :
    Classifies types' type slot active' budget node left ↔
      Classifies types type slot active budget node left := by
  have hdepth := Nat.le_max_left (levels types type active budget)
    (levels types' type active' budget)
  have hdepth' := Nat.le_max_right (levels types type active budget)
    (levels types' type active' budget)
  rw [← classifyWithin_eq_ok_iff hdepth, ← classifyWithin_eq_ok_iff hdepth',
    classifyWithin_eq_of_agreesFrom h]

end SignatureForms
