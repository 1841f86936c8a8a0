import Mathlib.Data.List.Forall2
import SignatureForms.Proofs.ParamTree.Derivation

/-!
# Derivations in two slots

What becomes of a type is decided by the graph, the unions that are entered and the budget. The slot
only names and marks the nodes. So a derivation in one slot can be followed in any other, rule by
rule, and a relation between the nodes of both is kept if the rules keep it.

The module introduces:

* `Follows types S R` — the rules keep the relation `R` between nodes when they are followed in
  slots that are related by `S`.

## Main results

* `Classifies.follow`: a derivation is followed in a related slot; both leave the same budget, and
  their nodes are related if there are any.
-/

namespace SignatureForms

/-- The rules keep the relation `R` between nodes when they are followed in slots that are related
by `S`. -/
structure Follows (types : TypeGraph) (S : Slot → Slot → Prop) (R : ParamNode → ParamNode → Prop) :
    Prop where
  /-- The fields of records in related slots are classified in related slots. -/
  field : ∀ {slot slot' : Slot}, S slot slot' → ∀ position field,
    S (.ofField slot.fieldsPath slot.required position field)
      (.ofField slot'.fieldsPath slot'.required position field)
  /-- The members of unions in related slots are classified in related slots. -/
  member : ∀ {slot slot' : Slot}, S slot slot' → ∀ label position,
    S (slot.ofMember label position) (slot'.ofMember label position)
  /-- Related slots stay related when a union is entered. -/
  enter : ∀ {slot slot' : Slot}, S slot slot' → ∀ members,
    S (slot.ofUnion types members) (slot'.ofUnion types members)
  /-- Nodes below which nothing is unfolded are related. -/
  flat : ∀ {slot slot' : Slot}, S slot slot' → ∀ d,
    Option.Rel R (flatNode types d slot) (flatNode types d slot')
  /-- Records of related fields are related. -/
  record : ∀ {slot slot' : Slot} {fields fields' : List ParamNode}, S slot slot' →
    List.Forall₂ R fields fields' → ∀ d,
      R (.record slot.info (recordDisplayName d slot.name) slot.fieldsPath fields)
        (.record slot'.info (recordDisplayName d slot'.name) slot'.fieldsPath fields')
  /-- Unions of related members are related. -/
  union : ∀ {slot slot' : Slot} {members members' : List ParamNode}, S slot slot' →
    List.Forall₂ R members members' → R (.union slot.info members) (.union slot'.info members')
  /-- Related nodes stay related as members of unions. -/
  asMember : ∀ {slot slot' : Slot} {node node' : ParamNode}, S slot slot' → R node node' →
    ∀ label, R (node.asMember label (.when (discriminatorName slot.value) label))
      (node'.asMember label (.when (discriminatorName slot'.value) label))
  /-- Related nodes are unions both or neither. -/
  isUnion : ∀ {node node' : ParamNode}, R node node' → node'.isUnion = node.isUnion

/-- Two members of unions are of one type, and their nodes are related. -/
def MembersRelated (R : ParamNode → ParamNode → Prop) (member member' : ParamNode × TypeId) :
    Prop :=
  R member.1 member'.1 ∧ member'.2 = member.2

/-- The nodes of related members are related. -/
theorem MembersRelated.map_fst {R : ParamNode → ParamNode → Prop}
    {members members' : List (ParamNode × TypeId)}
    (h : List.Forall₂ (MembersRelated R) members members') :
    List.Forall₂ R (members.map Prod.fst) (members'.map Prod.fst) := by
  rw [List.forall₂_map_left_iff, List.forall₂_map_right_iff]
  exact h.imp fun _ _ hrelated => hrelated.1

section Follow

variable {types : TypeGraph} {S : Slot → Slot → Prop} {R : ParamNode → ParamNode → Prop}

mutual

/-- A derivation is followed in a related slot: there is a node in one just if there is one in the
other, both are related, and the same is left of the budget. -/
theorem Classifies.follow (hfollows : Follows types S R) {type : TypeId} {slot slot' : Slot}
    {active : List TypeId} {budget left : Budget} {node : Option ParamNode} :
    Classifies types type slot active budget node left → S slot slot' →
      ∃ node', Classifies types type slot' active budget node' left ∧ Option.Rel R node node'
  | .flat hunion hrecord, hslot => ⟨_, .flat hunion hrecord, hfollows.flat hslot _⟩
  | .closedRecord hkind hout, hslot =>
    ⟨_, .closedRecord hkind hout, .some (hfollows.record hslot .nil _)⟩
  | .openRecord hkind hfunded hfields, hslot => by
    obtain ⟨nodes', hfields', hrelated⟩ :=
      hfields.follow hfollows fun position field => hfollows.field hslot position field
    exact ⟨_, .openRecord hkind hfunded hfields', .some (hfollows.record hslot hrelated _)⟩
  | .closedUnion hkind hclosed, _ => ⟨none, .closedUnion hkind hclosed, .none⟩
  | .emptyUnion henter hcandidates, _ => ⟨none, .emptyUnion henter hcandidates, .none⟩
  | .soleCandidate henter hcandidates hkind hnode, hslot => by
    obtain ⟨node', hnode', hrelated⟩ := hnode.follow hfollows (hfollows.enter hslot _)
    exact ⟨node', .soleCandidate henter hcandidates hkind hnode', hrelated⟩
  | .absentChoice henter hchoice hmembers, hslot => by
    obtain ⟨members', hmembers', hrelated⟩ :=
      hmembers.follow hfollows (hfollows.enter hslot _)
    cases hrelated
    exact ⟨none, .absentChoice henter hchoice hmembers', .none⟩
  -- the first build of a survivor is related too, so the second one is made in both slots
  | .survivor henter hchoice hmembers hfirst hnode, hslot => by
    have henclosed := hfollows.enter hslot
    obtain ⟨members', hmembers', hrelated⟩ := hmembers.follow hfollows (henclosed _)
    obtain ⟨node', hnode', hrelated'⟩ := hnode.follow hfollows (henclosed _)
    obtain ⟨⟨first', kept'⟩, rest, ⟨hfirst', rfl⟩, hnone, rfl⟩ :=
      List.forall₂_cons_left_iff.1 hrelated
    cases hnone
    have hleaf : first'.isUnion = false := (hfollows.isUnion hfirst').trans hfirst
    exact ⟨node', .survivor henter hchoice hmembers' hleaf hnode', hrelated'⟩
  | .openUnion henter hchoice hmembers hnonempty hsole, hslot => by
    have henclosed := hfollows.enter hslot
    obtain ⟨members', hmembers', hrelated⟩ := hmembers.follow hfollows (henclosed _)
    refine ⟨_, .openUnion henter hchoice hmembers' ?_ ?_,
      .some (hfollows.union (henclosed _) (MembersRelated.map_fst hrelated))⟩
    · rintro rfl
      cases hrelated
      exact hnonempty rfl
    · rintro only rfl
      obtain ⟨first, rest, hrelated', hnone, rfl⟩ := List.forall₂_cons_right_iff.1 hrelated
      cases hnone
      exact (hfollows.isUnion hrelated'.1).trans (hsole first rfl)

/-- A derivation for the fields of a record is followed below another path. -/
theorem ClassifiesFields.follow (hfollows : Follows types S R) {path path' : String}
    {required required' : Bool} {active : List TypeId} {fields : List Field} {position : Nat}
    {budget left : Budget} {nodes : List ParamNode} :
    ClassifiesFields types path required active fields position budget nodes left →
      (∀ position field,
        S (.ofField path required position field) (.ofField path' required' position field)) →
      ∃ nodes', ClassifiesFields types path' required' active fields position budget nodes' left ∧
        List.Forall₂ R nodes nodes'
  | .done, _ => ⟨[], .done, .nil⟩
  | .unsupported hnamed hkind hrest, hslots => by
    obtain ⟨nodes', hrest', hrelated⟩ := hrest.follow hfollows hslots
    exact ⟨nodes', .unsupported hnamed hkind hrest', hrelated⟩
  | .cut hnamed hkind hout, _ => ⟨[], .cut hnamed hkind hout, .nil⟩
  | .absent hnamed hkind hfunded hnode hrest, hslots => by
    obtain ⟨_, hnode', hrelated⟩ := hnode.follow hfollows (hslots _ _)
    obtain ⟨nodes', hrest', hrelated'⟩ := hrest.follow hfollows hslots
    cases hrelated
    exact ⟨nodes', .absent hnamed hkind hfunded hnode' hrest', hrelated'⟩
  | .present hnamed hkind hfunded hnode hrest, hslots => by
    obtain ⟨_, hnode', hrelated⟩ := hnode.follow hfollows (hslots _ _)
    obtain ⟨nodes', hrest', hrelated'⟩ := hrest.follow hfollows hslots
    cases hrelated with
    | some hhere =>
      exact ⟨_, .present hnamed hkind hfunded hnode' hrest', .cons hhere hrelated'⟩

/-- A derivation for the candidates of a union is followed in a related slot. -/
theorem ClassifiesMembers.follow (hfollows : Follows types S R) {slot slot' : Slot}
    {inside : List TypeId} {candidates : List Candidate} {position : Nat} {budget left : Budget}
    {members : List (ParamNode × TypeId)} :
    ClassifiesMembers types slot inside candidates position budget members left →
      S slot slot' →
      ∃ members', ClassifiesMembers types slot' inside candidates position budget members' left ∧
        List.Forall₂ (MembersRelated R) members members'
  | .done, _ => ⟨[], .done, .nil⟩
  | .absent hnode hrest, hslot => by
    obtain ⟨_, hnode', hrelated⟩ := hnode.follow hfollows (hfollows.member hslot _ _)
    obtain ⟨members', hrest', hrelated'⟩ := hrest.follow hfollows hslot
    cases hrelated
    exact ⟨members', .absent hnode' hrest', hrelated'⟩
  | .present hnode hrest, hslot => by
    obtain ⟨_, hnode', hrelated⟩ := hnode.follow hfollows (hfollows.member hslot _ _)
    obtain ⟨members', hrest', hrelated'⟩ := hrest.follow hfollows hslot
    cases hrelated with
    | some hhere =>
      exact ⟨_, .present hnode' hrest',
        .cons ⟨hfollows.asMember hslot hhere _, rfl⟩ hrelated'⟩

end

end Follow

end SignatureForms
