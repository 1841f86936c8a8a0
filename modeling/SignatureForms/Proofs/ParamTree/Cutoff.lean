import SignatureForms.Proofs.ParamTree.Arrangement
import SignatureForms.Proofs.ParamTree.Saturation

/-!
# Records that are cut off

A record stops at the first field for which no unit is left. With a smaller budget it should
therefore hold the first of the fields that it holds with a larger one. A union is the exception: it
is tested for what is left after its own unit was taken, so that the last unit does not suffice for
it; the union is left out, the unit is given back, and a later field takes it.

The module introduces:

* `Starves types type active budget` — while the type is classified, a field that is a union is
  left out though it has a node, because its own unit was the last.

## Main results

* `Classifies.absent_of_funded`: whether a type has a node does not depend on how much is left, as
  long as something is;
* `Classifies.raise_of_not_starves`: where nothing starves, a derivation that leaves a unit is one
  with every larger budget;
* `exists_classify_cutoff`: with a smaller budget a record holds the first of the fields that it
  holds with a larger one, up to the last of them, and with the last where nothing starves.
-/

namespace SignatureForms

/-! ## Presence of nodes -/

section Presence

variable {types : TypeGraph}

mutual

/-- A type that has no node while something is left has none whenever something is left. -/
theorem Classifies.absent_of_funded {type : TypeId} {slot : Slot} {active : List TypeId}
    {budget left : Budget} {node : Option ParamNode} (hfunded : budget.exhausted = false)
    {other : Budget} (hother : other.exhausted = false) :
    Classifies types type slot active budget node left → node = none →
      Classifies types type slot active other none other
  | .flat hunion hrecord, hnone => hnone ▸ .flat hunion hrecord
  | .closedRecord _ _, hnone => by cases hnone
  | .openRecord _ _ _, hnone => by cases hnone
  | .closedUnion hkind hclosed, _ =>
    .closedUnion hkind (.inl (hclosed.resolve_right (by simp [hfunded])))
  | .emptyUnion henter hcandidates, _ => .emptyUnion ⟨henter.kind, henter.fresh, hother⟩ hcandidates
  | .soleCandidate henter hcandidates hkind hnode, hnone =>
    .soleCandidate ⟨henter.kind, henter.fresh, hother⟩ hcandidates hkind
      (hnode.absent_of_funded hfunded hother hnone)
  | .absentChoice henter hchoice hmembers, _ =>
    .absentChoice ⟨henter.kind, henter.fresh, hother⟩ hchoice
      (hmembers.absent_of_funded hfunded hother rfl)
  -- a survivor had a node when it was built first, so it has one when it is built again
  | .survivor _ _ hmembers _ hnode, hnone => by
    have hsome := (hmembers.survivor_eq hnode).1
    rw [hnone] at hsome
    cases hsome
  | .openUnion _ _ _ _ _, hnone => by cases hnone

/-- Candidates that give no members while something is left give none whenever something is. -/
theorem ClassifiesMembers.absent_of_funded {slot : Slot} {inside : List TypeId}
    {candidates : List Candidate} {position : Nat} {budget left : Budget}
    {members : List (ParamNode × TypeId)} (hfunded : budget.exhausted = false)
    {other : Budget} (hother : other.exhausted = false) :
    ClassifiesMembers types slot inside candidates position budget members left → members = [] →
      ClassifiesMembers types slot inside candidates position other [] other
  | .done, _ => .done
  | .absent hnode hrest, hnone =>
    .absent (hnode.absent_of_funded hfunded hother rfl)
      (hrest.absent_of_funded hfunded hother hnone)
  | .present _ _, hnone => by cases hnone

end

/-- A record has a node; any other type that is no union has the node that stands for it, if there
is one, and takes nothing. -/
theorem Classifies.of_ne_union {type : TypeId} {slot : Slot} {active : List TypeId}
    {budget left : Budget} {node : Option ParamNode} (hunion : types.kind type ≠ .union)
    (h : Classifies types type slot active budget node left) :
    types.kind type = .record ∧ node.isSome = true ∨
      types.kind type ≠ .record ∧ node = flatNode types (types.descriptor type) slot := by
  cases h with
  | flat _ hrecord => exact .inr ⟨hrecord, rfl⟩
  | closedRecord hkind => exact .inl ⟨hkind, rfl⟩
  | openRecord hkind => exact .inl ⟨hkind, rfl⟩
  | closedUnion hkind => exact absurd hkind hunion
  | emptyUnion henter => exact absurd henter.kind hunion
  | soleCandidate henter => exact absurd henter.kind hunion
  | absentChoice henter => exact absurd henter.kind hunion
  | survivor henter => exact absurd henter.kind hunion
  | openUnion henter => exact absurd henter.kind hunion

/-- Whether a type that is no union has a node does not depend on the budget. -/
theorem Classifies.isSome_eq_of_ne_union {type : TypeId} {slot : Slot} {active : List TypeId}
    {budget budget' left left' : Budget} {node node' : Option ParamNode}
    (hunion : types.kind type ≠ .union) (h : Classifies types type slot active budget node left)
    (h' : Classifies types type slot active budget' node' left') :
    node.isSome = node'.isSome := by
  obtain ⟨hkind, hnode⟩ | ⟨hkind, rfl⟩ := h.of_ne_union hunion
  · obtain ⟨-, hnode'⟩ | ⟨hkind', -⟩ := h'.of_ne_union hunion
    · rw [hnode, hnode']
    · exact absurd hkind hkind'
  · obtain ⟨hkind', -⟩ | ⟨-, rfl⟩ := h'.of_ne_union hunion
    · exact absurd hkind' hkind
    · rfl

/-- A union of which nothing can be entered has no node. -/
theorem Classifies.eq_none_of_exhausted {type : TypeId} {slot : Slot} {active : List TypeId}
    {budget left : Budget} {node : Option ParamNode} (hunion : types.kind type = .union)
    (hout : budget.exhausted = true) (h : Classifies types type slot active budget node left) :
    node = none :=
  (h.unique (.closedUnion hunion (.inr hout))).1

/-- Whether a type has a node does not depend on how much is left, as long as something is. -/
theorem Classifies.isSome_eq_of_funded {type : TypeId} {slot : Slot} {active : List TypeId}
    {budget budget' left left' : Budget} {node node' : Option ParamNode}
    (hfunded : budget.exhausted = false) (hfunded' : budget'.exhausted = false)
    (h : Classifies types type slot active budget node left)
    (h' : Classifies types type slot active budget' node' left') :
    node.isSome = node'.isSome := by
  cases node with
  | none => rw [(h'.unique (h.absent_of_funded hfunded hfunded' rfl)).1]
  | some tree =>
    cases node' with
    | none => exact congrArg Option.isSome (h.unique (h'.absent_of_funded hfunded' hfunded rfl)).1
    | some tree' => rfl

/-- A type that has a node has one with a raised budget. -/
theorem Classifies.isSome_of_raised {type : TypeId} {slot : Slot} {active : List TypeId}
    {budget left left' : Budget} {tree : ParamNode} {node : Option ParamNode} {units : Nat}
    (h : Classifies types type slot active budget (some tree) left)
    (h' : Classifies types type slot active (budget.raised units) node left') :
    node.isSome = true := by
  by_cases hunion : types.kind type = .union
  · -- a union with a node was entered, so something was left
    have hfunded : budget.exhausted = false := by
      by_contra hout
      cases h.eq_none_of_exhausted hunion (by simpa using hout)
    have hfunded' := Budget.exhausted_raised_eq_false hfunded units
    exact (h.isSome_eq_of_funded hfunded hfunded' h').symm
  · exact (h.isSome_eq_of_ne_union hunion h').symm

end Presence

/-! ## All but the last -/

section Lists

variable {α : Type*} {l l' : List α}

/-- A list without its last entry begins any other if it has no more than that one. -/
theorem dropLast_prefix_of_length_le_one (h : l.length ≤ 1) : l.dropLast <+: l' := by
  rw [List.eq_nil_of_length_eq_zero (l := l.dropLast) (by rw [List.length_dropLast]; omega)]
  exact List.nil_prefix

/-- A common first entry may be put in front. -/
theorem dropLast_cons_prefix_cons (h : l.dropLast <+: l') (a : α) :
    (a :: l).dropLast <+: a :: l' := by
  cases l with
  | nil => exact List.nil_prefix
  | cons b rest =>
    rw [List.dropLast_cons_cons]
    exact (List.prefix_cons_inj a).2 h

end Lists

/-! ## Fields in turn -/

section Fields

variable {types : TypeGraph} {path : String} {required : Bool} {active : List TypeId}
  {field : Field} {rest : List Field} {position : Nat} {budget left : Budget}
  {nodes : List ParamNode}

/-- A field of an unsupported kind is passed over. -/
theorem ClassifiesFields.of_unsupported (hkind : (types.kind field.type).isSupported = false)
    (h : ClassifiesFields types path required active (field :: rest) position budget nodes left) :
    ClassifiesFields types path required active rest position budget nodes left := by
  cases h with
  | unsupported _ _ hrest => exact hrest
  | cut _ hkind' => simp [hkind] at hkind'
  | absent _ hkind' => simp [hkind] at hkind'
  | present _ hkind' => simp [hkind] at hkind'

/-- A field of a supported kind, for which a unit is left, is absent, so that the unit is there for
the fields after it, or is present. -/
theorem ClassifiesFields.of_supported (hkind : (types.kind field.type).isSupported = true)
    (hfunded : budget.exhausted = false)
    (h : ClassifiesFields types path required active (field :: rest) position budget nodes left) :
    (∃ mid, Classifies types field.type (.ofField path required position field) active
        budget.taken none mid ∧
      ClassifiesFields types path required active rest position budget nodes left) ∨
    ∃ node more mid, nodes = node :: more ∧
      Classifies types field.type (.ofField path required position field) active budget.taken
        (some node) mid ∧
      ClassifiesFields types path required active rest (position + 1) mid more left := by
  cases h with
  | unsupported _ hkind' => simp [hkind] at hkind'
  | cut _ _ hout => simp [hfunded] at hout
  | absent _ _ _ hnode hrest =>
    rw [hnode.spends.2 rfl, Budget.refund_taken] at hrest
    exact .inl ⟨_, hnode, hrest⟩
  | present _ _ _ hnode hrest => exact .inr ⟨_, _, _, rfl, hnode, hrest⟩

/-- A record does not hold more fields than there were units. -/
theorem ClassifiesFields.length_le {fields : List Field}
    (h : ClassifiesFields types path required active fields position budget nodes left) :
    (nodes.length : Int) ≤ max budget.remaining 0 := by
  have hpaid := h.spends.paid
  rw [← ParamNode.length_add_sum_map_recordChildren] at hpaid
  omega

/-- A field without a node leaves all to the fields after it. -/
theorem ClassifiesFields.of_absent (hkind : (types.kind field.type).isSupported = true)
    (hfunded : budget.exhausted = false) {mid : Budget}
    (hnode : Classifies types field.type (.ofField path required position field) active
      budget.taken none mid)
    (h : ClassifiesFields types path required active (field :: rest) position budget nodes left) :
    ClassifiesFields types path required active rest position budget nodes left := by
  obtain ⟨_, -, hrest⟩ | ⟨node, more, _, -, hnode', -⟩ := h.of_supported hkind hfunded
  · exact hrest
  · cases (hnode.unique hnode').1

/-- A field that is present is present with a raised budget, under the same name. -/
theorem ClassifiesFields.of_present_raised (hkind : (types.kind field.type).isSupported = true)
    (hfunded : budget.exhausted = false) {units : Nat} {node : ParamNode} {mid : Budget}
    (hnode : Classifies types field.type (.ofField path required position field) active
      budget.taken (some node) mid)
    (h : ClassifiesFields types path required active (field :: rest) position
      (budget.raised units) nodes left) :
    ∃ node' more mid', nodes = node' :: more ∧ node.value = node'.value ∧
      Classifies types field.type (.ofField path required position field) active
        (budget.taken.raised units) (some node') mid' ∧
      ClassifiesFields types path required active rest (position + 1) mid' more left := by
  have hfunded' := Budget.exhausted_raised_eq_false hfunded units
  obtain ⟨mid', hnode', -⟩ | ⟨node', more, mid', rfl, hnode', hrest⟩ := h.of_supported hkind hfunded'
  · rw [Budget.taken_raised] at hnode'
    cases hnode.isSome_of_raised hnode'
  · rw [Budget.taken_raised] at hnode'
    have hvalue := (hnode.arranged node rfl).1.places.value
    have hvalue' := (hnode'.arranged node' rfl).1.places.value
    exact ⟨node', more, mid', rfl, hvalue.trans hvalue'.symm, hnode', hrest⟩

/-- With a smaller budget a record holds the first of the fields that it holds with a larger one,
up to the last of them. -/
theorem ClassifiesFields.dropLast_prefix {fields : List Field} {units : Nat}
    {nodes' : List ParamNode} {left' : Budget}
    (h : ClassifiesFields types path required active fields position budget nodes left)
    (h' : ClassifiesFields types path required active fields position (budget.raised units) nodes'
      left') :
    (nodes.map ParamNode.value).dropLast <+: nodes'.map ParamNode.value := by
  induction fields generalizing position budget nodes nodes' with
  | nil =>
    cases h
    exact List.nil_prefix
  | cons field rest ih =>
    by_cases hkind : (types.kind field.type).isSupported = true
    case neg =>
      -- neither run counts the field
      rw [Bool.not_eq_true] at hkind
      exact ih (h.of_unsupported hkind) (h'.of_unsupported hkind)
    by_cases hlast : budget.remaining ≤ 1
    · -- there is at most one field, which is the last
      have hlength := h.length_le
      refine dropLast_prefix_of_length_le_one ?_
      rw [List.length_map]
      omega
    have hfunded : budget.exhausted = false := decide_eq_false (by omega)
    have hfunded' := Budget.exhausted_raised_eq_false hfunded units
    have hinner : budget.taken.exhausted = false :=
      decide_eq_false (show ¬budget.remaining - 1 ≤ 0 by omega)
    have hinner' := Budget.exhausted_raised_eq_false hinner units
    rw [← Budget.taken_raised] at hinner'
    obtain ⟨mid, hnode, hrest⟩ | ⟨node, more, mid, rfl, hnode, hrest⟩ := h.of_supported hkind hfunded
    -- a field that leads to nothing does so with more units as well
    · have hnode' := hnode.absent_of_funded hinner hinner' rfl
      exact ih hrest (h'.of_absent hkind hfunded' hnode')
    · obtain ⟨node', more', mid', rfl, hvalue, hnode', hrest'⟩ :=
        ClassifiesFields.of_present_raised hkind hfunded hnode h'
      rw [List.map_cons, List.map_cons, ← hvalue]
      refine dropLast_cons_prefix_cons ?_ _
      by_cases hmid : 2 ≤ mid.remaining
      · -- the larger budget was not needed so far, so the difference is still there
        have hraised := hnode.raise units (.of_two_le hmid _)
        obtain ⟨-, rfl⟩ := hraised.unique hnode'
        exact ih hrest hrest'
      -- no more than one field follows, and the last one is not compared
      · have hlength := hrest.length_le
        refine dropLast_prefix_of_length_le_one ?_
        rw [List.length_map]
        omega

end Fields

/-! ## Starved unions -/

mutual

/-- While the type is classified, a field that is a union is left out though it has a node, because
its own unit was the last. -/
inductive Starves (types : TypeGraph) : TypeId → List TypeId → Budget → Prop
  | record {type : TypeId} {active : List TypeId} {budget : Budget}
      (hkind : types.kind type = .record)
      (hfields : StarvesFields types active (types.descriptor type).fields budget) :
      Starves types type active budget
  | soleCandidate {type : TypeId} {active : List TypeId} {budget : Budget} {candidate : Candidate}
      (henter : EntersUnion types type active budget)
      (hcandidates : unionCandidates types [] (types.descriptor type).members = [candidate])
      (hinside : Starves types candidate.type active budget) : Starves types type active budget
  | choice {type : TypeId} {active : List TypeId} {budget : Budget}
      (henter : EntersUnion types type active budget)
      (hchoice : OffersChoice (unionCandidates types [] (types.descriptor type).members))
      (hmembers : StarvesMembers types (type :: active)
        (unionCandidates types [] (types.descriptor type).members) budget) :
      Starves types type active budget

/-- While the fields of a record are classified in turn, a field that is a union is left out though
it has a node, because its own unit was the last: one of these fields, or one inside them. -/
inductive StarvesFields (types : TypeGraph) : List TypeId → List Field → Budget → Prop
  | last {active : List TypeId} {field : Field} {rest : List Field} {slot : Slot}
      {budget more left : Budget} {node : ParamNode} (hunion : types.kind field.type = .union)
      (hlast : budget.remaining = 1)
      (hnode : Classifies types field.type slot active more (some node) left) :
      StarvesFields types active (field :: rest) budget
  | inside {active : List TypeId} {field : Field} {rest : List Field} {budget : Budget}
      (hfunded : budget.exhausted = false)
      (hinside : Starves types field.type active budget.taken) :
      StarvesFields types active (field :: rest) budget
  | unsupported {active : List TypeId} {field : Field} {rest : List Field} {budget : Budget}
      (hkind : (types.kind field.type).isSupported = false)
      (hrest : StarvesFields types active rest budget) :
      StarvesFields types active (field :: rest) budget
  | absent {active : List TypeId} {field : Field} {rest : List Field} {slot : Slot}
      {budget left : Budget} (hfunded : budget.exhausted = false)
      (hnode : Classifies types field.type slot active budget.taken none left)
      (hrest : StarvesFields types active rest budget) :
      StarvesFields types active (field :: rest) budget
  | present {active : List TypeId} {field : Field} {rest : List Field} {slot : Slot}
      {budget left : Budget} {node : ParamNode} (hfunded : budget.exhausted = false)
      (hnode : Classifies types field.type slot active budget.taken (some node) left)
      (hrest : StarvesFields types active rest left) :
      StarvesFields types active (field :: rest) budget

/-- While the candidates of a union are classified in turn, a field that is a union is left out
inside one of them though it has a node, because its own unit was the last. -/
inductive StarvesMembers (types : TypeGraph) : List TypeId → List Candidate → Budget → Prop
  | inside {inside : List TypeId} {candidate : Candidate} {rest : List Candidate}
      {budget : Budget} (hinside : Starves types candidate.type inside budget) :
      StarvesMembers types inside (candidate :: rest) budget
  | absent {inside : List TypeId} {candidate : Candidate} {rest : List Candidate} {slot : Slot}
      {budget left : Budget}
      (hnode : Classifies types candidate.type slot inside budget none left)
      (hrest : StarvesMembers types inside rest budget) :
      StarvesMembers types inside (candidate :: rest) budget
  | present {inside : List TypeId} {candidate : Candidate} {rest : List Candidate} {slot : Slot}
      {budget left : Budget} {node : ParamNode}
      (hnode : Classifies types candidate.type slot inside budget (some node) left)
      (hrest : StarvesMembers types inside rest left) :
      StarvesMembers types inside (candidate :: rest) budget

end

section Starved

variable {types : TypeGraph}

/-- What starves a single member on its own starves the candidates. -/
theorem ClassifiesMembers.starves_of_sole {slot : Slot} {inside : List TypeId}
    {candidates : List Candidate} {position : Nat} {budget left : Budget} {first : ParamNode}
    {kept : TypeId} (hstarves : Starves types kept inside budget) :
    ClassifiesMembers types slot inside candidates position budget [(first, kept)] left →
      StarvesMembers types inside candidates budget
  | .absent hnode hrest => .absent hnode (hrest.starves_of_sole hstarves)
  | .present _ _ => .inside hstarves

/-- Where the fields of records are named, every type has a derivation. -/
theorem exists_classifies (hnamed : FieldsNamed types) (type : TypeId) (slot : Slot)
    (active : List TypeId) (budget : Budget) :
    ∃ node left, Classifies types type slot active budget node left := by
  obtain ⟨⟨node, left⟩, hrun⟩ :=
    exists_classifyWithin hnamed (levels types type active budget) type slot active budget
  exact ⟨node, left, classifies_of_classifyWithin (Nat.le_refl _) hrun⟩

/-- A field that does not starve and has no node has none with a raised budget. -/
theorem Classifies.absent_raised (hnamed : FieldsNamed types) (units : Nat) {field : Field}
    {rest : List Field} {slot : Slot} {active : List TypeId} {budget left : Budget}
    (hfunded : budget.exhausted = false)
    (hstarves : ¬StarvesFields types active (field :: rest) budget)
    (h : Classifies types field.type slot active budget.taken none left) :
    Classifies types field.type slot active (budget.taken.raised units) none
      (budget.taken.raised units) := by
  obtain ⟨node, left', h'⟩ :=
    exists_classifies hnamed field.type slot active (budget.taken.raised units)
  suffices hnone : node = none by
    rw [hnone] at h'
    rwa [h'.spends.2 rfl] at h'
  by_cases hinner : budget.taken.exhausted = false
  · have hsame := h.isSome_eq_of_funded hinner (Budget.exhausted_raised_eq_false hinner units) h'
    simpa using hsame
  by_cases hunion : types.kind field.type = .union
  · -- its unit was the last, so it would starve if it had a node
    have hlast : budget.remaining = 1 := by
      have hpos := Budget.pos_of_exhausted_eq_false hfunded
      have hempty := Budget.nonpos_of_exhausted (by simpa using hinner)
      rw [Budget.taken] at hempty
      dsimp only at hempty
      omega
    cases node with
    | none => rfl
    | some node => exact absurd (.last hunion hlast h') hstarves
  · have hsame := h.isSome_eq_of_ne_union hunion h'
    simpa using hsame

mutual

/-- Where nothing starves, a derivation that leaves a unit is one with a raised budget, of which as
much more is left. -/
theorem Classifies.raise_of_not_starves (hnamed : FieldsNamed types) (units : Nat) {type : TypeId}
    {slot : Slot} {active : List TypeId} {budget left : Budget} {node : Option ParamNode} :
    Classifies types type slot active budget node left → ¬Starves types type active budget →
      0 < left.remaining →
      Classifies types type slot active (budget.raised units) node (left.raised units)
  | .flat hunion hrecord, _, _ => .flat hunion hrecord
  | .closedRecord _ hout, _, hleft => by
    have hempty := Budget.nonpos_of_exhausted hout
    omega
  | .openRecord hkind hfunded hfields, hstarves, hleft =>
    .openRecord hkind (Budget.exhausted_raised_eq_false hfunded units)
      (hfields.raise_of_not_starves hnamed units (hstarves ∘ .record hkind) hleft)
  | .closedUnion hkind hclosed, _, hleft => by
    refine .closedUnion hkind (.inl (hclosed.resolve_right fun hout => ?_))
    have hempty := Budget.nonpos_of_exhausted hout
    omega
  | .emptyUnion henter hcandidates, _, _ => .emptyUnion (henter.raise units) hcandidates
  | .soleCandidate henter hcandidates hkind hnode, hstarves, hleft =>
    .soleCandidate (henter.raise units) hcandidates hkind
      (hnode.raise_of_not_starves hnamed units (hstarves ∘ .soleCandidate henter hcandidates) hleft)
  | .absentChoice henter hchoice hmembers, hstarves, hleft =>
    .absentChoice (henter.raise units) hchoice
      (hmembers.raise_of_not_starves hnamed units (hstarves ∘ .choice henter hchoice) hleft)
  -- the first build of the survivor left as much, and would have starved as well
  | .survivor henter hchoice hmembers hfirst hnode, hstarves, hleft => by
    have hsame := (hmembers.survivor_eq hnode).2
    have hbuilt := hmembers.raise_of_not_starves hnamed units (hstarves ∘ .choice henter hchoice)
      (hsame ▸ hleft)
    have hagain := hnode.raise_of_not_starves hnamed units
      (hstarves ∘ .choice henter hchoice ∘ hmembers.starves_of_sole) hleft
    exact .survivor (henter.raise units) hchoice hbuilt hfirst hagain
  | .openUnion henter hchoice hmembers hnonempty hsole, hstarves, hleft =>
    .openUnion (henter.raise units) hchoice
      (hmembers.raise_of_not_starves hnamed units (hstarves ∘ .choice henter hchoice) hleft)
      hnonempty hsole

/-- Where nothing starves, a derivation for fields that leaves a unit is one with a raised budget,
of which as much more is left. -/
theorem ClassifiesFields.raise_of_not_starves (hnamed : FieldsNamed types) (units : Nat)
    {path : String} {required : Bool} {active : List TypeId} {fields : List Field}
    {position : Nat} {budget left : Budget} {nodes : List ParamNode} :
    ClassifiesFields types path required active fields position budget nodes left →
      ¬StarvesFields types active fields budget → 0 < left.remaining →
      ClassifiesFields types path required active fields position (budget.raised units) nodes
        (left.raised units)
  | .done, _, _ => .done
  | .unsupported hname hkind hrest, hstarves, hleft =>
    .unsupported hname hkind
      (hrest.raise_of_not_starves hnamed units (hstarves ∘ .unsupported hkind) hleft)
  | .cut _ _ hout, _, hleft => by
    -- nothing is left where the fields are cut off
    have hempty := Budget.nonpos_of_exhausted hout
    rw [Budget.taken] at hleft
    dsimp only at hleft
    omega
  | @ClassifiesFields.absent _ _ _ _ _ _ _ _ mid _ _ hname hkind hfunded hnode hrest, hstarves,
      hleft => by
    have hnode' := hnode.absent_raised hnamed units hfunded hstarves
    -- a field that leads to nothing gives back what it took
    have hrestored : mid.refund = budget := by rw [hnode.spends.2 rfl, Budget.refund_taken]
    have hrest' := hrest.raise_of_not_starves hnamed units
      (fun hlater => hstarves (.absent hfunded hnode (hrestored ▸ hlater))) hleft
    rw [hrestored, ← Budget.refund_taken (budget.raised units)] at hrest'
    rw [← Budget.taken_raised] at hnode'
    exact .absent hname hkind (Budget.exhausted_raised_eq_false hfunded units) hnode' hrest'
  | .present hname hkind hfunded hnode hrest, hstarves, hleft => by
    have hspent := hrest.spends.remaining_le hleft
    have hnode' := hnode.raise_of_not_starves hnamed units (hstarves ∘ .inside hfunded) (by omega)
    have hrest' := hrest.raise_of_not_starves hnamed units (hstarves ∘ .present hfunded hnode) hleft
    rw [← Budget.taken_raised] at hnode'
    exact .present hname hkind (Budget.exhausted_raised_eq_false hfunded units) hnode' hrest'

/-- Where nothing starves, a derivation for candidates that leaves a unit is one with a raised
budget, of which as much more is left. -/
theorem ClassifiesMembers.raise_of_not_starves (hnamed : FieldsNamed types) (units : Nat)
    {slot : Slot} {inside : List TypeId} {candidates : List Candidate} {position : Nat}
    {budget left : Budget} {members : List (ParamNode × TypeId)} :
    ClassifiesMembers types slot inside candidates position budget members left →
      ¬StarvesMembers types inside candidates budget → 0 < left.remaining →
      ClassifiesMembers types slot inside candidates position (budget.raised units) members
        (left.raised units)
  | .done, _, _ => .done
  | .absent hnode hrest, hstarves, hleft => by
    have hspent := hrest.spends.1.remaining_le hleft
    have hfunded : budget.exhausted = false := decide_eq_false (by omega)
    have hfunded' := Budget.exhausted_raised_eq_false hfunded units
    exact .absent (hnode.absent_of_funded hfunded hfunded' rfl)
      (hrest.raise_of_not_starves hnamed units (hstarves ∘ .absent hnode) hleft)
  | .present hnode hrest, hstarves, hleft => by
    have hspent := hrest.spends.1.remaining_le hleft
    exact .present (hnode.raise_of_not_starves hnamed units (hstarves ∘ .inside) (by omega))
      (hrest.raise_of_not_starves hnamed units (hstarves ∘ .present hnode) hleft)

end

/-- Where nothing starves, a record holds with a smaller budget the first of the fields that it
holds with a larger one. -/
theorem ClassifiesFields.prefix_of_not_starves (hnamed : FieldsNamed types) {path : String}
    {required : Bool} {active : List TypeId} {fields : List Field} {position : Nat}
    {budget left left' : Budget} {nodes nodes' : List ParamNode} {units : Nat}
    (h : ClassifiesFields types path required active fields position budget nodes left)
    (h' : ClassifiesFields types path required active fields position (budget.raised units) nodes'
      left')
    (hstarves : ¬StarvesFields types active fields budget) :
    nodes.map ParamNode.value <+: nodes'.map ParamNode.value := by
  induction fields generalizing position budget nodes nodes' with
  | nil =>
    cases h
    exact List.nil_prefix
  | cons field rest ih =>
    by_cases hkind : (types.kind field.type).isSupported = true
    case neg =>
      -- neither run counts the field
      rw [Bool.not_eq_true] at hkind
      exact ih (h.of_unsupported hkind) (h'.of_unsupported hkind) (hstarves ∘ .unsupported hkind)
    by_cases hout : budget.exhausted = true
    · obtain rfl : nodes = [] := by
        have hempty := Budget.nonpos_of_exhausted hout
        have hlength := h.length_le
        exact List.eq_nil_of_length_eq_zero (by omega)
      exact List.nil_prefix
    have hfunded : budget.exhausted = false := by simpa using hout
    obtain ⟨mid, hnode, hrest⟩ | ⟨node, more, mid, rfl, hnode, hrest⟩ := h.of_supported hkind hfunded
    · have hnode' := hnode.absent_raised hnamed units hfunded hstarves
      rw [← Budget.taken_raised] at hnode'
      have hrest' := h'.of_absent hkind (Budget.exhausted_raised_eq_false hfunded units) hnode'
      exact ih hrest hrest' (hstarves ∘ .absent hfunded hnode)
    · obtain ⟨node', more', mid', rfl, hvalue, hnode', hrest'⟩ :=
        ClassifiesFields.of_present_raised hkind hfunded hnode h'
      rw [List.map_cons, List.map_cons, ← hvalue, List.prefix_cons_inj]
      -- what follows is compared only if the smaller budget is not used up yet
      by_cases hmid : 0 < mid.remaining
      · have hraised := hnode.raise_of_not_starves hnamed units (hstarves ∘ .inside hfunded) hmid
        obtain ⟨-, rfl⟩ := hraised.unique hnode'
        exact ih hrest hrest' (hstarves ∘ .present hfunded hnode)
      · obtain rfl : more = [] := by
          have hlength := hrest.length_le
          exact List.eq_nil_of_length_eq_zero (by omega)
        exact List.nil_prefix

mutual

/-- Where something starves below a type, some record has a field that is a union. -/
theorem Starves.exists_unionField {type : TypeId} {active : List TypeId} {budget : Budget} :
    Starves types type active budget →
      ∃ id, ∃ field ∈ (types.descriptor id).fields, types.kind field.type = .union
  | .record _ hfields => hfields.exists_unionField fun _ hfield => ⟨_, hfield⟩
  | .soleCandidate _ _ hinside => hinside.exists_unionField
  | .choice _ _ hmembers => hmembers.exists_unionField

/-- Where something starves among the fields of a record, some record has a field that is a
union. -/
theorem StarvesFields.exists_unionField {active : List TypeId} {fields : List Field}
    {budget : Budget} :
    StarvesFields types active fields budget →
      (∀ field ∈ fields, ∃ id, field ∈ (types.descriptor id).fields) →
      ∃ id, ∃ field ∈ (types.descriptor id).fields, types.kind field.type = .union
  | .last hunion _ _, hdeclared => by
    obtain ⟨id, hfield⟩ := hdeclared _ List.mem_cons_self
    exact ⟨id, _, hfield, hunion⟩
  | .inside _ hinside, _ => hinside.exists_unionField
  | .unsupported _ hrest, hdeclared =>
    hrest.exists_unionField (List.forall_mem_cons.1 hdeclared).2
  | .absent _ _ hrest, hdeclared => hrest.exists_unionField (List.forall_mem_cons.1 hdeclared).2
  | .present _ _ hrest, hdeclared => hrest.exists_unionField (List.forall_mem_cons.1 hdeclared).2

/-- Where something starves among the candidates of a union, some record has a field that is a
union. -/
theorem StarvesMembers.exists_unionField {inside : List TypeId} {candidates : List Candidate}
    {budget : Budget} :
    StarvesMembers types inside candidates budget →
      ∃ id, ∃ field ∈ (types.descriptor id).fields, types.kind field.type = .union
  | .inside hinside => hinside.exists_unionField
  | .absent _ hrest => hrest.exists_unionField
  | .present _ hrest => hrest.exists_unionField

end

end Starved

/-! ## Parameters -/

section Parameters

variable {types : TypeGraph}

/-- A record is held with the fields for which there are units. -/
theorem Classifies.of_record {type : TypeId} {slot : Slot} {active : List TypeId}
    {budget left : Budget} {node : Option ParamNode} (hkind : types.kind type = .record)
    (h : Classifies types type slot active budget node left) :
    ∃ nodes, node = some (.record slot.info
        (recordDisplayName (types.descriptor type) slot.name) slot.fieldsPath nodes) ∧
      (budget.exhausted = true → nodes = []) ∧
      (budget.exhausted = false → ClassifiesFields types slot.fieldsPath slot.required active
        (types.descriptor type).fields 0 budget nodes left) := by
  by_cases hout : budget.exhausted = true
  · obtain ⟨rfl, -⟩ := h.unique (.closedRecord hkind hout)
    exact ⟨[], rfl, fun _ => rfl, fun hfunded => by simp [hout] at hfunded⟩
  · cases h with
    | flat _ hrecord => exact absurd hkind hrecord
    | closedRecord _ hout' => exact absurd hout' hout
    | openRecord _ _ hfields => exact ⟨_, rfl, fun hout' => absurd hout' hout, fun _ => hfields⟩
    | closedUnion hunion => simp [hkind] at hunion
    | emptyUnion henter => simpa [hkind] using henter.kind
    | soleCandidate henter => simpa [hkind] using henter.kind
    | absentChoice henter => simpa [hkind] using henter.kind
    | survivor henter => simpa [hkind] using henter.kind
    | openUnion henter => simpa [hkind] using henter.kind

/-- A record with two budgets is the same but for its fields. With the smaller budget it holds, up
to the last, the first of the fields that it holds with the larger one; and so it does with the last
as well, unless a field that is a union is left out because its own unit was the last. -/
theorem exists_classify_cutoff (hnamed : FieldsNamed types) {type : TypeId}
    (hkind : types.kind type = .record) {N M : Int} (hle : N ≤ M) {name : String}
    (hname : name ≠ "") (position : Int) (required : Bool) (description : Option String) :
    ∃ info recordName path kept held left left',
      classify types type position ⟨N⟩ name required description =
        .ok (some (.record info recordName path kept), left) ∧
      classify types type position ⟨M⟩ name required description =
        .ok (some (.record info recordName path held), left') ∧
      (kept.map ParamNode.value).dropLast <+: held.map ParamNode.value ∧
      (¬Starves types type [] ⟨N⟩ → kept.map ParamNode.value <+: held.map ParamNode.value) := by
  obtain ⟨node, left, hrun⟩ :=
    exists_classify hnamed type position ⟨N⟩ hname required description
  obtain ⟨node', left', hrun'⟩ :=
    exists_classify hnamed type position ⟨M⟩ hname required description
  obtain ⟨kept, rfl, hclosed, hopen⟩ := (classifies_of_classify hrun).2.of_record hkind
  obtain ⟨held, rfl, -, hopen'⟩ := (classifies_of_classify hrun').2.of_record hkind
  refine ⟨_, _, _, kept, held, left, left', hrun, hrun', ?_⟩
  by_cases hout : (⟨N⟩ : Budget).exhausted = true
  · rw [hclosed hout]
    exact ⟨List.nil_prefix, fun _ => List.nil_prefix⟩
  rw [Bool.not_eq_true] at hout
  obtain ⟨units, hunits⟩ := Int.eq_ofNat_of_zero_le (Int.sub_nonneg.2 hle)
  have hbudget : (⟨M⟩ : Budget) = Budget.raised ⟨N⟩ units := by
    rw [Budget.raised, Budget.mk.injEq]
    show M = N + units
    omega
  rw [hbudget] at hopen'
  have hfields := hopen hout
  have hfields' := hopen' (Budget.exhausted_raised_eq_false hout units)
  exact ⟨hfields.dropLast_prefix hfields', fun hstarves =>
    hfields.prefix_of_not_starves hnamed hfields' (hstarves ∘ .record hkind)⟩

end Parameters

/-- A cell with the next one and a text. -/
def cellTypes : TypeGraph where
  descriptors := #[
    { TypeDescriptor.ofKind .record (some "Cell") with
      fields := [⟨"next", 0, true, false, none⟩, ⟨"text", 1, false, false, none⟩] },
    TypeDescriptor.ofKind .string none]

theorem exists_classify_cutoff_cell :
    FieldsNamed cellTypes ∧ cellTypes.kind 0 = .record ∧ (3 : Int) ≤ 6 ∧ "cell" ≠ "" ∧
      ¬Starves cellTypes 0 [] ⟨3⟩ ∧ ∃ info recordName path kept held left left',
        classify cellTypes 0 0 ⟨3⟩ "cell" true none =
          .ok (some (.record info recordName path kept), left) ∧
        classify cellTypes 0 0 ⟨6⟩ "cell" true none =
          .ok (some (.record info recordName path held), left') ∧
        kept.map ParamNode.value <+: held.map ParamNode.value := by
  have hnamed : FieldsNamed cellTypes := by decide
  have hkind : cellTypes.kind 0 = .record := rfl
  have hle : (3 : Int) ≤ 6 := by decide
  have hname : "cell" ≠ "" := by decide
  have hstarves : ¬Starves cellTypes 0 [] ⟨3⟩ := by
    intro hstarves
    obtain ⟨id, field, hfield, hunion⟩ := hstarves.exists_unionField
    have hnone : ∀ d ∈ cellTypes.descriptors.toList, ∀ field ∈ d.fields,
        cellTypes.kind field.type ≠ .union := by decide
    obtain hmem | hdefault := descriptor_mem_or_eq_default cellTypes id
    · exact hnone _ hmem field hfield hunion
    · rw [hdefault] at hfield
      cases hfield
  obtain ⟨info, recordName, path, kept, held, left, left', hrun, hrun', -, hprefix⟩ :=
    exists_classify_cutoff hnamed hkind hle hname 0 true none
  exact ⟨hnamed, hkind, hle, hname, hstarves, info, recordName, path, kept, held, left,
    left', hrun, hrun', hprefix hstarves⟩

/-- A record with a choice and a text. -/
def answerTypes : TypeGraph where
  descriptors := #[
    { TypeDescriptor.ofKind .record (some "Answer") with
      fields := [⟨"score", 1, false, false, none⟩, ⟨"note", 2, false, false, none⟩] },
    { TypeDescriptor.ofKind .union none with members := [2, 3] },
    TypeDescriptor.ofKind .string none,
    TypeDescriptor.ofKind .int none]

/-- With a single unit the choice, which comes first, is left out and the text is kept. -/
theorem classify_drops_answer :
    FieldsNamed answerTypes ∧ answerTypes.kind 0 = .record ∧
      ∃ info recordName path kept held left left',
        classify answerTypes 0 0 ⟨1⟩ "answer" true none =
          .ok (some (.record info recordName path kept), left) ∧
        classify answerTypes 0 0 ⟨2⟩ "answer" true none =
          .ok (some (.record info recordName path held), left') ∧
        kept.map ParamNode.value = ["note"] ∧ held.map ParamNode.value = ["score", "note"] ∧
        ¬kept.map ParamNode.value <+: held.map ParamNode.value := by
  refine ⟨by decide, rfl, _, _, _, _, _, _, _, rfl, rfl, rfl, rfl, ?_⟩
  decide

end SignatureForms
