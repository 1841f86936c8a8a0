import SignatureForms.ParamTree.Depth

/-!
# Derivations of classification

Classification is computed to a depth. This module gives its rules without a depth, as relations
between a type in a slot and its node: a derivation is a finite tree of rule applications, so a
type that has one is classified in finitely many steps.

The module introduces:

* `Classifies types type slot active budget node left` — classifying `type` in `slot`, inside the
  unions `active` and with `budget`, gives `node` and leaves `left`;
* `ClassifiesFields` and `ClassifiesMembers` — the same for the fields of a record and for the
  candidates of a union, in order.

## Main results

* `classifies_of_classifyWithin`: what is computed at a depth that suffices has a derivation;
* `exists_classifyWithin`: where the fields of records are named, classification gives a result
  at every depth;
* `exists_classify`: a parameter with a name is then classified, with a derivation.
-/

namespace SignatureForms

/-! ## The rules -/

/-- The node of a type that is neither a record nor a union: nothing below it is unfolded. -/
def flatNode (types : TypeGraph) (d : TypeDescriptor) (slot : Slot) : Option ParamNode :=
  match d.kind with
  | .map => some (.map slot.info (mapShape types d.valueType))
  | .array => some (.array slot.info (arrayShape types d.elementType))
  | .typedesc => classifyTypeDescriptor types d.constraint slot
  | .nil => none
  | kind => kind.supported?.map slot.leaf

/-- The type is a union that may be entered: it is not entered yet and something of the budget is
left. -/
structure EntersUnion (types : TypeGraph) (type : TypeId) (active : List TypeId)
    (budget : Budget) : Prop where
  /-- The type is a union. -/
  kind : types.kind type = .union
  /-- The union is not entered yet. -/
  fresh : active.contains type = false
  /-- Something is left of the budget. -/
  funded : budget.exhausted = false

/-- The candidates of a union are put to choice: there are several, or there is one that is a union
itself. -/
def OffersChoice : List Candidate → Prop
  | [] => False
  | [candidate] => candidate.kind = .union
  | _ :: _ :: _ => True

mutual

/-- Classifying a type in a slot, inside the unions `active` and with a budget, gives a node, if
there is one, and leaves a budget. -/
inductive Classifies (types : TypeGraph) :
    TypeId → Slot → List TypeId → Budget → Option ParamNode → Budget → Prop
  | flat {type : TypeId} {slot : Slot} {active : List TypeId} {budget : Budget}
      (hunion : types.kind type ≠ .union) (hrecord : types.kind type ≠ .record) :
      Classifies types type slot active budget
        (flatNode types (types.descriptor type) slot) budget
  | closedRecord {type : TypeId} {slot : Slot} {active : List TypeId} {budget : Budget}
      (hkind : types.kind type = .record) (hout : budget.exhausted = true) :
      Classifies types type slot active budget
        (some (.record slot.info (recordDisplayName (types.descriptor type) slot.name)
          slot.fieldsPath [])) budget
  | openRecord {type : TypeId} {slot : Slot} {active : List TypeId} {budget left : Budget}
      {nodes : List ParamNode} (hkind : types.kind type = .record)
      (hfunded : budget.exhausted = false)
      (hfields : ClassifiesFields types slot.fieldsPath slot.required active
        (types.descriptor type).fields 0 budget nodes left) :
      Classifies types type slot active budget
        (some (.record slot.info (recordDisplayName (types.descriptor type) slot.name)
          slot.fieldsPath nodes)) left
  | closedUnion {type : TypeId} {slot : Slot} {active : List TypeId} {budget : Budget}
      (hkind : types.kind type = .union)
      (hclosed : active.contains type = true ∨ budget.exhausted = true) :
      Classifies types type slot active budget none budget
  | emptyUnion {type : TypeId} {slot : Slot} {active : List TypeId} {budget : Budget}
      (henter : EntersUnion types type active budget)
      (hcandidates : unionCandidates types [] (types.descriptor type).members = []) :
      Classifies types type slot active budget none budget
  | soleCandidate {type : TypeId} {slot : Slot} {active : List TypeId} {budget left : Budget}
      {candidate : Candidate} {node : Option ParamNode}
      (henter : EntersUnion types type active budget)
      (hcandidates : unionCandidates types [] (types.descriptor type).members = [candidate])
      (hkind : candidate.kind ≠ .union)
      (hnode : Classifies types candidate.type
        (slot.ofUnion types (types.descriptor type).members) active budget node left) :
      Classifies types type slot active budget node left
  | absentChoice {type : TypeId} {slot : Slot} {active : List TypeId} {budget left : Budget}
      (henter : EntersUnion types type active budget)
      (hchoice : OffersChoice (unionCandidates types [] (types.descriptor type).members))
      (hmembers : ClassifiesMembers types (slot.ofUnion types (types.descriptor type).members)
        (type :: active) (unionCandidates types [] (types.descriptor type).members) 0 budget
        [] left) :
      Classifies types type slot active budget none left
  | survivor {type kept : TypeId} {slot : Slot} {active : List TypeId}
      {budget left left' : Budget} {first : ParamNode} {node : Option ParamNode}
      (henter : EntersUnion types type active budget)
      (hchoice : OffersChoice (unionCandidates types [] (types.descriptor type).members))
      (hmembers : ClassifiesMembers types (slot.ofUnion types (types.descriptor type).members)
        (type :: active) (unionCandidates types [] (types.descriptor type).members) 0 budget
        [(first, kept)] left)
      (hfirst : first.isUnion = false)
      (hnode : Classifies types kept (slot.ofUnion types (types.descriptor type).members)
        (type :: active) budget node left') :
      Classifies types type slot active budget node left'
  | openUnion {type : TypeId} {slot : Slot} {active : List TypeId} {budget left : Budget}
      {members : List (ParamNode × TypeId)}
      (henter : EntersUnion types type active budget)
      (hchoice : OffersChoice (unionCandidates types [] (types.descriptor type).members))
      (hmembers : ClassifiesMembers types (slot.ofUnion types (types.descriptor type).members)
        (type :: active) (unionCandidates types [] (types.descriptor type).members) 0 budget
        members left)
      (hnonempty : members ≠ [])
      (hsole : ∀ only, members = [only] → only.1.isUnion = true) :
      Classifies types type slot active budget
        (some (.union (slot.ofUnion types (types.descriptor type).members).info
          (members.map Prod.fst))) left

/-- Classifying the fields of a record whose fields are named below `path`, the next node getting
the given position, gives nodes and leaves a budget. -/
inductive ClassifiesFields (types : TypeGraph) :
    String → Bool → List TypeId → List Field → Nat → Budget → List ParamNode → Budget → Prop
  | done {path : String} {required : Bool} {active : List TypeId} {position : Nat}
      {budget : Budget} : ClassifiesFields types path required active [] position budget [] budget
  | unsupported {path : String} {required : Bool} {active : List TypeId} {field : Field}
      {rest : List Field} {position : Nat} {budget left : Budget} {nodes : List ParamNode}
      (hnamed : field.name ≠ "") (hkind : (types.kind field.type).isSupported = false)
      (hrest : ClassifiesFields types path required active rest position budget nodes left) :
      ClassifiesFields types path required active (field :: rest) position budget nodes left
  | cut {path : String} {required : Bool} {active : List TypeId} {field : Field}
      {rest : List Field} {position : Nat} {budget : Budget}
      (hnamed : field.name ≠ "") (hkind : (types.kind field.type).isSupported = true)
      (hout : budget.exhausted = true) :
      ClassifiesFields types path required active (field :: rest) position budget [] budget.taken
  | absent {path : String} {required : Bool} {active : List TypeId} {field : Field}
      {rest : List Field} {position : Nat} {budget left left' : Budget} {nodes : List ParamNode}
      (hnamed : field.name ≠ "") (hkind : (types.kind field.type).isSupported = true)
      (hfunded : budget.exhausted = false)
      (hnode : Classifies types field.type (.ofField path required position field) active
        budget.taken none left)
      (hrest : ClassifiesFields types path required active rest position left.refund nodes
        left') :
      ClassifiesFields types path required active (field :: rest) position budget nodes left'
  | present {path : String} {required : Bool} {active : List TypeId} {field : Field}
      {rest : List Field} {position : Nat} {budget left left' : Budget} {node : ParamNode}
      {nodes : List ParamNode}
      (hnamed : field.name ≠ "") (hkind : (types.kind field.type).isSupported = true)
      (hfunded : budget.exhausted = false)
      (hnode : Classifies types field.type (.ofField path required position field) active
        budget.taken (some node) left)
      (hrest : ClassifiesFields types path required active rest (position + 1) left nodes
        left') :
      ClassifiesFields types path required active (field :: rest) position budget
        (node :: nodes) left'

/-- Classifying the candidates of a union in `slot`, the next node getting the given position,
gives nodes with their types and leaves a budget. -/
inductive ClassifiesMembers (types : TypeGraph) :
    Slot → List TypeId → List Candidate → Nat → Budget → List (ParamNode × TypeId) → Budget → Prop
  | done {slot : Slot} {inside : List TypeId} {position : Nat} {budget : Budget} :
      ClassifiesMembers types slot inside [] position budget [] budget
  | absent {slot : Slot} {inside : List TypeId} {candidate : Candidate}
      {rest : List Candidate} {position : Nat} {budget left left' : Budget}
      {members : List (ParamNode × TypeId)}
      (hnode : Classifies types candidate.type (slot.ofMember candidate.label position) inside
        budget none left)
      (hrest : ClassifiesMembers types slot inside rest position budget members left') :
      ClassifiesMembers types slot inside (candidate :: rest) position budget members left'
  | present {slot : Slot} {inside : List TypeId} {candidate : Candidate}
      {rest : List Candidate} {position : Nat} {budget left left' : Budget} {node : ParamNode}
      {members : List (ParamNode × TypeId)}
      (hnode : Classifies types candidate.type (slot.ofMember candidate.label position) inside
        budget (some node) left)
      (hrest : ClassifiesMembers types slot inside rest (position + 1) left members left') :
      ClassifiesMembers types slot inside (candidate :: rest) position budget
        ((node.asMember candidate.label
          (.when (discriminatorName slot.value) candidate.label), candidate.type) :: members)
        left'

end

/-! ## What is computed has a derivation -/

section Computed

variable {types : TypeGraph}

/-- Where the results for the types below have derivations, so has a run over fields. -/
theorem classifiesFields_of_eq_ok {child : TypeId → Slot → Budget → Classified}
    {active : List TypeId}
    (hchild : ∀ {type slot budget node left}, child type slot budget = .ok (node, left) →
      Classifies types type slot active budget node left)
    {recordName path : String} {required : Bool} {fields : List Field} {position : Nat}
    {budget left : Budget} {nodes : List ParamNode}
    (hrun : classifyFields types child recordName path required fields position budget =
      .ok (nodes, left)) :
    ClassifiesFields types path required active fields position budget nodes left := by
  induction fields generalizing position budget nodes left with
  | nil =>
    cases hrun
    exact .done
  | cons field rest ih =>
    rw [classifyFields] at hrun
    split at hrun
    · cases hrun
    · next hempty =>
      have hnamed : field.name ≠ "" := by simpa using hempty
      split at hrun
      · next hkind => exact .unsupported hnamed (by simpa using hkind) (ih hrun)
      · next hsupported =>
        have hkind : (types.kind field.type).isSupported = true := by simpa using hsupported
        -- a reservation fails just when nothing is left, and then the rest is cut off
        rw [Budget.reserve_fst_eq_not_exhausted, Bool.not_not] at hrun
        split at hrun
        · next hout =>
          cases hrun
          exact .cut hnamed hkind hout
        · next hleft =>
          have hfunded : budget.exhausted = false := by simpa using hleft
          split at hrun
          · cases hrun
          · next hnode => exact .absent hnamed hkind hfunded (hchild hnode) (ih hrun)
          · next hnode =>
            split at hrun
            · cases hrun
            · next hrest =>
              cases hrun
              exact .present hnamed hkind hfunded (hchild hnode) (ih hrest)

/-- Where the results for the types below have derivations, so has a run over candidates. -/
theorem classifiesMembers_of_eq_ok {child : TypeId → Slot → Budget → Classified}
    {inside : List TypeId}
    (hchild : ∀ {type slot budget node left}, child type slot budget = .ok (node, left) →
      Classifies types type slot inside budget node left)
    {slot : Slot} {candidates : List Candidate} {position : Nat} {budget left : Budget}
    {members : List (ParamNode × TypeId)}
    (hrun : classifyMembers child slot candidates position budget = .ok (members, left)) :
    ClassifiesMembers types slot inside candidates position budget members left := by
  induction candidates generalizing position budget members left with
  | nil =>
    cases hrun
    exact .done
  | cons candidate rest ih =>
    rw [classifyMembers] at hrun
    split at hrun
    · cases hrun
    -- what a candidate without a node has spent is given back
    · next hnode =>
      rw [Budget.restore_checkpoint] at hrun
      exact .absent (hchild hnode) (ih hrun)
    · next hnode =>
      split at hrun
      · cases hrun
      · next hrest =>
        cases hrun
        exact .present (hchild hnode) (ih hrest)

/-- Where the results for the types below have derivations, so has a choice. -/
theorem classifies_of_classifyChoice {child : ChildClassifier}
    (hchild : ∀ {type slot inside budget node left},
      child type slot inside budget = .ok (node, left) →
        Classifies types type slot inside budget node left)
    {type : TypeId} {slot : Slot} {active : List TypeId} {budget left : Budget}
    {node : Option ParamNode} (henter : EntersUnion types type active budget)
    (hchoice : OffersChoice (unionCandidates types [] (types.descriptor type).members))
    (hrun : classifyChoice child (slot.ofUnion types (types.descriptor type).members)
      (type :: active) (unionCandidates types [] (types.descriptor type).members) budget =
        .ok (node, left)) :
    Classifies types type slot active budget node left := by
  rw [classifyChoice] at hrun
  split at hrun
  · cases hrun
  · next hmembers =>
    cases hrun
    exact .absentChoice henter hchoice (classifiesMembers_of_eq_ok hchild hmembers)
  · next hmembers =>
    have hfound := classifiesMembers_of_eq_ok hchild hmembers
    split at hrun
    · next hunion =>
      cases hrun
      refine .openUnion henter hchoice hfound (by simp) fun only heq => ?_
      cases heq
      exact hunion
    -- a single member that is no union is built again, in the place of the union
    · next hleaf =>
      rw [Budget.restore_checkpoint] at hrun
      exact .survivor henter hchoice hfound (by simpa using hleaf) (hchild hrun)
  · next hnone hsole hmembers =>
    cases hrun
    refine .openUnion henter hchoice (classifiesMembers_of_eq_ok hchild hmembers) ?_ ?_
    · rintro rfl
      exact hnone rfl
    · rintro ⟨only, kept⟩ rfl
      exact absurd rfl (hsole only kept)

/-- Where the results for the types below have derivations, so has a union. -/
theorem classifies_of_classifyUnion {child : ChildClassifier}
    (hchild : ∀ {type slot inside budget node left},
      child type slot inside budget = .ok (node, left) →
        Classifies types type slot inside budget node left)
    {type : TypeId} {slot : Slot} {active : List TypeId} {budget left : Budget}
    {node : Option ParamNode} (hkind : types.kind type = .union)
    (hrun : classifyUnion types child type (types.descriptor type) slot active budget =
      .ok (node, left)) :
    Classifies types type slot active budget node left := by
  simp only [classifyUnion] at hrun
  split at hrun
  · next hclosed =>
    -- a union that is open already, or without budget, is not entered
    cases hrun
    exact .closedUnion hkind (by simpa using hclosed)
  · next hopen =>
    rw [Bool.or_eq_true, not_or, Bool.not_eq_true, Bool.not_eq_true] at hopen
    have henter : EntersUnion types type active budget := ⟨hkind, hopen.1, hopen.2⟩
    split at hrun
    · next hcandidates =>
      cases hrun
      exact .emptyUnion henter hcandidates
    · next candidate hcandidates =>
      -- a sole candidate offers a choice only if it is a union itself
      split at hrun
      · next hunion =>
        have hchoice : OffersChoice (unionCandidates types [] (types.descriptor type).members) := by
          rw [hcandidates]
          exact beq_iff_eq.1 hunion
        rw [← hcandidates] at hrun
        exact classifies_of_classifyChoice hchild henter hchoice hrun
      · next hleaf =>
        refine .soleCandidate henter hcandidates ?_ (hchild hrun)
        simpa using hleaf
    · next hnone hsole =>
      refine classifies_of_classifyChoice hchild henter ?_ hrun
      -- there are two candidates at least
      rcases hcandidates : unionCandidates types [] (types.descriptor type).members with
        _ | ⟨candidate, _ | ⟨second, rest⟩⟩
      · exact absurd hcandidates hnone
      · exact absurd hcandidates (hsole candidate)
      · trivial

/-- A type that is neither a record nor a union is classified at once. -/
theorem classifyLevel_eq_flat {child : ChildClassifier} {type : TypeId}
    (hunion : types.kind type ≠ .union) (hrecord : types.kind type ≠ .record) (slot : Slot)
    (active : List TypeId) (budget : Budget) :
    classifyLevel types child type slot active budget =
      .ok (flatNode types (types.descriptor type) slot, budget) := by
  rw [TypeGraph.kind] at hunion hrecord
  unfold classifyLevel flatNode
  split <;> simp_all

/-- Where the results for the types below have derivations, so has one level of classification. -/
theorem classifies_of_classifyLevel {child : ChildClassifier}
    (hchild : ∀ {type slot inside budget node left},
      child type slot inside budget = .ok (node, left) →
        Classifies types type slot inside budget node left)
    {type : TypeId} {slot : Slot} {active : List TypeId} {budget left : Budget}
    {node : Option ParamNode}
    (hrun : classifyLevel types child type slot active budget = .ok (node, left)) :
    Classifies types type slot active budget node left := by
  -- there is a rule for unions, two for records, and one for all other kinds
  by_cases hunion : types.kind type = .union
  · rw [TypeGraph.kind] at hunion
    simp only [classifyLevel, hunion] at hrun
    exact classifies_of_classifyUnion hchild hunion hrun
  by_cases hrecord : types.kind type = .record
  · rw [TypeGraph.kind] at hrecord
    simp only [classifyLevel, hrecord, classifyRecord] at hrun
    split at hrun
    · next hout =>
      cases hrun
      exact .closedRecord hrecord hout
    · next hleft =>
      split at hrun
      · cases hrun
      · next hfields =>
        cases hrun
        exact .openRecord hrecord (by simpa using hleft) (classifiesFields_of_eq_ok hchild hfields)
  · rw [classifyLevel_eq_flat hunion hrecord] at hrun
    cases hrun
    exact .flat hunion hrecord

/-- Classification at a depth, with an answer only for types that take no more levels than that.
The fault stands for no answer. -/
def classifyUpTo (types : TypeGraph) (depth : Nat) : ChildClassifier :=
  fun type slot active budget =>
    if levels types type active budget ≤ depth then classifyWithin types depth type slot active budget
    else .error (.unnamedField "")

/-- What is computed at a depth of at least as many levels as the type can take has a
derivation. -/
theorem classifies_of_classifyWithin {depth : Nat} {type : TypeId} {slot : Slot}
    {active : List TypeId} {budget left : Budget} {node : Option ParamNode}
    (hdepth : levels types type active budget ≤ depth)
    (hrun : classifyWithin types depth type slot active budget = .ok (node, left)) :
    Classifies types type slot active budget node left := by
  -- on the depth: a level looks up the types below it at one less
  induction depth generalizing type slot active budget node left with
  | zero =>
    rw [levels] at hdepth
    split at hdepth <;> omega
  | succ depth ih =>
    rw [classifyWithin] at hrun
    -- the types below take fewer levels, so nothing changes when only those are looked up
    have hsame : classifyLevel types (classifyWithin types depth) type slot active budget =
        classifyLevel types (classifyUpTo types depth) type slot active budget :=
      classifyLevel_congr (classifyWithin_thrifty types depth) fun t place inside b hless =>
        (if_pos (by omega)).symm
    rw [hsame] at hrun
    refine classifies_of_classifyLevel (fun {t place inside b found rest} hbelow => ?_) hrun
    rw [classifyUpTo] at hbelow
    split at hbelow
    · next hlevels => exact ih hlevels hbelow
    · cases hbelow

end Computed

/-! ## Classification gives a result -/

section Total

variable {types : TypeGraph}

/-- The fields of the records are named. -/
def FieldsNamed (types : TypeGraph) : Prop :=
  ∀ id, types.kind id = .record → ∀ field ∈ (types.descriptor id).fields, field.name ≠ ""

/-- A number stands for a descriptor of the graph or for a type of no known kind. -/
theorem descriptor_mem_or_eq_default (types : TypeGraph) (id : TypeId) :
    types.descriptor id ∈ types.descriptors.toList ∨ types.descriptor id = default := by
  rw [TypeGraph.descriptor]
  cases hfound : types.descriptors[id]? with
  | none => exact .inr rfl
  | some d => exact .inl (Array.mem_toList_iff.2 (Array.mem_of_getElem? hfound))

/-- Only the descriptors of the graph need be looked at. -/
theorem fieldsNamed_iff :
    FieldsNamed types ↔ ∀ d ∈ types.descriptors.toList, d.kind = .record →
      ∀ field ∈ d.fields, field.name ≠ "" := by
  constructor
  · intro hnamed d hd
    obtain ⟨id, hlt, rfl⟩ := List.getElem_of_mem hd
    have hsame : types.descriptor id = types.descriptors.toList[id] := by
      rw [Array.length_toList] at hlt
      simp [TypeGraph.descriptor, hlt]
    rw [← hsame]
    exact hnamed id
  · intro hall id hkind
    rcases descriptor_mem_or_eq_default types id with hmem | hdefault
    · exact hall _ hmem hkind
    · rw [TypeGraph.kind, hdefault] at hkind
      cases hkind

instance (types : TypeGraph) : Decidable (FieldsNamed types) :=
  decidable_of_iff _ fieldsNamed_iff.symm

/-- Named fields are classified if the types below are. -/
theorem exists_classifyFields {child : TypeId → Slot → Budget → Classified}
    (hchild : ∀ type slot budget, ∃ result, child type slot budget = .ok result)
    (recordName path : String) (required : Bool) {fields : List Field}
    (hnamed : ∀ field ∈ fields, field.name ≠ "") (position : Nat) (budget : Budget) :
    ∃ result, classifyFields types child recordName path required fields position budget =
      .ok result := by
  induction fields generalizing position budget with
  | nil => exact ⟨_, rfl⟩
  | cons field rest ih =>
    have hrest := ih fun f hf => hnamed f (List.mem_cons_of_mem _ hf)
    have hname : field.name.isEmpty = false := by
      simpa using hnamed field List.mem_cons_self
    simp only [classifyFields, hname, Bool.false_eq_true, if_false]
    split
    · exact hrest position budget
    · split
      · exact ⟨_, rfl⟩
      · obtain ⟨⟨node, left⟩, hnode⟩ :=
          hchild field.type (.ofField path required position field) budget.reserve.2
        rw [hnode]
        cases node with
        | none => exact hrest position left.refund
        | some node =>
          obtain ⟨⟨nodes, last⟩, hnodes⟩ := hrest (position + 1) left
          dsimp only
          rw [hnodes]
          exact ⟨_, rfl⟩

/-- Candidates are classified if the types below are. -/
theorem exists_classifyMembers {child : TypeId → Slot → Budget → Classified}
    (hchild : ∀ type slot budget, ∃ result, child type slot budget = .ok result) (slot : Slot)
    (candidates : List Candidate) (position : Nat) (budget : Budget) :
    ∃ result, classifyMembers child slot candidates position budget = .ok result := by
  induction candidates generalizing position budget with
  | nil => exact ⟨_, rfl⟩
  | cons candidate rest ih =>
    obtain ⟨⟨node, left⟩, hnode⟩ :=
      hchild candidate.type (slot.ofMember candidate.label position) budget
    rw [classifyMembers, hnode]
    cases node with
    | none => exact ih position (left.restore budget.checkpoint)
    | some node =>
      obtain ⟨⟨members, last⟩, hmembers⟩ := ih (position + 1) left
      dsimp only
      rw [hmembers]
      exact ⟨_, rfl⟩

/-- A choice is classified if the types below are. -/
theorem exists_classifyChoice {child : ChildClassifier}
    (hchild : ∀ type slot inside budget, ∃ result, child type slot inside budget = .ok result)
    (slot : Slot) (inside : List TypeId) (candidates : List Candidate) (budget : Budget) :
    ∃ result, classifyChoice child slot inside candidates budget = .ok result := by
  obtain ⟨⟨members, left⟩, hmembers⟩ :=
    exists_classifyMembers (fun type place => hchild type place inside) slot candidates 0 budget
  rw [classifyChoice, hmembers]
  rcases members with _ | ⟨⟨node, type⟩, _ | ⟨second, rest⟩⟩
  · exact ⟨_, rfl⟩
  · dsimp only
    split
    · exact ⟨_, rfl⟩
    · exact hchild type slot inside _
  · exact ⟨_, rfl⟩

/-- Where the fields of records are named, classification gives a result at every depth. -/
theorem exists_classifyWithin (hnamed : FieldsNamed types) (depth : Nat) (type : TypeId)
    (slot : Slot) (active : List TypeId) (budget : Budget) :
    ∃ result, classifyWithin types depth type slot active budget = .ok result := by
  induction depth generalizing type slot active budget with
  | zero => exact ⟨_, rfl⟩
  | succ depth ih =>
    rw [classifyWithin]
    by_cases hunion : types.kind type = .union
    · rw [TypeGraph.kind] at hunion
      -- each branch ends at once or goes one level down
      simp only [classifyLevel, hunion, classifyUnion]
      split
      · exact ⟨_, rfl⟩
      · split
        · exact ⟨_, rfl⟩
        · split
          · exact exists_classifyChoice ih _ _ _ _
          · exact ih _ _ _ _
        · exact exists_classifyChoice ih _ _ _ _
    by_cases hrecord : types.kind type = .record
    · have hfields := hnamed type hrecord
      rw [TypeGraph.kind] at hrecord
      simp only [classifyLevel, hrecord, classifyRecord]
      split
      · exact ⟨_, rfl⟩
      · obtain ⟨⟨nodes, left⟩, hnodes⟩ :=
          exists_classifyFields (fun t place b => ih t place active b)
            (recordDisplayName (types.descriptor type) slot.name) slot.fieldsPath slot.required
            hfields 0 budget
        rw [hnodes]
        exact ⟨_, rfl⟩
    · exact ⟨_, classifyLevel_eq_flat hunion hrecord slot active budget⟩

end Total

/-! ## Parameters -/

/-- The place of a parameter at the root of its tree. -/
def Slot.ofParameter (position : Int) (name : String) (required : Bool)
    (description : Option String) : Slot where
  position := position
  value := name
  name := name
  required := required
  fieldsPath := ""
  description := description

/-- The result for a parameter has a derivation, and the parameter has a name. -/
theorem classifies_of_classify {types : TypeGraph} {type : TypeId} {position : Int}
    {budget left : Budget} {name : String} {required : Bool} {description : Option String}
    {node : Option ParamNode}
    (hrun : classify types type position budget name required description = .ok (node, left)) :
    name ≠ "" ∧
      Classifies types type (.ofParameter position name required description) [] budget node
        left := by
  rw [classify] at hrun
  split at hrun
  · cases hrun
  · next hname =>
    exact ⟨by simpa using hname,
      classifies_of_classifyWithin (levels_nil_le_classifyDepth types type budget) hrun⟩

/-- Where the fields of records are named, a parameter with a name is classified. -/
theorem exists_classify {types : TypeGraph} (hnamed : FieldsNamed types) (type : TypeId)
    (position : Int) (budget : Budget) {name : String} (hname : name ≠ "") (required : Bool)
    (description : Option String) :
    ∃ node left,
      classify types type position budget name required description = .ok (node, left) := by
  have hfull : name.isEmpty = false := by simpa using hname
  obtain ⟨⟨node, left⟩, hrun⟩ := exists_classifyWithin hnamed (classifyDepth types budget) type
    (.ofParameter position name required description) [] budget
  refine ⟨node, left, ?_⟩
  rw [classify, hfull]
  exact hrun

end SignatureForms
