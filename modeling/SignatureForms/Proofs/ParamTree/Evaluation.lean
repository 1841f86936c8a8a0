import SignatureForms.Proofs.ParamTree.Derivation

/-!
# Evaluation of derivations

What is computed at a sufficient depth has a derivation. This module shows the converse: a
derivation is found by computing deep enough, so that both say the same and statements about
parameters can be proved by induction on derivations alone.

## Main results

* `classifyWithin_eq_ok_iff`: at a depth that suffices, classification gives what has a
  derivation;
* `classify_eq_ok_iff`: so it does for a parameter with a name;
* `Classifies.unique`: a type in a slot has one node and leaves one budget.
-/

namespace SignatureForms

/-! ## The branch that a level takes -/

section Branches

variable {types : TypeGraph} {child : ChildClassifier} {type : TypeId} {slot : Slot}
  {active inside : List TypeId} {budget left : Budget} {candidates : List Candidate}

theorem classifyLevel_eq_classifyUnion (hkind : types.kind type = .union) :
    classifyLevel types child type slot active budget =
      classifyUnion types child type (types.descriptor type) slot active budget := by
  rw [TypeGraph.kind] at hkind
  simp only [classifyLevel, hkind]

theorem classifyLevel_eq_classifyRecord (hkind : types.kind type = .record) :
    classifyLevel types child type slot active budget =
      classifyRecord types (fun t place => child t place active) (types.descriptor type) slot
        budget := by
  rw [TypeGraph.kind] at hkind
  simp only [classifyLevel, hkind]

/-- A reservation takes one unit and fails just when nothing is left. -/
theorem Budget.reserve_eq (budget : Budget) :
    budget.reserve = (!budget.exhausted, budget.taken) :=
  Prod.ext budget.reserve_fst_eq_not_exhausted rfl

/-- A union that may be entered looks at its candidates. -/
theorem EntersUnion.closed_eq_false (henter : EntersUnion types type active budget) :
    (active.contains type || budget.exhausted) = false := by
  rw [henter.fresh, henter.funded]
  rfl

/-- A single candidate that is no union takes the place of the union. -/
theorem classifyUnion_eq_child {candidate : Candidate}
    (henter : EntersUnion types type active budget)
    (hcandidates : unionCandidates types [] (types.descriptor type).members = [candidate])
    (hkind : candidate.kind ≠ .union) :
    classifyUnion types child type (types.descriptor type) slot active budget =
      child candidate.type (slot.ofUnion types (types.descriptor type).members) active budget := by
  simp only [classifyUnion, henter.closed_eq_false, hcandidates]
  simp [hkind]

/-- Several candidates, or one that is a union, are put to choice. -/
theorem classifyUnion_eq_classifyChoice (henter : EntersUnion types type active budget)
    (hchoice : OffersChoice (unionCandidates types [] (types.descriptor type).members)) :
    classifyUnion types child type (types.descriptor type) slot active budget =
      classifyChoice child (slot.ofUnion types (types.descriptor type).members)
        (type :: active) (unionCandidates types [] (types.descriptor type).members) budget := by
  simp only [classifyUnion, henter.closed_eq_false]
  rcases hcandidates : unionCandidates types [] (types.descriptor type).members with
    _ | ⟨candidate, _ | ⟨_, _⟩⟩
  · exact absurd hchoice (by simp [hcandidates, OffersChoice])
  · have hkind : candidate.kind = .union := by simpa [hcandidates, OffersChoice] using hchoice
    simp [hkind]
  · simp

theorem classifyChoice_eq_absent
    (hmembers : classifyMembers (fun t place => child t place inside) slot candidates 0 budget =
      .ok ([], left)) :
    classifyChoice child slot inside candidates budget = .ok (none, left) := by
  rw [classifyChoice, hmembers]

/-- A single member that is no union is built again. -/
theorem classifyChoice_eq_child {first : ParamNode} {kept : TypeId}
    (hmembers : classifyMembers (fun t place => child t place inside) slot candidates 0 budget =
      .ok ([(first, kept)], left)) (hfirst : first.isUnion = false) :
    classifyChoice child slot inside candidates budget = child kept slot inside budget := by
  rw [classifyChoice, hmembers]
  simp [hfirst]

/-- Several members, or one that is a union, make a union. -/
theorem classifyChoice_eq_union {members : List (ParamNode × TypeId)}
    (hmembers : classifyMembers (fun t place => child t place inside) slot candidates 0 budget =
      .ok (members, left)) (hnonempty : members ≠ [])
    (hsole : ∀ only, members = [only] → only.1.isUnion = true) :
    classifyChoice child slot inside candidates budget =
      .ok (some (.union slot.info (members.map Prod.fst)), left) := by
  rw [classifyChoice, hmembers]
  rcases members with _ | ⟨only, _ | ⟨_, _⟩⟩
  · exact absurd rfl hnonempty
  · have hunion : only.1.isUnion = true := hsole only rfl
    simp [hunion]
  · rfl

end Branches

/-! ## A derivation is found deep enough -/

section Found

variable {types : TypeGraph}

/-- From some depth on, classification gives the node and leaves the budget. -/
def FoundBelow (types : TypeGraph) (type : TypeId) (slot : Slot) (active : List TypeId)
    (budget : Budget) (node : Option ParamNode) (left : Budget) : Prop :=
  ∃ least, ∀ depth, least ≤ depth →
    classifyWithin types depth type slot active budget = .ok (node, left)

/-- What one level gives for the types below, it gives from one depth more on. -/
theorem FoundBelow.of_level {type : TypeId} {slot : Slot} {active : List TypeId}
    {budget left : Budget} {node : Option ParamNode} (least : Nat)
    (hlevel : ∀ depth, least ≤ depth →
      classifyLevel types (classifyWithin types depth) type slot active budget =
        .ok (node, left)) :
    FoundBelow types type slot active budget node left := by
  refine ⟨least + 1, fun depth hdepth => ?_⟩
  obtain _ | depth := depth
  · omega
  · show classifyLevel types (classifyWithin types depth) type slot active budget = _
    exact hlevel depth (by omega)

mutual

/-- A derivation is found from some depth on. -/
theorem Classifies.foundBelow {type : TypeId} {slot : Slot} {active : List TypeId}
    {budget left : Budget} {node : Option ParamNode} :
    Classifies types type slot active budget node left →
      FoundBelow types type slot active budget node left
  | .flat hunion hrecord =>
    .of_level 0 fun _ _ => classifyLevel_eq_flat hunion hrecord slot active budget
  | .closedRecord hkind hout => by
    apply FoundBelow.of_level 0
    intro depth _
    rw [classifyLevel_eq_classifyRecord hkind]
    simp [classifyRecord, hout]
  | .openRecord hkind hfunded hfields => by
    obtain ⟨least, hfound⟩ := hfields.foundBelow
    apply FoundBelow.of_level least
    intro depth hdepth
    rw [classifyLevel_eq_classifyRecord hkind]
    simp [classifyRecord, hfunded, hfound depth hdepth]
  | .closedUnion hkind hclosed => by
    apply FoundBelow.of_level 0
    intro depth _
    have hshut : (active.contains type || budget.exhausted) = true := by simpa using hclosed
    rw [classifyLevel_eq_classifyUnion hkind]
    simp only [classifyUnion, hshut, if_true]
  | .emptyUnion henter hcandidates => by
    apply FoundBelow.of_level 0
    intro depth _
    rw [classifyLevel_eq_classifyUnion henter.kind]
    simp only [classifyUnion, henter.closed_eq_false, hcandidates]
    rfl
  | .soleCandidate henter hcandidates hkind hnode => by
    obtain ⟨least, hfound⟩ := hnode.foundBelow
    apply FoundBelow.of_level least
    intro depth hdepth
    rw [classifyLevel_eq_classifyUnion henter.kind,
      classifyUnion_eq_child henter hcandidates hkind]
    exact hfound depth hdepth
  | .absentChoice henter hchoice hmembers => by
    obtain ⟨least, hfound⟩ := hmembers.foundBelow
    apply FoundBelow.of_level least
    intro depth hdepth
    rw [classifyLevel_eq_classifyUnion henter.kind,
      classifyUnion_eq_classifyChoice henter hchoice]
    exact classifyChoice_eq_absent (hfound depth hdepth)
  -- both builds of a survivor have to be found, so the depth must suffice for either
  | .survivor henter hchoice hmembers hfirst hnode => by
    obtain ⟨least, hfound⟩ := hmembers.foundBelow
    obtain ⟨least', hfound'⟩ := hnode.foundBelow
    apply FoundBelow.of_level (max least least')
    intro depth hdepth
    rw [classifyLevel_eq_classifyUnion henter.kind,
      classifyUnion_eq_classifyChoice henter hchoice,
      classifyChoice_eq_child (hfound depth (by omega)) hfirst]
    exact hfound' depth (by omega)
  | .openUnion henter hchoice hmembers hnonempty hsole => by
    obtain ⟨least, hfound⟩ := hmembers.foundBelow
    apply FoundBelow.of_level least
    intro depth hdepth
    rw [classifyLevel_eq_classifyUnion henter.kind,
      classifyUnion_eq_classifyChoice henter hchoice]
    exact classifyChoice_eq_union (hfound depth hdepth) hnonempty hsole

/-- A derivation for fields is found from some depth on, whatever the record is called. -/
theorem ClassifiesFields.foundBelow {path : String} {required : Bool} {active : List TypeId}
    {fields : List Field} {position : Nat} {budget left : Budget} {nodes : List ParamNode} :
    ClassifiesFields types path required active fields position budget nodes left →
      ∃ least, ∀ depth, least ≤ depth → ∀ recordName,
        classifyFields types (fun t place => classifyWithin types depth t place active) recordName
          path required fields position budget = .ok (nodes, left)
  | .done => ⟨0, fun _ _ _ => rfl⟩
  | .unsupported hnamed hkind hrest => by
    obtain ⟨least, hfound⟩ := hrest.foundBelow
    refine ⟨least, fun depth hdepth recordName => ?_⟩
    simp [classifyFields, hnamed, hkind, hfound depth hdepth]
  | .cut hnamed hkind hout => by
    refine ⟨0, fun depth _ recordName => ?_⟩
    simp [classifyFields, hnamed, hkind, Budget.reserve_eq, hout]
  | .absent hnamed hkind hfunded hnode hrest => by
    obtain ⟨least, hfound⟩ := hnode.foundBelow
    obtain ⟨least', hfound'⟩ := hrest.foundBelow
    refine ⟨max least least', fun depth hdepth recordName => ?_⟩
    have hhere := hfound depth (by omega)
    have hafter := hfound' depth (by omega) recordName
    simp [classifyFields, hnamed, hkind, Budget.reserve_eq, hfunded, hhere, hafter]
  | .present hnamed hkind hfunded hnode hrest => by
    obtain ⟨least, hfound⟩ := hnode.foundBelow
    obtain ⟨least', hfound'⟩ := hrest.foundBelow
    refine ⟨max least least', fun depth hdepth recordName => ?_⟩
    have hhere := hfound depth (by omega)
    have hafter := hfound' depth (by omega) recordName
    simp [classifyFields, hnamed, hkind, Budget.reserve_eq, hfunded, hhere, hafter]

/-- A derivation for candidates is found from some depth on. -/
theorem ClassifiesMembers.foundBelow {slot : Slot} {inside : List TypeId}
    {candidates : List Candidate} {position : Nat} {budget left : Budget}
    {members : List (ParamNode × TypeId)} :
    ClassifiesMembers types slot inside candidates position budget members left →
      ∃ least, ∀ depth, least ≤ depth →
        classifyMembers (fun t place => classifyWithin types depth t place inside) slot candidates
          position budget = .ok (members, left)
  | .done => ⟨0, fun _ _ => rfl⟩
  | .absent hnode hrest => by
    obtain ⟨least, hfound⟩ := hnode.foundBelow
    obtain ⟨least', hfound'⟩ := hrest.foundBelow
    refine ⟨max least least', fun depth hdepth => ?_⟩
    have hhere := hfound depth (by omega)
    have hafter := hfound' depth (by omega)
    simp [classifyMembers, hhere, hafter]
  | .present hnode hrest => by
    obtain ⟨least, hfound⟩ := hnode.foundBelow
    obtain ⟨least', hfound'⟩ := hrest.foundBelow
    refine ⟨max least least', fun depth hdepth => ?_⟩
    have hhere := hfound depth (by omega)
    have hafter := hfound' depth (by omega)
    simp [classifyMembers, hhere, hafter]

end

end Found

/-! ## Derivations and computations agree -/

section Agreement

variable {types : TypeGraph} {type : TypeId} {slot : Slot} {active : List TypeId}
  {budget left left' : Budget} {node node' : Option ParamNode}

/-- At a depth of at least as many levels as the type can take, classification gives what has a
derivation. -/
theorem classifyWithin_eq_ok_iff {depth : Nat}
    (hdepth : levels types type active budget ≤ depth) :
    classifyWithin types depth type slot active budget = .ok (node, left) ↔
      Classifies types type slot active budget node left := by
  constructor
  · exact classifies_of_classifyWithin hdepth
  · intro hderivation
    obtain ⟨least, hfound⟩ := hderivation.foundBelow
    -- the depth at which the derivation is found may be larger, which changes nothing
    have hdeeper := hfound (max least depth) (by omega)
    rwa [classifyWithin_eq_of_levels_le (by omega) hdepth] at hdeeper

/-- A type in a slot, with a budget, has one node and leaves one budget. -/
theorem Classifies.unique (h : Classifies types type slot active budget node left)
    (h' : Classifies types type slot active budget node' left') :
    node = node' ∧ left = left' := by
  have hfound := (classifyWithin_eq_ok_iff (Nat.le_refl _)).2 h
  have hfound' := (classifyWithin_eq_ok_iff (Nat.le_refl _)).2 h'
  rw [hfound] at hfound'
  cases hfound'
  exact ⟨rfl, rfl⟩

/-- A parameter gives what has a derivation, if it has a name. -/
theorem classify_eq_ok_iff {position : Int} {name : String} {required : Bool}
    {description : Option String} :
    classify types type position budget name required description = .ok (node, left) ↔
      name ≠ "" ∧
        Classifies types type (.ofParameter position name required description) [] budget node
          left := by
  constructor
  · exact classifies_of_classify
  · rintro ⟨hname, hderivation⟩
    have hfull : name.isEmpty = false := by simpa using hname
    rw [classify, hfull]
    exact (classifyWithin_eq_ok_iff (levels_nil_le_classifyDepth types type budget)).2 hderivation

end Agreement

end SignatureForms
