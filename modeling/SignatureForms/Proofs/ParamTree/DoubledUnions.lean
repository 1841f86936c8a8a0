import SignatureForms.Proofs.ParamTree.Cutoff
import SignatureForms.Proofs.ParamTree.Simplification

/-!
# Unions that have a type twice

A union tells its members apart by labels, and of several members with one label the first counts.
Most types have a label of their own, so that a type that stands twice in a union counts once, and
the union is classified as the type. A record without a name is labelled by the number of candidates
before it: it gets a new label each time and is offered twice.

The module introduces:

* `Doubles types union type` — the union has the type as both of its members;
* `LabelledByType types type` — the label of the type does not depend on its place in a union.

## Main results

* `unionCandidates_doubled`: a type with a label of its own makes one candidate;
* `classify_doubled`: a doubled union is classified as the type, nodes, budgets and faults alike, if
  the type has a label of its own, and otherwise to a choice between the type and itself;
  `classify_doubled_point` is such a choice.
-/

namespace SignatureForms

/-- The union has the type as both of its members. -/
structure Doubles (types : TypeGraph) (union type : TypeId) : Prop where
  /-- The type with the two members is a union. -/
  kind : types.kind union = .union
  /-- Both members of the union are the type. -/
  members : (types.descriptor union).members = [type, type]

/-- The label of the type as a member of a union is its own: it is no record, or has a name. -/
def LabelledByType (types : TypeGraph) (type : TypeId) : Prop :=
  types.kind type = .record → TypeDescriptor.nonEmpty? (types.descriptor type).name ≠ none

instance (types : TypeGraph) (type : TypeId) : Decidable (LabelledByType types type) :=
  inferInstanceAs (Decidable (_ → _))

section Candidates

variable {types : TypeGraph} {type : TypeId}

/-- A label of its own is the same at every place. -/
theorem candidateLabel_eq_of_labelledByType (hlabel : LabelledByType types type)
    (hunion : types.kind type ≠ .union) (position other : Nat) :
    candidateLabel (types.descriptor type) position =
      candidateLabel (types.descriptor type) other := by
  rw [LabelledByType] at hlabel
  rw [TypeGraph.kind] at hlabel hunion
  unfold candidateLabel
  split
  · next hrecord =>
    obtain ⟨name, hname⟩ := Option.ne_none_iff_exists'.1 (hlabel hrecord)
    rw [hname]
    rfl
  · next hkind => exact absurd hkind hunion
  · rfl

/-- The label of a record without a name is its number. -/
theorem candidateLabel_of_not_labelledByType (hlabel : ¬LabelledByType types type)
    (position : Nat) :
    candidateLabel (types.descriptor type) position = "Record" ++ toString position := by
  rw [LabelledByType, Classical.not_imp, not_not, TypeGraph.kind] at hlabel
  rw [candidateLabel, hlabel.1, hlabel.2]
  rfl

/-- A type of a supported kind that is not the absent value counts if its label is new. -/
theorem isRedundant_eq (hsupported : (types.kind type).isSupported = true)
    (hnil : types.kind type ≠ .nil) (labels : List String) :
    isRedundant types labels type =
      labels.contains (candidateLabel (types.descriptor type) labels.length) := by
  rw [isRedundant, beq_false_of_ne hnil, hsupported]
  rfl

/-- A type with a label of its own makes one candidate, though it stands twice. -/
theorem unionCandidates_doubled (hsupported : (types.kind type).isSupported = true)
    (hnil : types.kind type ≠ .nil) (hunion : types.kind type ≠ .union)
    (hlabel : LabelledByType types type) :
    unionCandidates types [] [type, type] =
      [⟨candidateLabel (types.descriptor type) 0, types.kind type, type⟩] := by
  have hsame := candidateLabel_eq_of_labelledByType hlabel hunion 1 0
  rw [unionCandidates_cons, isRedundant_eq hsupported hnil, if_neg (by simp),
    unionCandidates_cons, isRedundant_eq hsupported hnil, if_pos (by simp [hsame])]
  rfl

/-- A record without a name makes two candidates. -/
theorem unionCandidates_doubled_of_not_labelledByType (hlabel : ¬LabelledByType types type) :
    unionCandidates types [] [type, type] =
      [⟨"Record0", .record, type⟩, ⟨"Record1", .record, type⟩] := by
  have hkind : types.kind type = .record := (Classical.not_imp.1 hlabel).1
  have hsupported : (types.kind type).isSupported = true := by
    rw [hkind]
    rfl
  have hnil : types.kind type ≠ .nil := by
    rw [hkind]
    decide
  have hzero : candidateLabel (types.descriptor type) 0 = "Record0" :=
    candidateLabel_of_not_labelledByType hlabel 0
  have hone : candidateLabel (types.descriptor type) 1 = "Record1" :=
    candidateLabel_of_not_labelledByType hlabel 1
  -- the number of the second one is new, so it does not fall together with the first
  have hnew : isRedundant types ["Record0"] type = false := by
    rw [isRedundant_eq hsupported hnil, List.length_singleton, hone]
    decide
  rw [unionCandidates_cons, isRedundant_eq hsupported hnil, if_neg (by simp),
    unionCandidates_cons]
  simp only [List.nil_append, List.map_cons, List.map_nil, List.length_nil, hzero, hnew, hkind,
    List.length_singleton, hone]
  rfl

end Candidates

/-! ## Doubled unions are classified -/

section Classify

variable {types : TypeGraph} {union type : TypeId}

/-- A doubled union does not offer the absent value, so that its place is that of the type. -/
theorem Doubles.ofUnion_eq (h : Doubles types union type) (hnil : types.kind type ≠ .nil)
    (slot : Slot) : slot.ofUnion types (types.descriptor union).members = slot := by
  have hoffers : ([type, type].any fun member => types.kind member == .nil) = false := by
    simp [beq_false_of_ne hnil]
  rw [h.members, Slot.ofUnion, hoffers, Bool.not_false, Bool.and_true]

/-- A type that is no union is classified in the same way one level further down. -/
theorem classifyWithin_pred_classifyDepth (hunion : types.kind type ≠ .union) {depth : Nat}
    {budget : Budget} (hdepth : classifyDepth types budget = depth + 1) (slot : Slot) :
    classifyWithin types depth type slot [] budget =
      classifyWithin types (depth + 1) type slot [] budget := by
  have hlevels : levels types type [] budget ≤ depth := by
    have hopen : openUnions types [] ≤ types.size :=
      Nat.le_trans (List.length_filter_le _ _) (Nat.le_of_eq List.length_range)
    rw [classifyDepth] at hdepth
    rw [levels, if_neg hunion]
    omega
  exact classifyWithin_eq_of_levels_le hlevels (Nat.le_succ_of_le hlevels)

/-- A doubled union is classified as its type if this has a label of its own. -/
theorem classify_eq_of_labelledByType (hdoubles : Doubles types union type)
    (hsupported : (types.kind type).isSupported = true) (hnil : types.kind type ≠ .nil)
    (hunion : types.kind type ≠ .union) {budget : Budget} (hbudget : 0 < budget.remaining)
    (hlabel : LabelledByType types type) (position : Int) (name : String) (required : Bool)
    (description : Option String) :
    classify types union position budget name required description =
      classify types type position budget name required description := by
  have hfunded : budget.exhausted = false := decide_eq_false (Int.not_le.2 hbudget)
  have henter : EntersUnion types union [] budget := ⟨hdoubles.kind, rfl, hfunded⟩
  have hcandidates : unionCandidates types [] (types.descriptor union).members =
      [⟨candidateLabel (types.descriptor type) 0, types.kind type, type⟩] := by
    rw [hdoubles.members]
    exact unionCandidates_doubled hsupported hnil hunion hlabel
  obtain ⟨depth, hdepth⟩ : ∃ depth, classifyDepth types budget = depth + 1 := ⟨_, rfl⟩
  rw [classify, classify]
  split
  · rfl
  · -- the only candidate takes the place of the union, one level below it
    rw [hdepth, classifyWithin, classifyLevel_eq_classifyUnion hdoubles.kind,
      classifyUnion_eq_child henter hcandidates hunion, hdoubles.ofUnion_eq hnil]
    exact classifyWithin_pred_classifyDepth hunion hdepth _

/-- Two records among the candidates of a union both become members. -/
theorem ClassifiesMembers.pair_of_record {slot : Slot} {inside : List TypeId}
    {first second : Candidate} {position : Nat} {budget left : Budget}
    {members : List (ParamNode × TypeId)} (hfirst : types.kind first.type = .record)
    (hsecond : types.kind second.type = .record)
    (h : ClassifiesMembers types slot inside [first, second] position budget members left) :
    ∃ node other, members = [(node, first.type), (other, second.type)] ∧
      node.info.label = some first.label ∧ other.info.label = some second.label := by
  cases h with
  | absent hnode _ =>
    obtain ⟨_, hsome, -⟩ := hnode.of_record hfirst
    cases hsome
  | present hnode hrest =>
    obtain ⟨_, hsome, -⟩ := hnode.of_record hfirst
    cases hsome
    cases hrest with
    | absent hother _ =>
      obtain ⟨_, hsome, -⟩ := hother.of_record hsecond
      cases hsome
    | present hother hnone =>
      obtain ⟨_, hsome, -⟩ := hother.of_record hsecond
      cases hsome
      cases hnone
      exact ⟨_, _, rfl, rfl, rfl⟩

/-- A doubled union of a record without a name is a choice between the record and itself. -/
theorem exists_choice_of_not_labelledByType (hdoubles : Doubles types union type)
    {budget : Budget} (hbudget : 0 < budget.remaining) (hlabel : ¬LabelledByType types type)
    {position : Int} {name : String} {required : Bool} {description : Option String}
    {node : Option ParamNode} {left : Budget}
    (h : classify types union position budget name required description = .ok (node, left)) :
    ∃ info first second, node = some (.union info [first, second]) ∧
      first.info.label = some "Record0" ∧ second.info.label = some "Record1" := by
  have hkind : types.kind type = .record := (Classical.not_imp.1 hlabel).1
  have hcandidates : unionCandidates types [] (types.descriptor union).members =
      [⟨"Record0", .record, type⟩, ⟨"Record1", .record, type⟩] := by
    rw [hdoubles.members]
    exact unionCandidates_doubled_of_not_labelledByType hlabel
  -- the type is an open union with two candidates, and both of them are kept
  cases (classifies_of_classify h).2 with
  | flat hunion _ => exact absurd hdoubles.kind hunion
  | closedRecord hrecord _ => exact absurd (hdoubles.kind.symm.trans hrecord) (by decide)
  | openRecord hrecord _ _ => exact absurd (hdoubles.kind.symm.trans hrecord) (by decide)
  | closedUnion _ hclosed =>
    rcases hclosed with hentered | hout
    · cases hentered
    · exact absurd hbudget (Int.not_lt.2 (of_decide_eq_true hout))
  | emptyUnion _ hnone => cases hcandidates.symm.trans hnone
  | soleCandidate _ hsole _ _ => cases hcandidates.symm.trans hsole
  | absentChoice _ _ hmembers =>
    rw [hcandidates] at hmembers
    obtain ⟨_, _, hnone, -⟩ := hmembers.pair_of_record hkind hkind
    cases hnone
  | survivor _ _ hmembers _ _ =>
    rw [hcandidates] at hmembers
    obtain ⟨_, _, hsole, -⟩ := hmembers.pair_of_record hkind hkind
    cases hsole
  | openUnion _ _ hmembers _ _ =>
    rw [hcandidates] at hmembers
    obtain ⟨first, second, rfl, hfirst, hsecond⟩ := hmembers.pair_of_record hkind hkind
    exact ⟨_, first, second, rfl, hfirst, hsecond⟩

/-- A union that has a type twice is classified as the type, with the same budget left or the same
fault, if the label of the type does not depend on its place: that is, unless the type is a record
without a name. Such a record becomes a choice between two members with numbers for labels. -/
theorem classify_doubled (hdoubles : Doubles types union type)
    (hsupported : (types.kind type).isSupported = true) (hnil : types.kind type ≠ .nil)
    (hunion : types.kind type ≠ .union) {budget : Budget} (hbudget : 0 < budget.remaining)
    (position : Int) (name : String) (required : Bool) (description : Option String) :
    (LabelledByType types type →
      classify types union position budget name required description =
        classify types type position budget name required description) ∧
    (¬LabelledByType types type → ∀ node left,
      classify types union position budget name required description = .ok (node, left) →
        ∃ info first second, node = some (.union info [first, second]) ∧
          first.info.label = some "Record0" ∧ second.info.label = some "Record1") :=
  ⟨fun hlabel => classify_eq_of_labelledByType hdoubles hsupported hnil hunion hbudget hlabel
    position name required description,
  fun hlabel _ _ hrun => exists_choice_of_not_labelledByType hdoubles hbudget hlabel hrun⟩

end Classify

/-- A point, and a union that has it twice. -/
def pointTypes (name : Option String) : TypeGraph where
  descriptors := #[
    { TypeDescriptor.ofKind .union none with members := [1, 1] },
    { TypeDescriptor.ofKind .record name with fields := [⟨"x", 2, false, false, none⟩] },
    TypeDescriptor.ofKind .int none]

theorem classify_doubled_namedPoint :
    Doubles (pointTypes (some "Point")) 0 1 ∧ LabelledByType (pointTypes (some "Point")) 1 ∧
      (0 : Int) < 5 ∧ ∃ node,
        classify (pointTypes (some "Point")) 0 0 ⟨5⟩ "at" true none = .ok (some node, ⟨4⟩) ∧
        classify (pointTypes (some "Point")) 1 0 ⟨5⟩ "at" true none = .ok (some node, ⟨4⟩) := by
  have hdoubles : Doubles (pointTypes (some "Point")) 0 1 := ⟨rfl, rfl⟩
  have hlabel : LabelledByType (pointTypes (some "Point")) 1 := by decide
  have hbudget : 0 < Budget.remaining ⟨5⟩ := by decide
  have hsame := (classify_doubled hdoubles (by decide) (by decide) (by decide) hbudget 0 "at" true
    none).1 hlabel
  exact ⟨hdoubles, hlabel, hbudget, _, hsame.trans rfl, rfl⟩

/-- A point without a name is offered twice, for twice the units. -/
theorem classify_doubled_point :
    Doubles (pointTypes none) 0 1 ∧ ((pointTypes none).kind 1).isSupported = true ∧
      (pointTypes none).kind 1 ≠ .nil ∧ (pointTypes none).kind 1 ≠ .union ∧
      (∃ info first second,
        classify (pointTypes none) 0 0 ⟨5⟩ "at" true none =
          .ok (some (.union info [first, second]), ⟨3⟩)) ∧
      (∃ info recordName path fields,
        classify (pointTypes none) 1 0 ⟨5⟩ "at" true none =
          .ok (some (.record info recordName path fields), ⟨4⟩)) ∧
      classify (pointTypes none) 0 0 ⟨5⟩ "at" true none ≠
        classify (pointTypes none) 1 0 ⟨5⟩ "at" true none := by
  refine ⟨⟨rfl, rfl⟩, rfl, by decide, by decide, ⟨_, _, _, rfl⟩, ⟨_, _, _, _, rfl⟩, ?_⟩
  intro hsame
  cases hsame

end SignatureForms
