import Mathlib.Data.List.Forall2
import Mathlib.Logic.Relation
import SignatureForms.Proofs.ParamTree.Evaluation

/-!
# Types that correspond

Types of two graphs may look the same although they are not the same numbers: one graph may hold
once what the other one holds many times. Classification goes down from a type to those that it
mentions, and asks of a number only whether the union of this number is entered already. So it gives
the same for two types if what they mention looks the same in turn, and the same unions count as
entered on both sides.

The module introduces:

* `d.Rel R d'` — two descriptors are the same but for the types that they mention, which are related
  by `R`;
* `g.Bisimulation g' B` — types that are related by `B` have descriptors that are;
* `g.Correspondence g' S` — so do types that are related by `S` inside two lists of entered unions,
  and entering both keeps them related;
* `g.Unfolds g' type type'` — two types unfold to the same tree, which is finite.

## Main results

* `TypeDescriptor.Rel.flatNode_eq`: where types are related, nodes below which nothing is unfolded
  are the same;
* `Correspondence.classifyWithin_eq`: where they correspond, classification is the same at every
  depth, and so is the derivation of a node (`Correspondence.classify_eq`);
* `Unfolds.classify_eq`: types that unfold to the same tree are classified in the same way, whether
  the graphs share types or not.
-/

namespace SignatureForms

/-! ## Related descriptors -/

theorem rel_mono {R R' : TypeId → TypeId → Prop} {type? type?' : Option TypeId}
    (hR : ∀ type ∈ type?, ∀ type' ∈ type?', R type type' → R' type type')
    (h : Option.Rel R type? type?') : Option.Rel R' type? type?' := by
  cases h with
  | none => exact .none
  | some htype => exact .some (hR _ rfl _ rfl htype)

/-- The fields are the same but for their types, which are related. -/
structure Field.Rel (R : TypeId → TypeId → Prop) (field field' : Field) : Prop where
  name : field'.name = field.name
  optional : field'.optional = field.optional
  hasDefault : field'.hasDefault = field.hasDefault
  doc : field'.doc = field.doc
  type : R field.type field'.type

/-- The descriptors are the same but for the types that they mention, which are related. -/
structure TypeDescriptor.Rel (R : TypeId → TypeId → Prop) (d d' : TypeDescriptor) : Prop where
  kind : d'.kind = d.kind
  name : d'.name = d.name
  resolvedName : d'.resolvedName = d.resolvedName
  fields : List.Forall₂ (Field.Rel R) d.fields d'.fields
  valueType : Option.Rel R d.valueType d'.valueType
  elementType : Option.Rel R d.elementType d'.elementType
  members : List.Forall₂ R d.members d'.members
  constraint : Option.Rel R d.constraint d'.constraint

namespace TypeDescriptor.Rel

variable {R R' : TypeId → TypeId → Prop} {d d' : TypeDescriptor}

theorem mono (h : d.Rel R d') (hR : ∀ ⦃type type'⦄, R type type' → R' type type') :
    d.Rel R' d' where
  kind := h.kind
  name := h.name
  resolvedName := h.resolvedName
  fields := h.fields.imp fun _ _ hfield => { hfield with type := hR hfield.type }
  valueType := rel_mono (fun _ _ _ _ htype => hR htype) h.valueType
  elementType := rel_mono (fun _ _ _ _ htype => hR htype) h.elementType
  members := h.members.imp hR
  constraint := rel_mono (fun _ _ _ _ htype => hR htype) h.constraint

theorem displayName (h : d.Rel R d') : d'.displayName = d.displayName := by
  rw [TypeDescriptor.displayName, h.name, h.resolvedName, TypeDescriptor.displayName]

theorem fillsTable_eq (h : d.Rel R d') : fillsTable d' = fillsTable d := by
  have hempty : d'.fields.isEmpty = d.fields.isEmpty := by
    rw [Bool.eq_iff_iff, List.isEmpty_iff_length_eq_zero, List.isEmpty_iff_length_eq_zero,
      h.fields.length_eq]
  rw [fillsTable, h.kind, hempty, fillsTable]

end TypeDescriptor.Rel

/-- A descriptor is related to itself if each type that it mentions is. -/
theorem TypeDescriptor.rel_self {R : TypeId → TypeId → Prop} {d : TypeDescriptor}
    (h : ∀ c ∈ d.children, R c c) : d.Rel R d := by
  have hoption {type? : Option TypeId} (hmem : ∀ type ∈ type?, type ∈ d.children) :
      Option.Rel R type? type? := by
    cases type? with
    | none => exact .none
    | some type => exact .some (h type (hmem type rfl))
  refine ⟨rfl, rfl, rfl, ?_, hoption fun _ => valueType_mem_children,
    hoption fun _ => elementType_mem_children, ?_, hoption fun _ => constraint_mem_children⟩
  · exact List.forall₂_same.2 fun field hfield =>
      ⟨rfl, rfl, rfl, rfl, h _ (type_mem_children hfield)⟩
  · exact List.forall₂_same.2 fun member hmember => h member (member_mem_children hmember)

/-- Types that are related have related descriptors. -/
def TypeGraph.Bisimulation (g g' : TypeGraph) (B : TypeId → TypeId → Prop) : Prop :=
  ∀ ⦃type type' : TypeId⦄, B type type' → (g.descriptor type).Rel B (g'.descriptor type')

/-! ## Tables and type descriptors -/

/-- The columns for fields of supported kinds, the first of which has a position. -/
def columnsFrom (position : Nat) (fields : List (Field × Kind)) : List Column :=
  (fields.zipIdx position).map fun entry =>
    ⟨.plain (toString entry.2) entry.1.1.name (!entry.1.1.optional) entry.1.1.doc, entry.1.2⟩

section Flat

variable {g g' : TypeGraph} {B : TypeId → TypeId → Prop} (h : g.Bisimulation g' B)
  {d d' : TypeDescriptor}

include h

namespace TypeGraph.Bisimulation

theorem kind_eq {type type' : TypeId} (htype : B type type') : g'.kind type' = g.kind type :=
  (h htype).kind

theorem map_kind_eq {types types' : List TypeId} (htypes : List.Forall₂ B types types') :
    types'.map g'.kind = types.map g.kind := by
  induction htypes with
  | nil => rfl
  | cons htype _ ih => rw [List.map_cons, List.map_cons, h.kind_eq htype, ih]

/-- Records with related descriptors have the same columns. -/
theorem tableColumns_eq (hd : d.Rel B d') : tableColumns g' d' = tableColumns g d := by
  have hcolumns {fields fields' : List Field} (hfields : List.Forall₂ (Field.Rel B) fields fields')
      (position : Nat) :
      columnsFrom position
        (fields'.filterMap fun field => (g'.kind field.type).supported?.map (field, ·)) =
      columnsFrom position
        (fields.filterMap fun field => (g.kind field.type).supported?.map (field, ·)) := by
    induction hfields generalizing position with
    | nil => rfl
    | @cons field field' _ _ hfield _ ih =>
      rw [List.filterMap_cons, List.filterMap_cons, h.kind_eq hfield.type]
      cases (g.kind field.type).supported? with
      | none => exact ih position
      | some kind =>
        simp only [columnsFrom, Option.map_some, List.zipIdx_cons, List.map_cons, hfield.name,
          hfield.optional, hfield.doc]
        exact congrArg _ (ih (position + 1))
  exact hcolumns hd.fields 0

/-- Related members of unions are of the same kinds. -/
theorem memberKinds_eq {members members' : List TypeId}
    (hmembers : List.Forall₂ B members members') :
    memberKinds g' members' = memberKinds g members := by
  have hkinds (types : TypeGraph) (members : List TypeId) : memberKinds types members =
      (members.map types.kind).foldl (fun kinds kind =>
        if kind == .nil || !kind.isSupported || kinds.contains kind then kinds
        else kinds ++ [kind]) [] := by
    rw [List.foldl_map]
    rfl
  rw [hkinds, hkinds, h.map_kind_eq hmembers]

/-- A map of related values is entered in the same way. -/
theorem mapShape_eq {valueType valueType' : Option TypeId}
    (hvalue : Option.Rel B valueType valueType') :
    mapShape g' valueType' = mapShape g valueType := by
  cases hvalue with
  | none => rfl
  | some htype =>
    have hd := h htype
    simp only [mapShape, hd.kind, hd.fillsTable_eq, h.tableColumns_eq hd]

/-- An array of related elements is entered in the same way. -/
theorem arrayShape_eq {elementType elementType' : Option TypeId}
    (helement : Option.Rel B elementType elementType') :
    arrayShape g' elementType' = arrayShape g elementType := by
  cases helement with
  | none => rfl
  | @some type type' htype =>
    have hd := h htype
    have hinner : (g'.descriptor type').elementType.map g'.kind =
        (g.descriptor type).elementType.map g.kind := by
      have helement := hd.elementType
      generalize (g.descriptor type).elementType = inner at helement ⊢
      generalize (g'.descriptor type').elementType = inner' at helement ⊢
      cases helement with
      | none => rfl
      | some hinner => exact congrArg some (h.kind_eq hinner)
    simp only [arrayShape, hd.kind, hd.fillsTable_eq, h.tableColumns_eq hd, hinner,
      h.memberKinds_eq hd.members]

/-- The place of a union with related members is marked in the same way. -/
theorem ofUnion_eq {members members' : List TypeId} (hmembers : List.Forall₂ B members members')
    (slot : Slot) : slot.ofUnion g' members' = slot.ofUnion g members := by
  have hany (types : TypeGraph) (members : List TypeId) :
      members.any (fun member => types.kind member == .nil) =
        (members.map types.kind).any (· == .nil) := by
    rw [List.any_map]
    rfl
  simp only [Slot.ofUnion, hany, h.map_kind_eq hmembers]

theorem typeOptions_eq {members members' : List TypeId} (hmembers : List.Forall₂ B members members')
    (done : List (String × Kind)) : typeOptions g' done members' = typeOptions g done members := by
  induction hmembers generalizing done with
  | nil => rfl
  | @cons member member' _ _ hmember _ ih =>
    have hoption (position : Nat) :
        typeOption? g' member' position = typeOption? g member position := by
      simp only [typeOption?, (h hmember).kind, (h hmember).displayName]
    simp only [typeOptions, hoption, ih]

/-- A choice of types within related constraints is the same. -/
theorem classifyTypeDescriptor_eq {constraint constraint' : Option TypeId}
    (hconstraint : Option.Rel B constraint constraint') (slot : Slot) :
    classifyTypeDescriptor g' constraint' slot = classifyTypeDescriptor g constraint slot := by
  cases hconstraint with
  | none => rfl
  | some htype =>
    have hd := h htype
    simp only [classifyTypeDescriptor, hd.kind, classifyTypeUnion, h.ofUnion_eq hd.members,
      h.typeOptions_eq hd.members, recordDisplayName, hd.displayName]

/-- A type below which nothing is unfolded gives the same node. -/
theorem flatNode_eq (hd : d.Rel B d') (slot : Slot) : flatNode g' d' slot = flatNode g d slot := by
  rw [flatNode, flatNode, hd.kind, h.mapShape_eq hd.valueType, h.arrayShape_eq hd.elementType,
    h.classifyTypeDescriptor_eq hd.constraint slot]

end TypeGraph.Bisimulation

end Flat

/-! ## Fields and members -/

/-- The candidates are the same but for their types, which are related. -/
structure Candidate.Rel (R : TypeId → TypeId → Prop) (candidate candidate' : Candidate) : Prop where
  label : candidate'.label = candidate.label
  kind : candidate'.kind = candidate.kind
  type : R candidate.type candidate'.type

/-- Members are classified alike: with the same fault, or with the same nodes, of related types, and
the same budget left. -/
inductive MembersRel (R : TypeId → TypeId → Prop) :
    Except Fault (List (ParamNode × TypeId) × Budget) →
      Except Fault (List (ParamNode × TypeId) × Budget) → Prop
  | error (fault : Fault) : MembersRel R (.error fault) (.error fault)
  | ok {members members' : List (ParamNode × TypeId)} (left : Budget) :
    List.Forall₂ (fun m m' => m'.1 = m.1 ∧ R m.2 m'.2) members members' →
      MembersRel R (.ok (members, left)) (.ok (members', left))

section Parts

variable {g g' : TypeGraph} {R B : TypeId → TypeId → Prop}

/-- Unions of related members have related candidates. -/
theorem TypeGraph.Bisimulation.unionCandidates_rel (h : g.Bisimulation g' B)
    (hR : ∀ ⦃type type'⦄, R type type' → B type type') {done done' : List Candidate}
    (hdone : List.Forall₂ (Candidate.Rel R) done done') {members members' : List TypeId}
    (hmembers : List.Forall₂ R members members') :
    List.Forall₂ (Candidate.Rel R) (unionCandidates g done members)
      (unionCandidates g' done' members') := by
  induction hmembers generalizing done done' with
  | nil => exact hdone
  | @cons member member' _ _ hmember _ ih =>
    have hd := h (hR hmember)
    have hlabel (position : Nat) : candidateLabel (g'.descriptor member') position =
        candidateLabel (g.descriptor member) position := by
      rw [candidateLabel, hd.kind, hd.name, candidateLabel]
    have hlabels {done done' : List Candidate} (hdone : List.Forall₂ (Candidate.Rel R) done done') :
        done'.map Candidate.label = done.map Candidate.label := by
      induction hdone with
      | nil => rfl
      | cons hcandidate _ ih => rw [List.map_cons, List.map_cons, hcandidate.label, ih]
    -- candidates are told apart by their labels, which do not tell the types
    simp only [unionCandidates, hd.kind, hlabel, hlabels hdone, hdone.length_eq]
    split
    · exact ih hdone
    · exact ih (List.rel_append hdone (.cons ⟨rfl, rfl, hmember⟩ .nil))

/-- Fields of related types give the same nodes. -/
theorem classifyFields_eq_of_rel {child child' : TypeId → Slot → Budget → Classified}
    (hkind : ∀ ⦃type type'⦄, R type type' → g'.kind type' = g.kind type)
    (hchild : ∀ ⦃type type'⦄, R type type' → ∀ slot budget,
      child' type' slot budget = child type slot budget)
    (recordName path : String) (required : Bool) {fields fields' : List Field}
    (hfields : List.Forall₂ (Field.Rel R) fields fields') (position : Nat) (budget : Budget) :
    classifyFields g' child' recordName path required fields' position budget =
      classifyFields g child recordName path required fields position budget := by
  induction hfields generalizing position budget with
  | nil => rfl
  | @cons field field' _ _ hfield _ ih =>
    have hslot : Slot.ofField path required position field' =
        Slot.ofField path required position field := by
      rw [Slot.ofField, hfield.name, hfield.optional, hfield.hasDefault, hfield.doc, Slot.ofField]
    simp only [classifyFields, hfield.name, hkind hfield.type, hslot, hchild hfield.type, ih]

/-- Candidates of related types give the same nodes. -/
theorem classifyMembers_rel {child child' : TypeId → Slot → Budget → Classified}
    (hchild : ∀ ⦃type type'⦄, R type type' → ∀ slot budget,
      child' type' slot budget = child type slot budget)
    (slot : Slot) {candidates candidates' : List Candidate}
    (hcandidates : List.Forall₂ (Candidate.Rel R) candidates candidates') (position : Nat)
    (budget : Budget) :
    MembersRel R (classifyMembers child slot candidates position budget)
      (classifyMembers child' slot candidates' position budget) := by
  induction hcandidates generalizing position budget with
  | nil => exact .ok budget .nil
  | @cons candidate candidate' rest rest' hcandidate _ ih =>
    rw [classifyMembers, classifyMembers, hcandidate.label, hchild hcandidate.type]
    split
    · exact .error _
    · exact ih _ _
    · next left _ =>
      have hrest := ih (position + 1) left
      generalize classifyMembers child slot rest (position + 1) left = run at hrest
      generalize classifyMembers child' slot rest' (position + 1) left = run' at hrest
      cases hrest with
      | error fault => exact .error fault
      | ok left hnodes => exact .ok left (.cons ⟨rfl, hcandidate.type⟩ hnodes)

/-- A choice among candidates of related types is the same. -/
theorem classifyChoice_eq_of_rel {child child' : ChildClassifier} {inside inside' : List TypeId}
    (hchild : ∀ ⦃type type'⦄, R type type' → ∀ slot budget,
      child' type' slot inside' budget = child type slot inside budget)
    (slot : Slot) {candidates candidates' : List Candidate}
    (hcandidates : List.Forall₂ (Candidate.Rel R) candidates candidates') (budget : Budget) :
    classifyChoice child' slot inside' candidates' budget =
      classifyChoice child slot inside candidates budget := by
  have hmembers : MembersRel R
      (classifyMembers (fun type place => child type place inside) slot candidates 0 budget)
      (classifyMembers (fun type place => child' type place inside') slot candidates' 0 budget) :=
    classifyMembers_rel hchild slot hcandidates 0 budget
  rw [classifyChoice, classifyChoice]
  generalize classifyMembers (fun type place => child type place inside) slot candidates 0 budget =
    run at hmembers
  generalize classifyMembers (fun type place => child' type place inside') slot candidates' 0
    budget = run' at hmembers
  cases hmembers with
  | error fault => rfl
  | @ok members members' left hnodes =>
    have hmap : members'.map Prod.fst = members.map Prod.fst := by
      induction hnodes with
      | nil => rfl
      | cons hfirst _ ih => rw [List.map_cons, List.map_cons, hfirst.1, ih]
    cases hnodes with
    | nil => rfl
    | @cons first first' _ _ hfirst hrest =>
      cases hrest with
      | nil =>
        -- the single member that may be built again is of related types
        obtain ⟨node, type⟩ := first
        obtain ⟨node', type'⟩ := first'
        obtain ⟨rfl, htype⟩ : node' = node ∧ R type type' := hfirst
        simp only [hchild htype]
      | cons => simp only [hmap]

/-- A union of related members is classified in the same way. -/
theorem classifyUnion_eq_of_rel (h : g.Bisimulation g' B)
    {child child' : ChildClassifier} {type type' : TypeId} {active active' : List TypeId}
    {d d' : TypeDescriptor} (hR : ∀ ⦃type type'⦄, R type type' → B type type')
    (hmembers : List.Forall₂ R d.members d'.members)
    (hactive : active'.contains type' = active.contains type)
    (hchild : ∀ ⦃c c'⦄, R c c' → ∀ slot budget,
      child' c' slot active' budget = child c slot active budget)
    (hinside : ∀ ⦃c c'⦄, R c c' → ∀ slot budget,
      child' c' slot (type' :: active') budget = child c slot (type :: active) budget)
    (slot : Slot) (budget : Budget) :
    classifyUnion g' child' type' d' slot active' budget =
      classifyUnion g child type d slot active budget := by
  have hcandidates := h.unionCandidates_rel hR .nil hmembers
  rw [classifyUnion, classifyUnion, hactive, h.ofUnion_eq (hmembers.imp hR)]
  split
  · rfl
  · generalize unionCandidates g [] d.members = candidates at hcandidates
    generalize unionCandidates g' [] d'.members = candidates' at hcandidates
    have hchoice := classifyChoice_eq_of_rel hinside (slot.ofUnion g d.members) hcandidates budget
    cases hcandidates with
    | nil => rfl
    | cons hfirst hrest =>
      cases hrest with
      | nil => simp only [hfirst.kind, hchoice, hchild hfirst.type]
      | cons => exact hchoice

end Parts

/-! ## Corresponding types -/

/-- Types correspond inside lists of entered unions: where they are related, their descriptors are,
with and without the types themselves among the entered unions, and they are both entered already or
both not. -/
structure TypeGraph.Correspondence (g g' : TypeGraph)
    (S : TypeId → List TypeId → TypeId → List TypeId → Prop) : Prop where
  /-- What is mentioned corresponds, whether the types are entered for it or not. -/
  descriptor : ∀ ⦃type active type' active'⦄, S type active type' active' →
    (g.descriptor type).Rel
      (fun c c' => S c active c' active' ∧ S c (type :: active) c' (type' :: active'))
      (g'.descriptor type')
  /-- The types are both entered already or both not. -/
  active : ∀ ⦃type active type' active'⦄, S type active type' active' →
    active'.contains type' = active.contains type

namespace TypeGraph.Correspondence

variable {g g' : TypeGraph} {S : TypeId → List TypeId → TypeId → List TypeId → Prop}

/-- Types that correspond inside some lists of unions have related descriptors. -/
theorem bisimulation (h : g.Correspondence g' S) :
    g.Bisimulation g' fun type type' => ∃ active active', S type active type' active' :=
  fun _ _ ⟨active, active', hS⟩ =>
    (h.descriptor hS).mono fun _ _ hchild => ⟨active, active', hchild.1⟩

/-- Types that correspond are classified in the same way at every depth. -/
theorem classifyWithin_eq (h : g.Correspondence g' S) {type type' : TypeId}
    {active active' : List TypeId} (hS : S type active type' active') (depth : Nat) (slot : Slot)
    (budget : Budget) :
    classifyWithin g' depth type' slot active' budget =
      classifyWithin g depth type slot active budget := by
  -- on the depth: what is one level below is mentioned by the types, so it corresponds
  induction depth generalizing type type' slot active active' budget with
  | zero => rfl
  | succ depth ih =>
    show classifyLevel g' (classifyWithin g' depth) type' slot active' budget =
      classifyLevel g (classifyWithin g depth) type slot active budget
    have hd := h.descriptor hS
    have hkind : g'.kind type' = g.kind type := hd.kind
    by_cases hunion : g.kind type = .union
    · rw [classifyLevel_eq_classifyUnion hunion,
        classifyLevel_eq_classifyUnion (hkind.trans hunion)]
      exact classifyUnion_eq_of_rel h.bisimulation (fun _ _ hc => ⟨active, active', hc.1⟩)
        hd.members (h.active hS) (fun _ _ hc place b => ih hc.1 place b)
        (fun _ _ hc place b => ih hc.2 place b) slot budget
    by_cases hrecord : g.kind type = .record
    · rw [classifyLevel_eq_classifyRecord hrecord,
        classifyLevel_eq_classifyRecord (hkind.trans hrecord)]
      have hfields := classifyFields_eq_of_rel
        (fun _ _ hc => h.bisimulation.kind_eq ⟨active, active', hc.1⟩)
        (fun _ _ hc place b => ih hc.1 place b)
        (recordDisplayName (g.descriptor type) slot.name) slot.fieldsPath slot.required hd.fields 0
        budget
      rw [classifyRecord, classifyRecord]
      simp only [recordDisplayName, hd.displayName] at hfields ⊢
      rw [hfields]
    · have hflat := h.bisimulation.flatNode_eq
        (hd.mono fun _ _ hc => ⟨active, active', hc.1⟩) slot
      rw [classifyLevel_eq_flat hunion hrecord,
        classifyLevel_eq_flat (hkind ▸ hunion) (hkind ▸ hrecord), hflat]

/-- Types of parameters that correspond are classified in the same way. -/
theorem classify_eq (h : g.Correspondence g' S) {type type' : TypeId} (hS : S type [] type' [])
    (position : Int) (budget : Budget) (name : String) (required : Bool)
    (description : Option String) :
    classify g' type' position budget name required description =
      classify g type position budget name required description := by
  rw [classify, classify]
  split
  · rfl
  · -- one graph may ask for more levels than the other, but neither needs more than it asks for
    have hle := Nat.le_max_left (classifyDepth g budget) (classifyDepth g' budget)
    have hle' := Nat.le_max_right (classifyDepth g budget) (classifyDepth g' budget)
    rw [← classifyWithin_eq_of_classifyDepth_le hle, ← classifyWithin_eq_of_classifyDepth_le hle',
      h.classifyWithin_eq hS]

end TypeGraph.Correspondence

/-! ## Types that unfold to the same tree -/

section Mentions

variable {g g' : TypeGraph} {R : TypeId → TypeId → Prop} {d d' : TypeDescriptor}

/-- Related lists are related item by item, and each item is one of its list. -/
theorem forall₂_mem {α β : Type} {P : α → β → Prop} {items : List α} {items' : List β}
    (h : List.Forall₂ P items items') :
    List.Forall₂ (fun a b => (a ∈ items ∧ b ∈ items') ∧ P a b) items items' := by
  induction h with
  | nil => exact .nil
  | cons hfirst _ ih =>
    refine .cons ⟨⟨List.mem_cons_self, List.mem_cons_self⟩, hfirst⟩ (ih.imp fun _ _ hrest => ?_)
    exact ⟨⟨List.mem_cons_of_mem _ hrest.1.1, List.mem_cons_of_mem _ hrest.1.2⟩, hrest.2⟩

theorem exists_rel_of_mem {α β : Type} {P : α → β → Prop} {items : List α} {items' : List β}
    (h : List.Forall₂ P items items') {a : α} (ha : a ∈ items) : ∃ b ∈ items', P a b := by
  induction h with
  | nil => cases ha
  | cons hfirst _ ih =>
    rw [List.exists_mem_cons_iff]
    rcases List.mem_cons.1 ha with rfl | hrest
    · exact .inl hfirst
    · exact .inr (ih hrest)

/-- The types that a descriptor mentions are related in turn. -/
theorem TypeDescriptor.Rel.children (h : d.Rel R d') : List.Forall₂ R d.children d'.children := by
  have hoption {type? type?' : Option TypeId} (h : Option.Rel R type? type?') :
      List.Forall₂ R type?.toList type?'.toList := by
    cases h with
    | none => exact .nil
    | some htype => exact .cons htype .nil
  have hfields : List.Forall₂ R (d.fields.map Field.type) (d'.fields.map Field.type) :=
    List.rel_map (fun _ _ hfield => hfield.type) h.fields
  exact List.rel_append (List.rel_append (List.rel_append (List.rel_append hfields
    (hoption h.valueType)) (hoption h.elementType)) h.members) (hoption h.constraint)

open TypeDescriptor in
/-- Only types that are mentioned need to be related. -/
theorem TypeDescriptor.Rel.mentioned (h : d.Rel R d') :
    d.Rel (fun c c' => (c ∈ d.children ∧ c' ∈ d'.children) ∧ R c c') d' where
  kind := h.kind
  name := h.name
  resolvedName := h.resolvedName
  fields := (forall₂_mem h.fields).imp fun _ _ hfield =>
    { hfield.2 with
      type := ⟨⟨type_mem_children hfield.1.1, type_mem_children hfield.1.2⟩, hfield.2.type⟩ }
  valueType := rel_mono (fun _ hc _ hc' htype =>
    ⟨⟨valueType_mem_children hc, valueType_mem_children hc'⟩, htype⟩) h.valueType
  elementType := rel_mono (fun _ hc _ hc' htype =>
    ⟨⟨elementType_mem_children hc, elementType_mem_children hc'⟩, htype⟩) h.elementType
  members := (forall₂_mem h.members).imp fun _ _ hmember =>
    ⟨⟨member_mem_children hmember.1.1, member_mem_children hmember.1.2⟩, hmember.2⟩
  constraint := rel_mono (fun _ hc _ hc' htype =>
    ⟨⟨constraint_mem_children hc, constraint_mem_children hc'⟩, htype⟩) h.constraint

end Mentions

namespace TypeGraph

/-- The descriptor of a type mentions another type. -/
def Mentions (g : TypeGraph) (type child : TypeId) : Prop :=
  child ∈ (g.descriptor type).children

/-- Two types unfold to the same tree: what they mention does, in turn. The tree is finite, since
each type comes after those that it mentions. -/
inductive Unfolds (g g' : TypeGraph) : TypeId → TypeId → Prop
  /-- The types that the descriptors mention are related, and related types unfold to the same. -/
  | intro {type type' : TypeId} (R : TypeId → TypeId → Prop)
    (below : ∀ ⦃c c'⦄, R c c' → Unfolds g g' c c')
    (descriptor : (g.descriptor type).Rel R (g'.descriptor type')) : Unfolds g g' type type'

variable {g g' : TypeGraph} {type type' : TypeId}

theorem Unfolds.descriptor (h : g.Unfolds g' type type') :
    (g.descriptor type).Rel (g.Unfolds g') (g'.descriptor type') := by
  cases h with
  | intro R hbelow hd => exact hd.mono hbelow

/-- A type that unfolds to a tree does not come back below itself. -/
theorem Unfolds.not_transGen_mentions (h : g.Unfolds g' type type') :
    ¬ Relation.TransGen g.Mentions type type ∧ ¬ Relation.TransGen g'.Mentions type' type' := by
  -- a type of a circle mentions another one of it, which is then below itself as well
  induction h with
  | @intro type type' R _ hd ih =>
    constructor
    · intro hcircle
      obtain ⟨c, hchild, hback⟩ := Relation.TransGen.head'_iff.1 hcircle
      obtain ⟨c', _, hR⟩ := exists_rel_of_mem hd.children hchild
      exact (ih hR).1 (.tail' hback hchild)
    · intro hcircle
      obtain ⟨c', hchild, hback⟩ := Relation.TransGen.head'_iff.1 hcircle
      obtain ⟨c, _, hR⟩ := exists_rel_of_mem (P := flip R) hd.children.flip hchild
      exact (ih hR).2 (.tail' hback hchild)

/-- Types that unfold to the same tree correspond inside unions that are above them. -/
theorem correspondence_of_unfolds (g g' : TypeGraph) :
    g.Correspondence g' fun type active type' active' => g.Unfolds g' type type' ∧
      (∀ union ∈ active, Relation.TransGen g.Mentions union type) ∧
      ∀ union ∈ active', Relation.TransGen g'.Mentions union type' where
  descriptor type active type' active' := by
    rintro ⟨hunfolds, habove, habove'⟩
    apply hunfolds.descriptor.mentioned.mono
    rintro c c' ⟨⟨hchild, hchild'⟩, hc⟩
    have hbelow : ∀ union ∈ active, Relation.TransGen g.Mentions union c :=
      fun union hunion => (habove union hunion).tail hchild
    have hbelow' : ∀ union ∈ active', Relation.TransGen g'.Mentions union c' :=
      fun union hunion => (habove' union hunion).tail hchild'
    exact ⟨⟨hc, hbelow, hbelow'⟩, hc, List.forall_mem_cons.2 ⟨.single hchild, hbelow⟩,
      List.forall_mem_cons.2 ⟨.single hchild', hbelow'⟩⟩
  active type active type' active' := by
    rintro ⟨hunfolds, habove, habove'⟩
    -- an entered union is above the types, and they are not above themselves
    have hfree : type ∉ active := fun hmem => hunfolds.not_transGen_mentions.1 (habove type hmem)
    have hfree' : type' ∉ active' :=
      fun hmem => hunfolds.not_transGen_mentions.2 (habove' type' hmem)
    rw [Bool.eq_iff_iff, List.contains_iff_mem, List.contains_iff_mem]
    exact iff_of_false hfree' hfree

/-- Types that unfold to the same tree are classified in the same way, whether the types of one
graph are shared or not. -/
theorem Unfolds.classify_eq (h : g.Unfolds g' type type') (position : Int) (budget : Budget)
    (name : String) (required : Bool) (description : Option String) :
    classify g' type' position budget name required description =
      classify g type position budget name required description :=
  (correspondence_of_unfolds g g').classify_eq ⟨h, by simp, by simp⟩ position budget name required
    description

end TypeGraph

end SignatureForms
