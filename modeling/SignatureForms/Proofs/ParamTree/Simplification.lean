import SignatureForms.Proofs.ParamTree.Accounting
import SignatureForms.Proofs.ParamTree.Reachability

/-!
# Simplification of unions

A union is classified as if it only had the members that count: those of a supported kind that are
not the absent value and whose label is new. The absent value among the others says that the union
may be left out, and that is all they say. Where the union becomes anything but a choice, one of the
members that count has taken its place.

The union must not be reached from its own members. Where it is, it is met again below itself, and
the members of the graph in which it is simplified would be seen to differ from there.

The module introduces:

* `isRedundant types labels member` — the member does not count after members with those labels;
* `keptMembers`, `keptLabels` — the members that count, and their labels;
* `TypeGraph.canon g u` — the graph in which the union `u` only has the members that count;
* `TypeGraph.offersNil g u` — the absent value is among the members of `u`.

## Main results

* `classify_eq_classify_canon`: a union is classified as the union of the members that count;
* `exists_keptMember_of_classify`: if its node is no choice, one of them is classified in its place;
* `classify_union_canon`: both, and that simplifying twice, or dropping a member that does not
  count, changes nothing else.
-/

namespace SignatureForms

/-! ## Members that count -/

/-- A member of a union does not count after members with the given labels: it is the absent value,
its kind is not supported, or its label is taken. -/
def isRedundant (types : TypeGraph) (labels : List String) (member : TypeId) : Bool :=
  types.kind member == .nil || !(types.kind member).isSupported ||
    labels.contains (candidateLabel (types.descriptor member) labels.length)

/-- The members that count, after members with the given labels. -/
def keptMembers (types : TypeGraph) (labels : List String) : List TypeId → List TypeId
  | [] => []
  | member :: rest =>
    if isRedundant types labels member then keptMembers types labels rest
    else
      member ::
        keptMembers types (labels ++ [candidateLabel (types.descriptor member) labels.length]) rest

/-- The labels of the members that count, after the given labels. -/
def keptLabels (types : TypeGraph) (labels : List String) : List TypeId → List String
  | [] => labels
  | member :: rest =>
    if isRedundant types labels member then keptLabels types labels rest
    else
      keptLabels types (labels ++ [candidateLabel (types.descriptor member) labels.length]) rest

section Kept

variable {types types' : TypeGraph}

theorem keptMembers_subset (labels : List String) (members : List TypeId) :
    keptMembers types labels members ⊆ members := by
  induction members generalizing labels with
  | nil => exact List.nil_subset _
  | cons member rest ih =>
    rw [keptMembers]
    split
    · exact List.subset_cons_of_subset _ (ih labels)
    · exact List.cons_subset_cons _ (ih _)

/-- The absent value does not count. -/
theorem kind_ne_nil_of_mem_keptMembers {labels : List String} {members : List TypeId}
    {member : TypeId} (h : member ∈ keptMembers types labels members) :
    types.kind member ≠ .nil := by
  induction members generalizing labels with
  | nil => cases h
  | cons head rest ih =>
    rw [keptMembers] at h
    split at h
    · exact ih h
    · next hcounts =>
      rcases List.mem_cons.1 h with rfl | hrest
      · intro hnil
        exact hcounts (by simp [isRedundant, hnil])
      · exact ih hrest

/-- Members after others count as they do after the labels of those that count. -/
theorem keptMembers_append (labels : List String) (members more : List TypeId) :
    keptMembers types labels (members ++ more) =
      keptMembers types labels members ++
        keptMembers types (keptLabels types labels members) more := by
  induction members generalizing labels with
  | nil => rfl
  | cons member rest ih =>
    rw [List.cons_append, keptMembers, keptMembers, keptLabels]
    split
    · exact ih labels
    · rw [List.cons_append, ih]

/-- A member that does not count may be dropped. -/
theorem keptMembers_append_cons {labels : List String} {before : List TypeId} {extra : TypeId}
    (h : isRedundant types (keptLabels types labels before) extra = true) (after : List TypeId) :
    keptMembers types labels (before ++ extra :: after) =
      keptMembers types labels (before ++ after) := by
  rw [keptMembers_append, keptMembers_append, keptMembers, if_pos h]

/-- All of the members that count do count. -/
@[simp]
theorem keptMembers_keptMembers (labels : List String) (members : List TypeId) :
    keptMembers types labels (keptMembers types labels members) =
      keptMembers types labels members := by
  induction members generalizing labels with
  | nil => rfl
  | cons member rest ih =>
    rw [keptMembers]
    split
    · exact ih labels
    · next hcounts => rw [keptMembers, if_neg hcounts, ih]

/-- Which members count depends on their descriptors only. -/
theorem keptMembers_congr {members : List TypeId}
    (h : ∀ member ∈ members, types'.descriptor member = types.descriptor member)
    (labels : List String) :
    keptMembers types' labels members = keptMembers types labels members := by
  induction members generalizing labels with
  | nil => rfl
  | cons member rest ih =>
    rw [List.forall_mem_cons] at h
    have hsame : isRedundant types' labels member = isRedundant types labels member := by
      simp only [isRedundant, TypeGraph.kind, h.1]
    rw [keptMembers, keptMembers, hsame, h.1, ih h.2, ih h.2]

/-- A member that counts makes a candidate. -/
theorem unionCandidates_cons (done : List Candidate) (member : TypeId) (rest : List TypeId) :
    unionCandidates types done (member :: rest) =
      if isRedundant types (done.map Candidate.label) member then unionCandidates types done rest
      else
        unionCandidates types
          (done ++ [⟨candidateLabel (types.descriptor member) done.length, types.kind member,
            member⟩]) rest := by
  simp only [unionCandidates, isRedundant, TypeGraph.kind, List.length_map]

/-- The members that count are the types of the candidates. -/
theorem map_type_unionCandidates (done : List Candidate) (members : List TypeId) :
    (unionCandidates types done members).map Candidate.type =
      done.map Candidate.type ++ keptMembers types (done.map Candidate.label) members := by
  induction members generalizing done with
  | nil => simp [unionCandidates, keptMembers]
  | cons member rest ih =>
    rw [unionCandidates_cons, keptMembers]
    split
    · exact ih done
    · rw [ih]
      simp

/-- The members that count make all candidates. -/
theorem unionCandidates_keptMembers (done : List Candidate) (members : List TypeId) :
    unionCandidates types done (keptMembers types (done.map Candidate.label) members) =
      unionCandidates types done members := by
  induction members generalizing done with
  | nil => rfl
  | cons member rest ih =>
    rw [unionCandidates_cons, keptMembers]
    split
    · exact ih done
    · next hcounts =>
      rw [unionCandidates_cons, if_neg hcounts, ← ih]
      simp

/-- The type of a candidate counts. -/
theorem type_mem_keptMembers {members : List TypeId} {candidate : Candidate}
    (h : candidate ∈ unionCandidates types [] members) :
    candidate.type ∈ keptMembers types [] members := by
  have hmap : (unionCandidates types [] members).map Candidate.type = keptMembers types [] members :=
    map_type_unionCandidates [] members
  rw [← hmap]
  exact List.mem_map_of_mem h

end Kept

/-! ## Simplified unions -/

namespace TypeGraph

/-- The graph in which a union has other members. -/
def withMembers (g : TypeGraph) (u : TypeId) (members : List TypeId) : TypeGraph :=
  g.modify u fun d => { d with members }

/-- The graph in which a union only has the members that count. -/
def canon (g : TypeGraph) (u : TypeId) : TypeGraph :=
  g.withMembers u (keptMembers g [] (g.descriptor u).members)

/-- The absent value is among the members of a union. -/
def offersNil (g : TypeGraph) (u : TypeId) : Bool :=
  (g.descriptor u).members.any fun member => g.kind member == .nil

variable {g : TypeGraph} {u : TypeId}

@[simp]
theorem size_withMembers (members : List TypeId) : (g.withMembers u members).size = g.size :=
  size_modify g u _

theorem descriptor_withMembers (hunion : g.kind u = .union) (members : List TypeId) :
    (g.withMembers u members).descriptor u = { g.descriptor u with members } := by
  have hlt : u < g.descriptors.size := lt_size_of_kind_eq_union hunion
  simp only [withMembers, modify, descriptor, Array.getElem?_modify, if_true]
  rw [Array.getElem?_eq_getElem hlt]
  rfl

theorem descriptor_withMembers_of_ne {id : TypeId} (h : id ≠ u) (members : List TypeId) :
    (g.withMembers u members).descriptor id = g.descriptor id := by
  simp only [withMembers, modify, descriptor, Array.getElem?_modify, if_neg (Ne.symm h)]

@[simp]
theorem kind_withMembers (members : List TypeId) (id : TypeId) :
    (g.withMembers u members).kind id = g.kind id := by
  simp only [withMembers, modify, kind, descriptor, Array.getElem?_modify]
  split
  · cases g.descriptors[id]? <;> rfl
  · rfl

/-- A union whose members are replaced twice has the members given last. -/
@[simp]
theorem withMembers_withMembers (members more : List TypeId) :
    (g.withMembers u members).withMembers u more = g.withMembers u more := by
  simp only [withMembers, modify, TypeGraph.mk.injEq]
  apply Array.ext_getElem?
  intro i
  simp only [Array.getElem?_modify]
  split
  · rw [Option.map_map]
    rfl
  · rfl

end TypeGraph

section Apart

variable {types : TypeGraph} {u : TypeId}

/-- A type that does not reach a union does not see which members it has. -/
theorem agreesFrom_withMembers {type : TypeId} (hapart : ¬ types.Reaches type u)
    (members active : List TypeId) :
    AgreesFrom types (types.withMembers u members) active active type where
  descriptor id hid := by
    have hne : id ≠ u := by
      rintro rfl
      exact hapart hid
    exact TypeGraph.descriptor_withMembers_of_ne hne members
  active _ _ := rfl

/-- A type that does not reach a union does not see whether the union is entered. -/
theorem agreesFrom_enter {type : TypeId} (hapart : ¬ types.Reaches type u)
    (active : List TypeId) : AgreesFrom types types active (u :: active) type where
  descriptor _ _ := rfl
  active id hid := by
    have hne : id ≠ u := by
      rintro rfl
      exact hapart hid
    simp [hne]

/-- What is reached in an agreeing graph is reached in the graph. -/
theorem AgreesFrom.reaches {types' : TypeGraph} {active active' : List TypeId} {type id : TypeId}
    (h : AgreesFrom types types' active active' type) (hid : types'.Reaches type id) :
    types.Reaches type id := by
  induction hid with
  | refl => exact .refl
  | tail _ hmention ih =>
    rw [h.descriptor _ ih] at hmention
    exact ih.tail hmention

/-- None of the members of a union reaches it. -/
def Apart (types : TypeGraph) (u : TypeId) : Prop :=
  ∀ member ∈ (types.descriptor u).members, ¬ types.Reaches member u

/-- Members stay apart from their union if some are dropped. -/
theorem Apart.withMembers (hapart : Apart types u) (hunion : types.kind u = .union)
    {members : List TypeId} (hsub : members ⊆ (types.descriptor u).members) :
    Apart (types.withMembers u members) u := by
  intro member hmember hreaches
  rw [TypeGraph.descriptor_withMembers hunion] at hmember
  have hkept := hapart member (hsub hmember)
  exact hkept ((agreesFrom_withMembers hkept members []).reaches hreaches)

/-- The members of a union have the same descriptors whatever members the union has. -/
theorem Apart.descriptor_eq (hapart : Apart types u) {members : List TypeId} {member : TypeId}
    (hmember : member ∈ (types.descriptor u).members) :
    (types.withMembers u members).descriptor member = types.descriptor member :=
  (agreesFrom_withMembers (hapart member hmember) members []).descriptor_eq

/-- With fewer members, those of them count that would count in the graph as it was. -/
theorem Apart.canon_withMembers (hapart : Apart types u) (hunion : types.kind u = .union)
    {members : List TypeId} (hsub : members ⊆ (types.descriptor u).members) :
    (types.withMembers u members).canon u = types.withMembers u (keptMembers types [] members) := by
  have hkept : keptMembers (types.withMembers u members) [] members =
      keptMembers types [] members :=
    keptMembers_congr (fun _ hmember => hapart.descriptor_eq (hsub hmember)) []
  rw [TypeGraph.canon, TypeGraph.descriptor_withMembers hunion, hkept,
    TypeGraph.withMembers_withMembers]

/-- Simplifying twice is simplifying once. -/
theorem Apart.canon_canon (hapart : Apart types u) (hunion : types.kind u = .union) :
    (types.canon u).canon u = types.canon u := by
  have hfewer : keptMembers types [] (types.descriptor u).members ⊆ (types.descriptor u).members :=
    keptMembers_subset [] _
  have htwice := hapart.canon_withMembers hunion hfewer
  rwa [keptMembers_keptMembers] at htwice

/-- The absent value is not among the members that count. -/
theorem offersNil_canon (hunion : types.kind u = .union) : (types.canon u).offersNil u = false := by
  rw [TypeGraph.offersNil, TypeGraph.canon, TypeGraph.descriptor_withMembers hunion,
    List.any_eq_false]
  intro member hmember
  have hkind := kind_ne_nil_of_mem_keptMembers hmember
  simpa using hkind

end Apart

/-! ## Simplified unions are classified alike -/

section Classify

variable {types : TypeGraph} {u : TypeId}

/-- The place of a simplified union that is marked as the union was is that of the union. -/
theorem ofUnion_canon (hunion : types.kind u = .union) (slot : Slot) :
    ({ slot with required := slot.required && !types.offersNil u } : Slot).ofUnion (types.canon u)
        ((types.canon u).descriptor u).members =
      slot.ofUnion types (types.descriptor u).members := by
  have hnil := offersNil_canon hunion
  rw [TypeGraph.offersNil] at hnil
  rw [Slot.ofUnion, hnil, Bool.not_false, Bool.and_true]
  rfl

/-- The simplified union has the candidates of the union. -/
theorem unionCandidates_canon (hunion : types.kind u = .union) (hapart : Apart types u) :
    unionCandidates (types.canon u) [] ((types.canon u).descriptor u).members =
      unionCandidates types [] (types.descriptor u).members := by
  have hsame : ∀ member ∈ keptMembers types [] (types.descriptor u).members,
      (types.canon u).descriptor member = types.descriptor member :=
    fun member hmember => hapart.descriptor_eq (keptMembers_subset _ _ hmember)
  rw [TypeGraph.canon, TypeGraph.descriptor_withMembers hunion]
  exact (unionCandidates_congr hsame []).trans (unionCandidates_keptMembers [] _)

/-- A union that its members do not reach is classified as the union of the members that count,
which may be left out if the absent value was among the members. -/
theorem classify_eq_classify_canon (hunion : types.kind u = .union) (hapart : Apart types u)
    (position : Int) (budget : Budget) (name : String) (required : Bool)
    (description : Option String) :
    classify types u position budget name required description =
      classify (types.canon u) u position budget name (required && !types.offersNil u)
        description := by
  have hunion' : (types.canon u).kind u = .union := (TypeGraph.kind_withMembers _ u).trans hunion
  have hdepth : classifyDepth (types.canon u) budget = classifyDepth types budget := by
    rw [classifyDepth, classifyDepth, TypeGraph.canon, TypeGraph.size_withMembers]
  -- no candidate reaches the union, so below it nothing has changed
  have hbelow : ∀ candidate ∈ unionCandidates types [] (types.descriptor u).members,
      ∀ (depth : Nat) (active : List TypeId) (place : Slot) (b : Budget),
        classifyWithin (types.canon u) depth candidate.type place active b =
          classifyWithin types depth candidate.type place active b := by
    intro candidate hcandidate depth active place b
    have hmember := (type_mem_of_mem_unionCandidates hcandidate).resolve_left (by simp)
    exact classifyWithin_eq_of_agreesFrom (agreesFrom_withMembers (hapart _ hmember) _ _) depth
      place b
  rw [classify, classify, hdepth]
  split
  · rfl
  · obtain ⟨depth, hlevels⟩ : ∃ depth, classifyDepth types budget = depth + 1 := ⟨_, rfl⟩
    rw [hlevels, classifyWithin, classifyWithin, classifyLevel_eq_classifyUnion hunion,
      classifyLevel_eq_classifyUnion hunion']
    symm
    apply classifyUnion_congr_of_mem rfl
    · exact ofUnion_canon hunion (.ofParameter position name required description)
    · exact unionCandidates_canon hunion hapart
    · exact fun candidate hcandidate place b => hbelow candidate hcandidate depth [] place b
    · exact fun candidate hcandidate place b => hbelow candidate hcandidate depth [u] place b

/-- Where a union becomes anything but a choice, a member that counts is classified in its place. -/
theorem exists_keptMember_of_classify (hunion : types.kind u = .union) (hapart : Apart types u)
    {position : Int} {budget left : Budget} {name : String} {required : Bool}
    {description : Option String} {node : ParamNode}
    (hrun : classify types u position budget name required description = .ok (some node, left))
    (hnode : node.isUnion = false) :
    ∃ member ∈ keptMembers types [] (types.descriptor u).members,
      classify types member position budget name (required && !types.offersNil u) description =
        .ok (some node, left) := by
  obtain ⟨hname, hderivation⟩ := classify_eq_ok_iff.1 hrun
  generalize hresult : some node = result at hderivation
  cases hderivation with
  | flat hnot _ => exact absurd hunion hnot
  | closedRecord hkind _ => exact absurd (hunion.symm.trans hkind) (by decide)
  | openRecord hkind _ _ => exact absurd (hunion.symm.trans hkind) (by decide)
  | closedUnion _ _ => cases hresult
  | emptyUnion _ _ => cases hresult
  | absentChoice _ _ _ => cases hresult
  | @soleCandidate _ _ _ _ _ candidate _ _ hcandidates _ hchild =>
    subst hresult
    have hmem : candidate ∈ unionCandidates types [] (types.descriptor u).members := by
      rw [hcandidates]
      exact List.mem_cons_self
    exact ⟨candidate.type, type_mem_keptMembers hmem, classify_eq_ok_iff.2 ⟨hname, hchild⟩⟩
  | survivor _ _ hmembers _ hchild =>
    subst hresult
    -- the survivor is built inside the union, which it does not reach
    obtain ⟨least, hfound⟩ := hmembers.foundBelow
    obtain ⟨candidate, hcandidate, rfl⟩ :=
      exists_candidate_of_classifyMembers (hfound least (Nat.le_refl _)) _ List.mem_cons_self
    have hmember := (type_mem_of_mem_unionCandidates hcandidate).resolve_left (by simp)
    have houtside := (agreesFrom_enter (hapart _ hmember) []).classifies_iff.1 hchild
    exact ⟨candidate.type, type_mem_keptMembers hcandidate,
      classify_eq_ok_iff.2 ⟨hname, houtside⟩⟩
  | openUnion _ _ _ _ _ =>
    cases hresult
    cases hnode

/-- Without one of its members, a union offers the absent value if another member is that. -/
theorem offersNil_withMembers (hunion : types.kind u = .union) {before after : List TypeId}
    {extra : TypeId} (hmembers : (types.descriptor u).members = before ++ extra :: after) :
    types.offersNil u =
      (types.kind extra == .nil || (types.withMembers u (before ++ after)).offersNil u) := by
  rw [TypeGraph.offersNil, TypeGraph.offersNil, TypeGraph.descriptor_withMembers hunion, hmembers]
  simp only [TypeGraph.kind_withMembers, List.any_append, List.any_cons]
  rw [Bool.or_left_comm]

/-- Dropping a member that does not count changes nothing, unless it is the absent value, which only
says that the union may be left out. -/
theorem classify_eq_classify_withMembers (hunion : types.kind u = .union) (hapart : Apart types u)
    {before after : List TypeId} {extra : TypeId}
    (hmembers : (types.descriptor u).members = before ++ extra :: after)
    (hredundant : isRedundant types (keptLabels types [] before) extra = true)
    (position : Int) (budget : Budget) (name : String) (required : Bool)
    (description : Option String) :
    classify types u position budget name required description =
      classify (types.withMembers u (before ++ after)) u position budget name
        (required && types.kind extra != .nil) description := by
  have hsub : before ++ after ⊆ (types.descriptor u).members := by
    rw [hmembers, List.append_subset]
    exact ⟨List.subset_append_left _ _,
      fun member hmember => List.mem_append_right _ (List.mem_cons_of_mem _ hmember)⟩
  have hunion' : (types.withMembers u (before ++ after)).kind u = .union :=
    (TypeGraph.kind_withMembers _ u).trans hunion
  -- both unions have the same simplified form
  have hcanon : (types.withMembers u (before ++ after)).canon u = types.canon u := by
    rw [hapart.canon_withMembers hunion hsub, TypeGraph.canon, hmembers,
      keptMembers_append_cons hredundant]
  rw [classify_eq_classify_canon hunion hapart,
    classify_eq_classify_canon hunion' (hapart.withMembers hunion hsub), hcanon,
    offersNil_withMembers hunion hmembers, Bool.not_or, Bool.and_assoc]
  rfl

/-- A union that its members do not reach is classified as its simplified form: the union of those
members that are not the absent value, of a supported kind and of a new label, required if the union
is and the absent value is not among its members. The simplified form of the simplified form is the
same, and dropping a member that does not count changes nothing unless it is the absent value, which
only says that the union may be left out. Where the node is no choice, it is that of one of the
members that count, classified in the place of the union. -/
theorem classify_union_canon (hunion : types.kind u = .union) (hapart : Apart types u)
    (position : Int) (budget : Budget) (name : String) (required : Bool)
    (description : Option String) :
    classify types u position budget name required description =
        classify (types.canon u) u position budget name (required && !types.offersNil u)
          description ∧
      (types.canon u).canon u = types.canon u ∧
      (∀ before extra after, (types.descriptor u).members = before ++ extra :: after →
        isRedundant types (keptLabels types [] before) extra = true →
          classify types u position budget name required description =
            classify (types.withMembers u (before ++ after)) u position budget name
              (required && types.kind extra != .nil) description) ∧
      ∀ node left,
        classify types u position budget name required description = .ok (some node, left) →
          node.isUnion = false →
            ∃ member ∈ keptMembers types [] (types.descriptor u).members,
              classify types member position budget name (required && !types.offersNil u)
                description = .ok (some node, left) := by
  refine ⟨classify_eq_classify_canon hunion hapart position budget name required description,
    hapart.canon_canon hunion, ?_, ?_⟩
  · intro before extra after hmembers hredundant
    exact classify_eq_classify_withMembers hunion hapart hmembers hredundant position budget name
      required description
  · intro node left hrun hnode
    exact exists_keptMember_of_classify hunion hapart hrun hnode

end Classify

/-- A port: a number, given in either of two types, or nothing, or a union that offers nothing. -/
def portTypes : TypeGraph where
  descriptors := #[
    { TypeDescriptor.ofKind .union (some "Port") with members := [1, 2, 3, 4] },
    TypeDescriptor.ofKind .int none,
    TypeDescriptor.ofKind .nil none,
    { TypeDescriptor.ofKind .union none with members := [2] },
    TypeDescriptor.ofKind .int (some "Number")]

theorem classify_union_canon_port :
    portTypes.kind 0 = .union ∧ Apart portTypes 0 ∧
      classify portTypes 0 0 ⟨5⟩ "port" true none =
        classify (portTypes.canon 0) 0 0 ⟨5⟩ "port" false none ∧
      (portTypes.canon 0).canon 0 = portTypes.canon 0 ∧
      classify portTypes 0 0 ⟨5⟩ "port" true none =
        classify (portTypes.withMembers 0 [1, 2, 3]) 0 0 ⟨5⟩ "port" true none ∧
      ∃ node left,
        classify portTypes 0 0 ⟨5⟩ "port" true none = .ok (some node, left) ∧
        node.isUnion = false ∧
        ∃ member ∈ keptMembers portTypes [] [1, 2, 3, 4],
          classify portTypes member 0 ⟨5⟩ "port" false none = .ok (some node, left) := by
  have hunion : portTypes.kind 0 = .union := rfl
  have hapart : Apart portTypes 0 := by
    intro member hmember hreaches
    have hclosed : ∀ id ∈ [1, 2, 3, 4], (portTypes.descriptor id).children ⊆ [1, 2, 3, 4] := by
      decide
    have hzero := hreaches.mem_of_closed hclosed hmember
    simp at hzero
  obtain ⟨hcanon, htwice, hdrop, hkept⟩ :=
    classify_union_canon hunion hapart 0 ⟨5⟩ "port" true none
  -- only the first number is left of the members, and it may be left out
  have hrun : classify portTypes 0 0 ⟨5⟩ "port" true none =
      .ok (some (.simple (.plain "0" "port" false none) .int), ⟨5⟩) := rfl
  exact ⟨hunion, hapart, hcanon, htwice, hdrop [1, 2, 3] 4 [] rfl (by decide), _, _, hrun, rfl,
    hkept _ _ hrun rfl⟩

end SignatureForms
