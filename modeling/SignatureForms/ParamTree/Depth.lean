import SignatureForms.ParamTree.Classification

/-!
# The depth of classification

The recursion of classification is over a depth that is computed beforehand. Here it is shown that
the computed depth is always enough, so that it is no part of what classification means. This
recursion is the logical one: an interpreter that runs it on a call stack of limited depth may give
up on types that are nested too deeply, and such a limit is not modelled.

* `Thrifty` — a classifier never leaves more of the budget than it got, and leaves all of it when
  it gives no node; `classifyWithin_thrifty` says that classification is thrifty at every depth.
* `levels` — how many levels a type can take: two for each field and each union that can still be
  entered. `classifyWithin_eq_of_levels_le` says that two depths of at least that many levels give
  the same result.
* `classifyWithin_eq_of_classifyDepth_le` — so does every depth from `classifyDepth` on.
-/

namespace SignatureForms

/-! ## What is left of the budget -/

/-- The classifier never leaves more of the budget than it got, and leaves all of it when it gives
no node. -/
def Thrifty (child : TypeId → Slot → Budget → Classified) : Prop :=
  ∀ {type : TypeId} {slot : Slot} {budget left : Budget} {node : Option ParamNode},
    child type slot budget = .ok (node, left) →
      left.remaining ≤ budget.remaining ∧ (node = none → left = budget)

theorem classifyFields_remaining_le {types : TypeGraph}
    {child : TypeId → Slot → Budget → Classified} (thrifty : Thrifty child)
    {recordName path : String} {required : Bool} {fields : List Field} {position : Nat}
    {budget left : Budget} {nodes : List ParamNode}
    (run : classifyFields types child recordName path required fields position budget =
      .ok (nodes, left)) : left.remaining ≤ budget.remaining := by
  induction fields generalizing position budget nodes left with
  | nil => simp_all [classifyFields]
  | cons field rest ih =>
    simp only [classifyFields] at run
    split at run
    · cases run
    · split at run
      · exact ih run
      · split at run
        · cases run
          simp only [Budget.reserve, Budget.taken]
          omega
        · split at run
          · cases run
          -- the unit of a field without a node is given back
          · next absent =>
            obtain rfl := (thrifty absent).2 rfl
            simpa [Budget.reserve] using ih run
          · next present =>
            have spent := (thrifty present).1
            split at run
            · cases run
            · next others =>
              cases run
              have := ih others
              simp only [Budget.reserve, Budget.taken] at spent
              omega

theorem classifyMembers_remaining_le {child : TypeId → Slot → Budget → Classified}
    (thrifty : Thrifty child) {slot : Slot} {candidates : List Candidate} {position : Nat}
    {budget left : Budget} {members : List (ParamNode × TypeId)}
    (run : classifyMembers child slot candidates position budget = .ok (members, left)) :
    left.remaining ≤ budget.remaining ∧ (members = [] → left = budget) := by
  induction candidates generalizing position budget members left with
  | nil => simp_all [classifyMembers]
  | cons candidate rest ih =>
    simp only [classifyMembers, Budget.restore_checkpoint] at run
    split at run
    · cases run
    · exact ih run
    · next present =>
      have spent := (thrifty present).1
      split at run
      · cases run
      · next others =>
        cases run
        have := (ih others).1
        exact ⟨by omega, by simp⟩

theorem classifyChoice_remaining_le {child : ChildClassifier}
    (thrifty : ∀ active, Thrifty fun type slot => child type slot active) {slot : Slot}
    {inside : List TypeId} {candidates : List Candidate} {budget left : Budget}
    {node : Option ParamNode}
    (run : classifyChoice child slot inside candidates budget = .ok (node, left)) :
    left.remaining ≤ budget.remaining ∧ (node = none → left = budget) := by
  simp only [classifyChoice] at run
  split at run
  · cases run
  · next found =>
    cases run
    have spent := classifyMembers_remaining_le (thrifty inside) found
    exact ⟨spent.1, fun _ => spent.2 rfl⟩
  · next found =>
    split at run
    · cases run
      exact ⟨(classifyMembers_remaining_le (thrifty inside) found).1, by simp⟩
    · rw [Budget.restore_checkpoint] at run
      exact thrifty inside run
  · next found =>
    cases run
    exact ⟨(classifyMembers_remaining_le (thrifty inside) found).1, by simp⟩

theorem classifyUnion_remaining_le {types : TypeGraph} {child : ChildClassifier}
    (thrifty : ∀ active, Thrifty fun type slot => child type slot active) {id : TypeId}
    {d : TypeDescriptor} {slot : Slot} {active : List TypeId} {budget left : Budget}
    {node : Option ParamNode}
    (run : classifyUnion types child id d slot active budget = .ok (node, left)) :
    left.remaining ≤ budget.remaining ∧ (node = none → left = budget) := by
  simp only [classifyUnion] at run
  split at run
  · simp_all
  · split at run
    · simp_all
    · split at run
      · exact classifyChoice_remaining_le thrifty run
      · exact thrifty active run
    · exact classifyChoice_remaining_le thrifty run

/-- Classification is thrifty at every depth. -/
theorem classifyWithin_thrifty (types : TypeGraph) (depth : Nat) (active : List TypeId) :
    Thrifty fun type slot => classifyWithin types depth type slot active := by
  induction depth generalizing active with
  | zero =>
    intro type slot budget left node run
    simp_all [classifyWithin]
  | succ depth ih =>
    intro type slot budget left node run
    simp only [classifyWithin, classifyLevel] at run
    split at run
    · exact classifyUnion_remaining_le ih run
    · simp only [classifyRecord] at run
      split at run
      · simp_all
      · split at run
        · cases run
        · next fields =>
          cases run
          exact ⟨classifyFields_remaining_le (ih active) fields, by simp⟩
    all_goals simp_all

/-! ## Levels -/

/-- How many unions can still be entered inside the unions `active`. -/
def openUnions (types : TypeGraph) (active : List TypeId) : Nat :=
  ((List.range types.size).filter fun id => !active.contains id).length

/-- How many levels a type can take: two for each field and each union that can still be entered,
and one or, for a union, two for the type itself. -/
def levels (types : TypeGraph) (type : TypeId) (active : List TypeId) (budget : Budget) : Nat :=
  2 * (budget.remaining.toNat + openUnions types active)
    + (if types.kind type = .union then 2 else 1)

/-- Entering a union leaves one union less to enter. -/
theorem openUnions_cons_lt {types : TypeGraph} {id : TypeId} {active : List TypeId}
    (known : id < types.size) (fresh : active.contains id = false) :
    openUnions types (id :: active) < openUnions types active := by
  have mem : id ∈ (List.range types.size).filter fun i => !active.contains i :=
    List.mem_filter.2 ⟨List.mem_range.2 known, by rw [fresh]; rfl⟩
  have same : ((List.range types.size).filter fun i => !(id :: active).contains i) =
      ((List.range types.size).filter fun i => !active.contains i).erase id := by
    rw [List.Nodup.erase_eq_filter (List.nodup_range.filter _), List.filter_filter]
    congr 1
    funext i
    rw [List.contains_cons, Bool.not_or]
    rfl
  have positive := List.length_pos_of_mem mem
  rw [openUnions, openUnions, same, List.length_erase_of_mem mem]
  omega

/-- A number outside the graph is no union. -/
theorem lt_size_of_kind_eq_union {types : TypeGraph} {id : TypeId}
    (h : types.kind id = .union) : id < types.size := by
  refine Nat.lt_of_not_le fun outside => ?_
  have missing : types.descriptors[id]? = none := Array.getElem?_eq_none outside
  simp only [TypeGraph.kind, TypeGraph.descriptor, missing, Option.getD_none] at h
  cases h

/-- A candidate has the kind of its type. -/
theorem kind_of_mem_unionCandidates {types : TypeGraph} {done : List Candidate}
    {members : List TypeId} (known : ∀ c ∈ done, c.kind = types.kind c.type) {c : Candidate}
    (h : c ∈ unionCandidates types done members) : c.kind = types.kind c.type := by
  induction members generalizing done with
  | nil => exact known c h
  | cons member rest ih =>
    simp only [unionCandidates] at h
    split at h
    · exact ih known h
    · refine ih (fun c mem => ?_) h
      rcases List.mem_append.1 mem with old | new
      · exact known c old
      · rw [List.mem_singleton.1 new]
        rfl

/-! ## Depth is enough -/

theorem classifyFields_congr {types : TypeGraph}
    {child child' : TypeId → Slot → Budget → Classified} (thrifty : Thrifty child)
    {recordName path : String} {required : Bool} {limit : Int}
    (same : ∀ type slot (b : Budget), 0 ≤ b.remaining → b.remaining < limit →
      child type slot b = child' type slot b)
    (fields : List Field) (position : Nat) {budget : Budget} (within : budget.remaining ≤ limit) :
    classifyFields types child recordName path required fields position budget =
      classifyFields types child' recordName path required fields position budget := by
  induction fields generalizing position budget with
  | nil => rfl
  | cons field rest ih =>
    simp only [classifyFields]
    split
    · rfl
    · split
      · exact ih _ within
      · split
        · rfl
        · next fits =>
          rw [Bool.not_eq_true', Bool.not_eq_false] at fits
          have left : 0 ≤ budget.reserve.2.remaining := of_decide_eq_true fits
          have less : budget.reserve.2.remaining + 1 = budget.remaining := by
            simp only [Budget.reserve, Budget.taken]
            omega
          rw [← same _ _ _ left (by omega)]
          split
          · rfl
          · next absent =>
            obtain rfl := (thrifty absent).2 rfl
            exact ih _ (by simpa [Budget.reserve] using within)
          · next present =>
            have spent := (thrifty present).1
            rw [ih _ (by omega)]

theorem classifyMembers_congr {child child' : TypeId → Slot → Budget → Classified}
    (thrifty : Thrifty child) {slot : Slot} {limit : Int}
    (same : ∀ type slot (b : Budget), b.remaining ≤ limit →
      child type slot b = child' type slot b)
    (candidates : List Candidate) (position : Nat) {budget : Budget}
    (within : budget.remaining ≤ limit) :
    classifyMembers child slot candidates position budget =
      classifyMembers child' slot candidates position budget := by
  induction candidates generalizing position budget with
  | nil => rfl
  | cons candidate rest ih =>
    simp only [classifyMembers, Budget.restore_checkpoint]
    rw [← same _ _ _ within]
    split
    · rfl
    · exact ih _ within
    · next present =>
      have spent := (thrifty present).1
      rw [ih _ (by omega)]

theorem classifyChoice_congr {child child' : ChildClassifier} {inside : List TypeId}
    (thrifty : Thrifty fun type slot => child type slot inside) (budget : Budget)
    (same : ∀ type slot (b : Budget), b.remaining ≤ budget.remaining →
      child type slot inside b = child' type slot inside b)
    (slot : Slot) (candidates : List Candidate) :
    classifyChoice child slot inside candidates budget =
      classifyChoice child' slot inside candidates budget := by
  simp only [classifyChoice, Budget.restore_checkpoint]
  rw [classifyMembers_congr thrifty same candidates 0 (Int.le_refl _)]
  simp only [same _ _ budget (Int.le_refl _)]

theorem classifyUnion_congr {types : TypeGraph} {child child' : ChildClassifier}
    (thrifty : ∀ active, Thrifty fun type slot => child type slot active) {id : TypeId}
    {slot : Slot} {active : List TypeId} {budget : Budget} (union : types.kind id = .union)
    (same : ∀ type slot inside b, levels types type inside b < levels types id active budget →
      child type slot inside b = child' type slot inside b) :
    classifyUnion types child id (types.descriptor id) slot active budget =
      classifyUnion types child' id (types.descriptor id) slot active budget := by
  simp only [classifyUnion]
  split
  · rfl
  · next fresh =>
    simp only [Bool.or_eq_true, not_or, Bool.not_eq_true] at fresh
    have fewer := openUnions_cons_lt (lt_size_of_kind_eq_union union) fresh.1
    have choice := classifyChoice_congr (thrifty (id :: active)) budget
      fun type slot b hb => same type slot (id :: active) b <| by
        simp only [levels, union, if_true]
        split <;> omega
    split
    · rfl
    · next candidate single =>
      split
      · exact choice _ _
      · next leaf =>
        have kind : candidate.kind = types.kind candidate.type :=
          kind_of_mem_unionCandidates (by simp) (single ▸ List.mem_singleton.2 rfl)
        refine same _ _ _ _ ?_
        have : types.kind candidate.type ≠ .union := fun h => leaf (by rw [kind, h]; rfl)
        simp only [levels, union, this, if_true, if_false]
        omega
    · exact choice _ _

theorem classifyLevel_congr {types : TypeGraph} {child child' : ChildClassifier}
    (thrifty : ∀ active, Thrifty fun type slot => child type slot active) {type : TypeId}
    {slot : Slot} {active : List TypeId} {budget : Budget}
    (same : ∀ t slot inside b, levels types t inside b < levels types type active budget →
      child t slot inside b = child' t slot inside b) :
    classifyLevel types child type slot active budget =
      classifyLevel types child' type slot active budget := by
  simp only [classifyLevel]
  split
  · next union => exact classifyUnion_congr thrifty union same
  · next record =>
    have kind : types.kind type ≠ .union := by simp [TypeGraph.kind, record]
    simp only [classifyRecord]
    split
    · rfl
    · rw [classifyFields_congr (thrifty active) (fun t place b left less => same t place active b ?_)
        _ _ (Int.le_refl _)]
      simp only [levels, kind, if_false]
      split <;> omega
  all_goals rfl

/-- Two depths of at least as many levels as the type can take give the same result. -/
theorem classifyWithin_eq_of_levels_le {types : TypeGraph} {depth depth' : Nat} {type : TypeId}
    {slot : Slot} {active : List TypeId} {budget : Budget}
    (h : levels types type active budget ≤ depth)
    (h' : levels types type active budget ≤ depth') :
    classifyWithin types depth type slot active budget =
      classifyWithin types depth' type slot active budget := by
  have positive : 0 < levels types type active budget := by
    simp only [levels]
    split <;> omega
  induction depth generalizing depth' type slot active budget with
  | zero => omega
  | succ depth ih =>
    obtain _ | depth' := depth'
    · omega
    · refine classifyLevel_congr (classifyWithin_thrifty types depth) fun t place inside b less => ?_
      refine ih (by omega) (by omega) ?_
      simp only [levels]
      split <;> omega

theorem levels_nil_le_classifyDepth (types : TypeGraph) (type : TypeId) (budget : Budget) :
    levels types type [] budget ≤ classifyDepth types budget := by
  have size : openUnions types [] ≤ types.size :=
    Nat.le_trans (List.length_filter_le _ _) (Nat.le_of_eq List.length_range)
  simp only [levels, classifyDepth]
  split <;> omega

/-- Going deeper than the computed depth changes nothing. -/
theorem classifyWithin_eq_of_classifyDepth_le {types : TypeGraph} {depth : Nat} {budget : Budget}
    (h : classifyDepth types budget ≤ depth) (type : TypeId) (slot : Slot) :
    classifyWithin types depth type slot [] budget =
      classifyWithin types (classifyDepth types budget) type slot [] budget :=
  have enough := levels_nil_le_classifyDepth types type budget
  classifyWithin_eq_of_levels_le (Nat.le_trans enough h) enough

end SignatureForms
