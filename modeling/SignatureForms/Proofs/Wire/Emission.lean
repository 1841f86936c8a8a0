import SignatureForms.Proofs.Wire.Agreement

/-!
# Emitted names

Calls that describe parameters share the names that were emitted before. Describing two lists of
parameters in turn, the second from the names that the first left, is describing both at once. A
call describes each new name where the traversal of the parameters reaches it first, and adds
exactly the names that it describes.

The module introduces:

* `ParamNode.visited x node` — the nodes that a traversal reaches, each ahead of its parts;
* `ParamNode.descriptor? x node` — what the traversal describes at a single node;
* `Emission` — what was described so far, and the names that were emitted;
* `visit x node s` — the traversal of a node in one pass, with the emission as its state.

## Main results

* `mentions_eq`: the mentions of names are the descriptors of the nodes that are visited;
* `mem_firstMentions`: a descriptor is emitted if it is the first one of a new name;
* `parameterDescriptors_eq_visitAll`: describing mentions afterwards is describing in one pass;
* `parameterDescriptors_append`: lists of parameters may be described in turn.
-/

namespace SignatureForms

/-! ## The traversal -/

namespace ParamNode

mutual

/-- The nodes that a traversal reaches, each ahead of its parts. It does not look into records that
are entered as text, nor at the options of choices of types. -/
def visited (expandRecords : Bool) : ParamNode → List ParamNode
  | simple info kind => [simple info kind]
  | record info recordName parentPath fields =>
    record info recordName parentPath fields ::
      if expandRecords then visitedAll expandRecords fields else []
  | union info members =>
    union info members :: if info.typeDescriptor then [] else visitedAll expandRecords members
  | map info shape => [map info shape]
  | array info shape => [array info shape]

/-- The nodes that are reached in several trees in turn. -/
def visitedAll (expandRecords : Bool) : List ParamNode → List ParamNode
  | [] => []
  | node :: rest => visited expandRecords node ++ visitedAll expandRecords rest

end

/-- What is described at a node itself: a choice by its discriminator, if it has one, and any other
node by its own name, unless its fields are described instead. -/
def described (expandRecords : Bool) : ParamNode → List ParameterDescriptor
  | union info members =>
    if hasDiscriminator members then
      [⟨discriminatorName info.value, info.description.getD ""⟩]
    else []
  | node =>
    if node.expands expandRecords then [] else [⟨node.name, node.info.description.getD ""⟩]

/-- All places where parameters are described, in the order of the traversal. -/
def occurrences (expandRecords : Bool) (params : List ParamNode) : List ParameterDescriptor :=
  (visitedAll expandRecords params).flatMap (described expandRecords)

end ParamNode

section Mentions

variable {expandRecords : Bool}

/-- Nothing is visited below a record whose fields are not described. -/
theorem ParamNode.visited_record_of_not_expands {info : NodeInfo} {recordName parentPath : String}
    {fields : List ParamNode}
    (h : ¬ (record info recordName parentPath fields).expands expandRecords = true) :
    (record info recordName parentPath fields).visited expandRecords =
      [record info recordName parentPath fields] := by
  rw [visited]
  split
  · next hon =>
    obtain rfl : fields = [] := by simpa [expands, hon] using h
    rfl
  · rfl

mutual

/-- The mentions of names are the descriptors of the nodes that are visited; there are none if one
of these nodes is malformed, and the first of these is at fault. -/
theorem mentions_eq : ∀ node : ParamNode, mentions expandRecords node = do
    forM (node.visited expandRecords) ParamNode.checkVariant
    return (node.visited expandRecords).flatMap (ParamNode.described expandRecords)
  | .simple info kind => by
    rw [mentions, ParamNode.visited, List.forM_cons, List.forM_nil, bind_assoc]
    rfl
  | .record info recordName parentPath fields => by
    by_cases hunfolds : (ParamNode.record info recordName parentPath fields).expands expandRecords
    · have hon : expandRecords = true := (Bool.and_eq_true_iff.1 hunfolds).1
      have hnone : ParamNode.described expandRecords (.record info recordName parentPath fields) =
          [] := if_pos hunfolds
      rw [mentions_of_expands hunfolds, ParamNode.fields, mentionsAll_eq fields,
        ParamNode.visited, if_pos hon, List.forM_cons, List.flatMap_cons, hnone]
      rfl
    · have hname : ParamNode.described expandRecords (.record info recordName parentPath fields) =
          [⟨info.name, info.description.getD ""⟩] := if_neg hunfolds
      rw [ParamNode.visited_record_of_not_expands hunfolds, List.flatMap_singleton, hname]
      exact if_neg hunfolds
  | .union info members => by
    rw [mentions, ParamNode.visited, List.forM_cons, List.flatMap_cons, ParamNode.described]
    split
    · rw [List.flatMap_nil, List.append_nil]
      rfl
    · rw [mentionsAll_eq members]
      simp only [bind_assoc, pure_bind]
      rfl
  | .map _ _ => rfl
  | .array _ _ => rfl

/-- The mentions of names in several nodes are the descriptors of the nodes that are visited in
turn; there are none if one of these nodes is malformed, and the first of these is at fault. -/
theorem mentionsAll_eq : ∀ nodes : List ParamNode, mentionsAll expandRecords nodes = do
    forM (ParamNode.visitedAll expandRecords nodes) ParamNode.checkVariant
    return ParamNode.occurrences expandRecords nodes
  | [] => rfl
  | node :: rest => by
    rw [mentionsAll, mentions_eq node, mentionsAll_eq rest, ParamNode.occurrences,
      ParamNode.occurrences, ParamNode.visitedAll, List.forM_append, List.flatMap_append]
    simp only [bind_assoc, pure_bind]

end

end Mentions

/-! ## First mentions in order -/

section FirstMentions

variable {emitted : List String} {ds : List ParameterDescriptor}

/-- Descriptors are emitted in the order of the mentions. -/
theorem firstMentions_sublist (emitted : List String) (ds : List ParameterDescriptor) :
    (firstMentions emitted ds).Sublist ds := by
  induction ds generalizing emitted with
  | nil => exact List.Sublist.refl []
  | cons d rest ih =>
    rw [firstMentions]
    split
    · exact (ih emitted).cons d
    · exact (ih (emitted ++ [d.name])).cons_cons d

/-- A descriptor is emitted if it is the first one of a name that was not emitted before. -/
theorem mem_firstMentions {d : ParameterDescriptor} :
    d ∈ firstMentions emitted ds ↔
      d.name ∉ emitted ∧ ds.find? (fun e => e.name = d.name) = some d := by
  induction ds generalizing emitted with
  | nil => simp [firstMentions]
  | cons e rest ih =>
    rw [firstMentions]
    by_cases hknown : e.name ∈ emitted
    · rw [if_pos (by simpa using hknown), ih, List.find?_cons]
      apply and_congr_right
      intro hnew
      have hne : e.name ≠ d.name := fun heq => hnew (heq ▸ hknown)
      simp [hne]
    · rw [if_neg (by simpa using hknown), List.mem_cons, ih, List.find?_cons]
      by_cases heq : e.name = d.name
      -- the name is emitted here, and later mentions of it are dropped
      · have hnew : d.name ∉ emitted := heq ▸ hknown
        simp only [heq, decide_true, Option.some.injEq, hnew, not_false_eq_true, true_and,
          List.mem_append, List.mem_singleton, or_true, not_true_eq_false, false_and, or_false]
        exact eq_comm
      · have hne : d ≠ e := fun h => heq (h ▸ rfl)
        simp [heq, hne, Ne.symm heq]

/-- Nothing is left to describe if all names were emitted. -/
theorem firstMentions_eq_nil (h : ∀ d ∈ ds, d.name ∈ emitted) : firstMentions emitted ds = [] := by
  rw [List.eq_nil_iff_forall_not_mem]
  intro d hd
  have hmention := (firstMentions_sublist emitted ds).subset hd
  exact (mem_firstMentions.1 hd).1 (h d hmention)

end FirstMentions

/-! ## One pass -/

/-- What was described so far, and the names that were emitted. -/
structure Emission where
  /-- The descriptors, in the order in which they were emitted. -/
  described : List ParameterDescriptor
  /-- The names that are not described again. -/
  emitted : List String
deriving DecidableEq, Repr

/-- A descriptor is emitted unless its name was emitted before. -/
def Emission.emit (s : Emission) (d : ParameterDescriptor) : Emission :=
  if s.emitted.contains d.name then s else ⟨s.described ++ [d], s.emitted ++ [d.name]⟩

mutual

/-- The traversal of a node in one pass: what is reached is emitted on the way. -/
def visit (expandRecords : Bool) : ParamNode → Emission → Except Fault Emission
  | .record info _ _ fields, s =>
    if expandRecords && !fields.isEmpty then visitAll expandRecords fields s
    else .ok (s.emit ⟨info.name, info.description.getD ""⟩)
  | .union info members, s =>
    let chosen :=
      if ParamNode.hasDiscriminator members then
        s.emit ⟨discriminatorName info.value, info.description.getD ""⟩
      else s
    if info.typeDescriptor then .ok chosen else visitAll expandRecords members chosen
  | .simple info kind, s => do
    (ParamNode.simple info kind).checkVariant
    return s.emit ⟨info.name, info.description.getD ""⟩
  | .map info _, s => .ok (s.emit ⟨info.name, info.description.getD ""⟩)
  | .array info _, s => .ok (s.emit ⟨info.name, info.description.getD ""⟩)

/-- The traversal of several nodes in turn. -/
def visitAll (expandRecords : Bool) : List ParamNode → Emission → Except Fault Emission
  | [], s => .ok s
  | node :: rest, s => do visitAll expandRecords rest (← visit expandRecords node s)

end

section OnePass

variable {expandRecords : Bool}

/-- Emitting descriptors one by one emits the first mentions of new names. -/
theorem foldl_emit (ds : List ParameterDescriptor) (s : Emission) :
    ds.foldl Emission.emit s =
      ⟨s.described ++ firstMentions s.emitted ds,
        s.emitted ++ (firstMentions s.emitted ds).map ParameterDescriptor.name⟩ := by
  induction ds generalizing s with
  | nil => simp [firstMentions]
  | cons d rest ih =>
    rw [List.foldl_cons, ih, firstMentions, Emission.emit]
    split
    · rfl
    · simp

mutual

/-- A pass over a node emits what the node mentions. -/
theorem visit_eq : ∀ (node : ParamNode) (s : Emission), visit expandRecords node s = do
    return (← mentions expandRecords node).foldl Emission.emit s
  | .simple info kind, s => by
    rw [visit, mentions, bind_assoc]
    rfl
  | .record info _ _ fields, s => by
    rw [visit, mentions]
    split
    · exact visitAll_eq fields s
    · rfl
  | .union info members, s => by
    rw [visit, mentions]
    -- the discriminator comes ahead of what the members mention
    have hchosen : (if ParamNode.hasDiscriminator members then
          s.emit ⟨discriminatorName info.value, info.description.getD ""⟩ else s) =
        (if ParamNode.hasDiscriminator members then
          [(⟨discriminatorName info.value, info.description.getD ""⟩ : ParameterDescriptor)]
          else []).foldl Emission.emit s := by
      split <;> rfl
    rw [hchosen]
    split
    · rfl
    · rw [visitAll_eq members]
      simp only [bind_assoc, pure_bind, List.foldl_append]
  | .map _ _, _ => rfl
  | .array _ _, _ => rfl

/-- A pass over several nodes in turn emits what the nodes mention. -/
theorem visitAll_eq : ∀ (nodes : List ParamNode) (s : Emission), visitAll expandRecords nodes s = do
    return (← mentionsAll expandRecords nodes).foldl Emission.emit s
  | [], _ => rfl
  | node :: rest, s => by
    rw [visitAll, mentionsAll, visit_eq node]
    simp only [bind_assoc, pure_bind, visitAll_eq rest, List.foldl_append]

end

/-- Dropping the repeats among all mentions afterwards is emitting in one pass, with the emitted
names as its state. -/
theorem parameterDescriptors_eq_visitAll (params : List ParamNode) (emitted : List String) :
    parameterDescriptors params emitted expandRecords = do
      let s ← visitAll expandRecords params ⟨[], emitted⟩
      return (s.described, s.emitted) := by
  rw [parameterDescriptors, visitAll_eq, bind_assoc]
  simp only [pure_bind, foldl_emit, List.nil_append]

end OnePass

/-! ## Describing in turn -/

section Describing

variable {expandRecords : Bool}

theorem ParamNode.visitedAll_append (p q : List ParamNode) :
    visitedAll expandRecords (p ++ q) =
      visitedAll expandRecords p ++ visitedAll expandRecords q := by
  induction p with
  | nil => rfl
  | cons node rest ih => rw [List.cons_append, visitedAll, visitedAll, ih, List.append_assoc]

theorem ParamNode.occurrences_append (p q : List ParamNode) :
    occurrences expandRecords (p ++ q) =
      occurrences expandRecords p ++ occurrences expandRecords q := by
  rw [occurrences, visitedAll_append, List.flatMap_append, occurrences, occurrences]

/-- Parameters are described if no node that is visited is malformed. -/
theorem parameterDescriptors_eq (params : List ParamNode) (emitted : List String) :
    parameterDescriptors params emitted expandRecords = do
      forM (ParamNode.visitedAll expandRecords params) ParamNode.checkVariant
      let found := firstMentions emitted (ParamNode.occurrences expandRecords params)
      return (found, emitted ++ found.map ParameterDescriptor.name) := by
  rw [parameterDescriptors, mentionsAll_eq, bind_assoc]
  rfl

/-- Two lists of parameters may be described in turn, the second from the names that the first
leaves. -/
theorem parameterDescriptors_append (p q : List ParamNode) (emitted : List String) :
    parameterDescriptors (p ++ q) emitted expandRecords = do
      let (first, between) ← parameterDescriptors p emitted expandRecords
      let (second, final) ← parameterDescriptors q between expandRecords
      return (first ++ second, final) := by
  simp only [parameterDescriptors_eq, ParamNode.visitedAll_append, ParamNode.occurrences_append,
    List.forM_append, firstMentions_append, List.map_append, bind_assoc, pure_bind,
    List.append_assoc]

/-- A call that succeeds has found no malformed node, describes the first mentions of new names, and
leaves these names besides those that it was given. -/
theorem eq_of_parameterDescriptors {params : List ParamNode} {emitted final : List String}
    {found : List ParameterDescriptor}
    (h : parameterDescriptors params emitted expandRecords = .ok (found, final)) :
    forM (ParamNode.visitedAll expandRecords params) ParamNode.checkVariant = Except.ok () ∧
      found = firstMentions emitted (ParamNode.occurrences expandRecords params) ∧
      final = emitted ++ found.map ParameterDescriptor.name := by
  rw [parameterDescriptors_eq] at h
  obtain ⟨⟨⟩, hcheck, h⟩ := bind_eq_ok_iff.1 h
  obtain ⟨rfl, rfl⟩ := Prod.mk.inj (pure_eq_ok_iff.1 h)
  exact ⟨hcheck, rfl, rfl⟩

/-- Parameters that were described are not described again. -/
theorem parameterDescriptors_again {params : List ParamNode} {emitted final : List String}
    {found : List ParameterDescriptor}
    (h : parameterDescriptors params emitted expandRecords = .ok (found, final)) :
    parameterDescriptors params final expandRecords = .ok ([], final) := by
  obtain ⟨hcheck, hfound, hfinal⟩ := eq_of_parameterDescriptors h
  have hnone : firstMentions final (ParamNode.occurrences expandRecords params) = [] := by
    refine firstMentions_eq_nil fun d hd => ?_
    rw [hfinal, List.mem_append, hfound, mem_map_name_firstMentions]
    by_cases hknown : d.name ∈ emitted
    · exact .inl hknown
    · exact .inr ⟨List.mem_map_of_mem hd, hknown⟩
  rw [parameterDescriptors_eq, hcheck, hnone]
  simp only [List.map_nil, List.append_nil]
  rfl

/-- Two lists of parameters may be described in turn. A call that succeeds describes each new name
once, by its first occurrence and in the order of the traversal, adds exactly these names to the
emitted ones, and has nothing to describe when it is repeated. -/
theorem parameterDescriptors_compositional (p q : List ParamNode) (emitted : List String)
    (expandRecords : Bool) :
    (parameterDescriptors (p ++ q) emitted expandRecords = do
      let (first, between) ← parameterDescriptors p emitted expandRecords
      let (second, final) ← parameterDescriptors q between expandRecords
      return (first ++ second, final)) ∧
    ∀ found final, parameterDescriptors p emitted expandRecords = .ok (found, final) →
      (found.map ParameterDescriptor.name).Nodup ∧
      (∀ name ∈ found.map ParameterDescriptor.name, name ∉ emitted) ∧
      (∀ name, name ∈ final ↔ name ∈ emitted ∨ name ∈ found.map ParameterDescriptor.name) ∧
      found.Sublist (ParamNode.occurrences expandRecords p) ∧
      (∀ d, d ∈ found ↔ d.name ∉ emitted ∧
        (ParamNode.occurrences expandRecords p).find? (fun e => e.name = d.name) = some d) ∧
      parameterDescriptors p final expandRecords = .ok ([], final) := by
  refine ⟨parameterDescriptors_append p q emitted, fun found final h => ?_⟩
  have hagain := parameterDescriptors_again h
  obtain ⟨-, rfl, rfl⟩ := eq_of_parameterDescriptors h
  refine ⟨nodup_map_name_firstMentions emitted _, fun name hname => ?_,
    fun name => List.mem_append, firstMentions_sublist emitted _, fun d => mem_firstMentions,
    hagain⟩
  exact (mem_map_name_firstMentions.1 hname).2

/-- The parameters of `endpointParams`, of which `at_name` was emitted by an earlier call: only the
discriminator and the map of one arm are new. -/
theorem parameterDescriptors_compositional_endpoint :
    parameterDescriptors endpointParams ["at_name"] true =
        .ok ([⟨"atDataType", ""⟩, ⟨"at_retry", ""⟩], ["at_name", "atDataType", "at_retry"]) ∧
      parameterDescriptors endpointParams ["at_name", "atDataType", "at_retry"] true =
        .ok ([], ["at_name", "atDataType", "at_retry"]) := by
  have hfirst : parameterDescriptors endpointParams ["at_name"] true =
      .ok ([⟨"atDataType", ""⟩, ⟨"at_retry", ""⟩], ["at_name", "atDataType", "at_retry"]) := by
    rfl
  obtain ⟨-, hsecond⟩ := parameterDescriptors_compositional endpointParams [] ["at_name"] true
  obtain ⟨-, -, -, -, -, hagain⟩ := hsecond _ _ hfirst
  exact ⟨hfirst, hagain⟩

end Describing

end SignatureForms
