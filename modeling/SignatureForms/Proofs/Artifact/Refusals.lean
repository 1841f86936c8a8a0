import SignatureForms.Artifact.Operation
import SignatureForms.Proofs.Form.Rendering
import SignatureForms.Proofs.ParamTree.Leaves
import SignatureForms.Proofs.Wire.Fields

/-!
# What renderers refuse

Wires, descriptors and forms refuse a leaf that claims the kind of a composite. This module shows
that they refuse nothing else in the trees that classification gives: the steps of each renderer are
followed with the set of leaves that they may still refuse.

The module introduces:

* `RefusesOnly leaves step` — if the step fails, it refuses one of the leaves;
* `AllRenderings P expandRecords params` — the property holds of all renderings of parameters.

## Main results

* `refusesOnly_renderNode`: rendering a node refuses only its own leaves;
* `refusesOnly_renderings`: no renderer refuses anything but a leaf of the parameters;
* `exists_outcome_renderings`: an operation that is not skipped is rendered, in each way and
  everywhere, just if no leaf claims the kind of a composite.
-/

namespace SignatureForms

/-! ## Steps that refuse leaves -/

/-- If the step fails, it refuses one of the leaves, which claims the kind of a composite. -/
def RefusesOnly {α : Type} (leaves : List ParamNode) (step : Except Fault α) : Prop :=
  ∀ fault, step = .error fault → ∃ leaf ∈ leaves,
    leaf.kind.isComposite = true ∧ fault = .malformedVariant leaf.value leaf.kind

namespace RefusesOnly

variable {α β : Type} {leaves more : List ParamNode}

theorem ok (leaves : List ParamNode) (result : α) : RefusesOnly leaves (.ok result) := nofun

/-- A step refuses what its parts refuse. -/
theorem bind {step : Except Fault α} {next : α → Except Fault β} (h : RefusesOnly leaves step)
    (hnext : ∀ result, RefusesOnly leaves (next result)) : RefusesOnly leaves (step >>= next) := by
  intro fault hfault
  cases step with
  | error fault =>
    cases hfault
    exact h fault rfl
  | ok result => exact hnext result fault hfault

theorem map {step : Except Fault α} (h : RefusesOnly leaves step) (f : α → β) :
    RefusesOnly leaves (f <$> step) := by
  intro fault hfault
  cases step with
  | error fault =>
    cases hfault
    exact h fault rfl
  | ok result => cases hfault

/-- A step that refuses only some leaves refuses only leaves among more of them. -/
theorem mono {step : Except Fault α} (h : RefusesOnly leaves step) (hsubset : leaves ⊆ more) :
    RefusesOnly more step := by
  intro fault hfault
  obtain ⟨leaf, hleaf, hrefused⟩ := h fault hfault
  exact ⟨leaf, hsubset hleaf, hrefused⟩

/-- Steps in turn refuse what each of them refuses. -/
theorem mapM {f : α → Except Fault β} {xs : List α} (h : ∀ x ∈ xs, RefusesOnly leaves (f x)) :
    RefusesOnly leaves (xs.mapM f) := by
  induction xs with
  | nil => exact ok leaves []
  | cons x rest ih =>
    rw [List.forall_mem_cons] at h
    rw [List.mapM_cons]
    exact h.1.bind fun _ => (ih h.2).bind fun _ => ok leaves _

/-- A step that may refuse only leaves that are none of composites gives a result. -/
theorem exists_eq_ok {step : Except Fault α} (h : RefusesOnly leaves step)
    (hleaves : ∀ leaf ∈ leaves, leaf.kind.isComposite = false) : ∃ result, step = .ok result := by
  cases step with
  | ok result => exact ⟨result, rfl⟩
  | error fault =>
    obtain ⟨leaf, hleaf, hcomposite, -⟩ := h fault rfl
    rw [hleaves leaf hleaf] at hcomposite
    cases hcomposite

/-- The check of a node refuses the node itself if it is a leaf. -/
theorem checkVariant {node : ParamNode}
    (h : ∀ info kind, node = .simple info kind → node ∈ leaves) :
    RefusesOnly leaves node.checkVariant := by
  intro fault hfault
  cases node with
  | simple info kind =>
    rw [ParamNode.checkVariant] at hfault
    split at hfault
    · next hcomposite =>
      cases hfault
      exact ⟨_, h info kind rfl, hcomposite, rfl⟩
    · cases hfault
  | _ => cases hfault

end RefusesOnly

/-! ## Wires -/

section Wires

variable {types : TypeGraph} {expandRecords : Bool}

/-- What a field numbers, its record numbers where it is unfolded. -/
theorem mem_numbered_of_mem_fields {node field : ParamNode} (hfield : field ∈ node.fields)
    {tag : Option String} {entry : FieldNode} (h : entry ∈ field.numbered true tag) :
    entry ∈ node.numbered true tag := by
  cases node with
  | record info recordName parentPath fields =>
    have hfull : fields ≠ [] := List.ne_nil_of_mem hfield
    rw [ParamNode.numbered, if_pos (by simpa using hfull), ParamNode.numberedAll_eq_flatMap]
    exact List.mem_flatMap.2 ⟨field, hfield, h⟩
  | _ => cases hfield

/-- The leaves that an offerable node numbers are among its leaves. -/
theorem Offerable.mem_leaves_of_mem_numbered {node : ParamNode} (h : Offerable types node)
    {expandRecords : Bool} {tag : Option String} :
    ∀ entry ∈ node.numbered expandRecords tag, ∀ info kind, entry.node = .simple info kind →
      entry.node ∈ node.leaves := by
  induction h generalizing expandRecords tag with
  | simple | map | array =>
    intro entry hentry
    rw [List.mem_singleton.1 hentry]
    simp [ParamNode.leaves]
  | record hfields ih =>
    intro entry hentry info kind hleaf
    rw [ParamNode.numbered] at hentry
    split at hentry
    · rw [ParamNode.numberedAll_eq_flatMap, List.mem_flatMap] at hentry
      obtain ⟨field, hfield, hmem⟩ := hentry
      exact ParamNode.mem_leavesAll.2 ⟨field, hfield, ih field hfield entry hmem info kind hleaf⟩
    · rw [List.mem_singleton.1 hentry] at hleaf
      cases hleaf
  | @typeChoice place members htype hmembers =>
    intro entry hentry info kind hleaf
    rw [ParamNode.numbered, List.mem_cons] at hentry
    rcases hentry with rfl | harm
    · cases hleaf
    · split at harm
      -- the options of a choice of types have no fields
      · obtain ⟨position, member, field, hposition, hfield, -⟩ :=
          exists_field_of_mem_numberedArms harm
        obtain ⟨place, kind, rfl⟩ := hmembers member (List.mem_of_getElem? hposition)
        cases hfield
      · cases harm
  | @union place members hplain hmembers ih =>
    intro entry hentry info kind hleaf
    rw [ParamNode.numbered, List.mem_cons] at hentry
    rcases hentry with rfl | harm
    · cases hleaf
    · split at harm
      · obtain ⟨position, member, field, hposition, hfield, hmem⟩ :=
          exists_field_of_mem_numberedArms harm
        have hmember := List.mem_of_getElem? hposition
        rw [ParamNode.leaves, if_neg (by simp [hplain]), ParamNode.mem_leavesAll]
        exact ⟨member, hmember, ih member hmember entry (mem_numbered_of_mem_fields hfield hmem)
          info kind hleaf⟩
      · cases harm

/-- A wire refuses only leaves of its parameters. -/
theorem refusesOnly_wire {params : List ParamNode}
    (hparams : ∀ param ∈ params, Offerable types param) (scope : String) (expandRecords : Bool) :
    RefusesOnly (ParamNode.leavesAll params) (wire params scope expandRecords) := by
  have hfrom (start : Nat) : RefusesOnly (ParamNode.leavesAll params)
      (wireFrom scope expandRecords start params) := by
    induction params generalizing start with
    | nil => exact .ok _ _
    | cons param rest ih =>
      rw [List.forall_mem_cons] at hparams
      rw [wireFrom, parameterDeclarations_eq_bind, ParamNode.leavesAll]
      refine .bind (.mono ?_ (List.subset_append_left _ _)) fun _ =>
        .bind ((ih hparams.2 (start + 1)).mono (List.subset_append_right _ _)) fun _ => .ok _ _
      refine .bind (.checkVariant ?_) fun _ => .bind (.mapM fun entry hentry => ?_) fun _ => .ok _ _
      · rintro info kind rfl
        exact List.mem_singleton_self _
      · exact .bind (.checkVariant (hparams.1.mem_leaves_of_mem_numbered entry
          (inside_subset_numbered expandRecords param hentry))) fun _ => .ok _ _
  exact hfrom 0

end Wires

/-! ## Descriptors -/

/-- Mentions refuse only leaves of their nodes. -/
theorem refusesOnly_mentionsAll {expandRecords : Bool} {leaves : List ParamNode}
    {nodes : List ParamNode}
    (h : ∀ node ∈ nodes, RefusesOnly leaves (mentions expandRecords node)) :
    RefusesOnly leaves (mentionsAll expandRecords nodes) := by
  induction nodes with
  | nil => exact .ok _ _
  | cons node rest ih =>
    rw [List.forall_mem_cons] at h
    rw [mentionsAll]
    exact .bind h.1 fun _ => .bind (ih h.2) fun _ => .ok _ _

/-- Mentions of a node refuse only its leaves. -/
theorem refusesOnly_mentions {types : TypeGraph} {node : ParamNode} (h : Offerable types node)
    (expandRecords : Bool) : RefusesOnly node.leaves (mentions expandRecords node) := by
  induction h with
  | simple =>
    rw [mentions]
    refine .bind (.checkVariant ?_) fun _ => .ok _ _
    exact fun _ _ _ => List.mem_singleton_self _
  | map | array => exact .ok _ _
  | record hfields ih =>
    rw [mentions]
    split
    · exact refusesOnly_mentionsAll fun field hfield =>
        (ih field hfield).mono (ParamNode.leaves_subset_leavesAll hfield)
    · exact .ok _ _
  | typeChoice htype hmembers =>
    simp only [mentions, if_pos htype]
    exact .ok _ _
  | union hplain hmembers ih =>
    simp only [mentions, ParamNode.leaves, hplain, Bool.false_eq_true, if_false]
    exact .bind (refusesOnly_mentionsAll fun member hmember =>
      (ih member hmember).mono (ParamNode.leaves_subset_leavesAll hmember)) fun _ => .ok _ _

/-! ## Forms -/

/-- A leaf of a kind with an input has it. -/
theorem exists_leafEntry {kind : Kind} (h : kind.hasInput = true) (info : NodeInfo)
    (condition : Condition) : ∃ entry, leafEntry info kind condition = .ok entry := by
  cases kind <;> first | exact ⟨_, rfl⟩ | cases h

section Forms

variable {types : TypeGraph} {ctx : FormContext} {leaves : List ParamNode}

/-- Placing fields refuses what rendering them refuses. -/
theorem refusesOnly_placeFields {condition arm : Condition} {group : Option String}
    {fields : List ParamNode}
    (h : ∀ field ∈ fields, ∀ condition group,
      RefusesOnly leaves (renderNode ctx condition group field)) :
    RefusesOnly leaves (placeFields ctx condition arm group fields) := by
  induction fields with
  | nil => exact .ok _ _
  | cons field rest ih =>
    rw [List.forall_mem_cons] at h
    rw [placeFields]
    exact .bind (h.1 _ _) fun _ => .bind (ih h.2) fun _ => .ok _ _

/-- Rendering the members of a union refuses what rendering each of them refuses. -/
theorem refusesOnly_renderMembers {condition : Condition} {single : Bool} {group : Option String}
    {members : List ParamNode}
    (h : ∀ member ∈ members, ∀ condition group,
      RefusesOnly leaves (renderNode ctx condition group member)) :
    RefusesOnly leaves (renderMembers ctx condition single group members) := by
  induction members with
  | nil => exact .ok _ _
  | cons member rest ih =>
    rw [List.forall_mem_cons] at h
    rw [renderMembers]
    split
    · exact .bind (.ok _ _) fun _ => .bind (ih h.2) fun _ => .ok _ _
    · exact .bind ((h.1 _ _).map some) fun _ => .bind (ih h.2) fun _ => .ok _ _

/-- Placing arms refuses what rendering the fields of the members refuses. -/
theorem refusesOnly_placeArms {condition : Condition} {single : Bool} {group : Option String}
    {members : List ParamNode}
    (h : ∀ member ∈ members, ∀ field ∈ member.fields, ∀ condition group,
      RefusesOnly leaves (renderNode ctx condition group field)) :
    RefusesOnly leaves (placeArms ctx condition single group members) := by
  induction members with
  | nil => exact .ok _ _
  | cons member rest ih =>
    rw [List.forall_mem_cons] at h
    cases member with
    | record info recordName parentPath fields =>
      rw [placeArms]
      split
      · exact .bind (refusesOnly_placeFields h.1) fun _ => .bind (ih h.2) fun _ => .ok _ _
      · exact .bind (.ok _ _) fun _ => .bind (ih h.2) fun _ => .ok _ _
    | _ => exact ih h.2

/-- Rendering an offerable node or a field of it refuses only leaves of the node. -/
theorem refusesOnly_renderNode {node : ParamNode} (h : Offerable types node) (ctx : FormContext) :
    ∀ part ∈ node :: node.fields, ∀ condition group,
      RefusesOnly node.leaves (renderNode ctx condition group part) := by
  -- the fields of a node are rendered without it where it is an unfolded member of a union
  induction h with
  | @simple info kind hkind =>
    refine List.forall_mem_singleton.2 fun condition group => ?_
    rw [renderNode]
    rcases hkind with hinput | ⟨hcomposite, -⟩
    · obtain ⟨entry, hentry⟩ := exists_leafEntry hinput info condition
      rw [hentry]
      refine .bind (.checkVariant ?_) fun _ => .ok _ _
      exact fun _ _ _ => List.mem_singleton_self _
    · rw [ParamNode.checkVariant, if_pos hcomposite]
      rintro fault ⟨⟩
      exact ⟨_, List.mem_singleton_self _, hcomposite, rfl⟩
  | map | array => exact List.forall_mem_singleton.2 fun condition group => .ok _ _
  | @record info recordName parentPath fields hfields ih =>
    have hparts : ∀ field ∈ fields, ∀ condition group,
        RefusesOnly (ParamNode.leavesAll fields) (renderNode ctx condition group field) :=
      fun field hfield condition group => (ih field hfield field List.mem_cons_self condition
        group).mono (ParamNode.leaves_subset_leavesAll hfield)
    refine List.forall_mem_cons.2 ⟨fun condition group => ?_, hparts⟩
    simp only [renderNode]
    split
    · exact .ok _ _
    · split
      · exact .ok _ _
      · exact .bind (refusesOnly_placeFields hparts) fun _ => .ok _ _
  | typeChoice htype hmembers =>
    refine List.forall_mem_singleton.2 fun condition group => ?_
    simp only [renderNode, if_pos htype]
    exact .ok _ _
  | @union info members hplain hmembers ih =>
    have hparts : ∀ member ∈ members, ∀ part ∈ member :: member.fields, ∀ condition group,
        RefusesOnly (ParamNode.leavesAll members) (renderNode ctx condition group part) :=
      fun member hmember part hpart condition group =>
        (ih member hmember part hpart condition group).mono
          (ParamNode.leaves_subset_leavesAll hmember)
    refine List.forall_mem_singleton.2 fun condition group => ?_
    simp only [renderNode, ParamNode.leaves, hplain, Bool.false_eq_true, if_false]
    exact .bind (refusesOnly_renderMembers fun member hmember =>
        hparts member hmember member List.mem_cons_self) fun _ =>
      .bind (refusesOnly_placeArms fun member hmember field hfield =>
        hparts member hmember field (List.mem_cons_of_mem _ hfield)) fun _ => .ok _ _

/-- A form refuses only leaves of its parameters. -/
theorem refusesOnly_renderForm {params : List ParamNode}
    (hparams : ∀ param ∈ params, Offerable types param) (ctx : FormContext) :
    RefusesOnly (ParamNode.leavesAll params) (renderForm ctx params) := by
  induction params with
  | nil => exact .ok _ _
  | cons param rest ih =>
    rw [List.forall_mem_cons] at hparams
    rw [renderForm, ParamNode.leavesAll]
    exact .bind ((refusesOnly_renderNode hparams.1 ctx param List.mem_cons_self _ _).mono
        (List.subset_append_left _ _)) fun _ =>
      .bind ((ih hparams.2).mono (List.subset_append_right _ _)) fun _ => .ok _ _

/-- No leaf of a node that is rendered claims the kind of a composite, where records are
unfolded. -/
theorem leafInvariant (hctx : ctx.expandRecords = true) :
    RenderInvariant ctx fun _ _ node _ => ∀ leaf ∈ node.leaves, leaf.kind.isComposite = false where
  leaf := fun hkind _ => List.forall_mem_singleton.2 hkind
  closedRecord := fun hclosed => by
    rw [hctx] at hclosed
    cases hclosed
  emptyRecord := fun _ _ hleaf => absurd hleaf List.not_mem_nil
  openRecord := fun _ _ hfields leaf hleaf => by
    obtain ⟨field, hfield, hmem⟩ := ParamNode.mem_leavesAll.1 hleaf
    exact hfields field hfield leaf hmem
  typeChoice := fun htype => by
    rw [ParamNode.leaves, if_pos htype]
    exact fun _ hleaf => absurd hleaf List.not_mem_nil
  union := fun {_ _ info members _ _} hplain hothers harms leaf hleaf => by
    simp only [ParamNode.leaves, hplain, Bool.false_eq_true, if_false] at hleaf
    obtain ⟨member, hmember, hmem⟩ := ParamNode.mem_leavesAll.1 hleaf
    cases hexpands : member.expands ctx.expandRecords with
    | false => exact hothers member hmember hexpands leaf hmem
    | true =>
      -- the leaves of an unfolded record are those of its fields
      obtain ⟨-, place, recordName, parentPath, fields, -, rfl⟩ :=
        ParamNode.exists_of_expands hexpands
      obtain ⟨field, hfield, hin⟩ := ParamNode.mem_leavesAll.1 hmem
      exact harms _ hmember hexpands field hfield leaf hin
  map := fun _ hleaf => absurd hleaf List.not_mem_nil
  array := fun _ hleaf => absurd hleaf List.not_mem_nil

/-- No leaf of a form claims the kind of a composite, where records are unfolded. -/
theorem isComposite_eq_false_of_renderForm (hctx : ctx.expandRecords = true)
    {params : List ParamNode} {form : List Entry} (h : renderForm ctx params = .ok form) :
    ∀ leaf ∈ ParamNode.leavesAll params, leaf.kind.isComposite = false := by
  obtain ⟨_, -, hparams⟩ := (leafInvariant hctx).form_eq h
  intro leaf hleaf
  obtain ⟨param, hparam, hmem⟩ := ParamNode.mem_leavesAll.1 hleaf
  exact hparams param hparam leaf hmem

end Forms

/-! ## All renderings -/

/-- The property holds of all renderings of the parameters: of their wire in any scope, of their
descriptors after any others, and of the form of an operation or a connection. -/
structure AllRenderings (P : ∀ {α : Type}, Except Fault α → Prop) (expandRecords : Bool)
    (params : List ParamNode) : Prop where
  /-- The property holds of the wire. -/
  wire : ∀ scope, P (wire params scope expandRecords)
  /-- The property holds of the descriptors. -/
  descriptors : ∀ emitted, P (parameterDescriptors params emitted expandRecords)
  /-- The property holds of the form of an operation. -/
  operationForm : ∀ name title path help,
    P (operationForm name title params path help expandRecords)
  /-- The property holds of the form of a connection. -/
  connectionForm : ∀ name title help, P (connectionForm name title params help expandRecords)

section Renderings

variable {types : TypeGraph} {params : List ParamNode}

/-- The inputs for the parameters of a path are there: their kinds have inputs. -/
theorem refusesOnly_pathEntries (path : List Naming.Segment) :
    RefusesOnly [] (pathEntries path) := by
  refine .mapM fun segment _ => ?_
  dsimp only
  split <;> exact .ok _ _

/-- No renderer refuses anything but a leaf of the parameters. -/
theorem refusesOnly_renderings (hparams : ∀ param ∈ params, Offerable types param)
    (expandRecords : Bool) :
    AllRenderings (RefusesOnly (ParamNode.leavesAll params)) expandRecords params := by
  -- the parts of a form are parts of the parameters
  have hpart (shown : ParamNode → Bool) (ctx : FormContext) :
      RefusesOnly (ParamNode.leavesAll params) (renderForm ctx (params.filter shown)) := by
    refine (refusesOnly_renderForm (fun param hparam =>
      hparams param (List.mem_filter.1 hparam).1) ctx).mono fun leaf hleaf => ?_
    obtain ⟨param, hparam, hmem⟩ := ParamNode.mem_leavesAll.1 hleaf
    exact ParamNode.leaves_subset_leavesAll (List.mem_filter.1 hparam).1 hmem
  refine ⟨fun scope => refusesOnly_wire hparams scope expandRecords, fun emitted => ?_,
    fun name title path help => ?_, fun name title help => ?_⟩
  · refine .bind (refusesOnly_mentionsAll fun param hparam => ?_) fun _ => .ok _ _
    exact (refusesOnly_mentions (hparams param hparam) expandRecords).mono
      (ParamNode.leaves_subset_leavesAll hparam)
  · exact .bind ((refusesOnly_pathEntries path).mono (List.nil_subset _)) fun _ =>
      .bind (hpart _ _) fun _ => .bind (hpart _ _) fun _ => .ok _ _
  · exact .bind (hpart _ _) fun _ => .bind (hpart _ _) fun _ => .ok _ _

/-- The step gives a result. -/
def Succeeds {α : Type} (step : Except Fault α) : Prop := ∃ result, step = .ok result

/-- All renderings give results, with records unfolded or not, just if no leaf claims the kind of a
composite. -/
theorem renderings_succeed_iff (hparams : ∀ param ∈ params, Offerable types param) :
    (∀ expandRecords, AllRenderings Succeeds expandRecords params) ↔
      ∀ leaf ∈ ParamNode.leavesAll params, leaf.kind.isComposite = false := by
  constructor
  · intro hall leaf hleaf
    obtain ⟨param, hparam, hmem⟩ := ParamNode.mem_leavesAll.1 hleaf
    -- the form with records unfolded shows every leaf, in one of its two parts
    obtain ⟨form, hform⟩ := (hall true).connectionForm "" "" ""
    simp only [connectionForm, bind_eq_ok_iff] at hform
    obtain ⟨basic, hbasic, advanced, hadvanced, -⟩ := hform
    cases hshown : param.info.isAdvanced with
    | false =>
      refine isComposite_eq_false_of_renderForm rfl hbasic leaf
        (ParamNode.leaves_subset_leavesAll (List.mem_filter.2 ⟨hparam, ?_⟩) hmem)
      rw [hshown]
      rfl
    | true =>
      exact isComposite_eq_false_of_renderForm rfl hadvanced leaf
        (ParamNode.leaves_subset_leavesAll (List.mem_filter.2 ⟨hparam, hshown⟩) hmem)
  · intro hleaves expandRecords
    have hrefused := refusesOnly_renderings hparams expandRecords
    exact ⟨fun scope => (hrefused.wire scope).exists_eq_ok hleaves,
      fun emitted => (hrefused.descriptors emitted).exists_eq_ok hleaves,
      fun name title path help =>
        (hrefused.operationForm name title path help).exists_eq_ok hleaves,
      fun name title help => (hrefused.connectionForm name title help).exists_eq_ok hleaves⟩

end Renderings

/-! ## Operations -/

/-- An operation with named parameters over records with named fields is skipped or classified, and
a classified one is rendered in each way, with records unfolded or not, just if no leaf claims the
kind of a composite. Such a leaf stands for a type descriptor that offers one type only, and nothing
but such leaves is ever refused. -/
theorem exists_outcome_renderings {types : TypeGraph} (hfields : FieldsNamed types)
    {op : Operation} (hnamed : ∀ p ∈ op.params, p.name ≠ "") (fieldBudget : Int) :
    ∃ outcome, classifyOperation types op fieldBudget = .ok outcome ∧
      ∀ params, outcome = .ok params →
        ((∀ expandRecords, AllRenderings Succeeds expandRecords params) ↔
          ∀ leaf ∈ ParamNode.leavesAll params, leaf.kind.isComposite = false) ∧
        (∀ leaf ∈ ParamNode.leavesAll params, leaf.kind.isComposite = true →
          OffersAlone types leaf.kind) ∧
        ∀ expandRecords,
          AllRenderings (RefusesOnly (ParamNode.leavesAll params)) expandRecords params := by
  obtain ⟨outcome, houtcome⟩ : ∃ outcome, classifyOperation types op fieldBudget = .ok outcome :=
    exists_classifyParameters hfields hnamed 0
  refine ⟨outcome, houtcome, ?_⟩
  rintro params rfl
  have hparams := offerable_of_classifyParameters houtcome
  refine ⟨renderings_succeed_iff hparams, fun leaf hleaf hcomposite => ?_,
    refusesOnly_renderings hparams⟩
  obtain ⟨param, hparam, hmem⟩ := ParamNode.mem_leavesAll.1 hleaf
  exact ((hparams param hparam).leafKind_of_mem_leaves leaf hmem).offersAlone hcomposite

/-- A type descriptor whose constraint is a map or nothing, and a record of texts and numbers. -/
def lookupTypes : TypeGraph where
  descriptors := #[
    { TypeDescriptor.ofKind .typedesc none with constraint := some 1 },
    { TypeDescriptor.ofKind .union none with members := [2, 3] },
    TypeDescriptor.ofKind .map none, TypeDescriptor.ofKind .nil none,
    { TypeDescriptor.ofKind .record (some "Lookup") with
      fields := [⟨"key", 5, false, false, none⟩, ⟨"limit", 6, true, false, none⟩] },
    TypeDescriptor.ofKind .string none, TypeDescriptor.ofKind .int none]

/-- An operation with one parameter of a type. -/
def lookupOperation (name : String) (type : TypeId) : Operation where
  name := "lookup"
  kind := .remote
  params := [{ name, type, doc := none, defaultable := false, default := none }]
  operationId := none
  path := []
  returns := none
  doc := ""

theorem exists_outcome_renderings_lookup :
    ∃ params, classifyOperation lookupTypes (lookupOperation "query" 4) 5 = .ok (.ok params) ∧
      ∀ expandRecords, AllRenderings Succeeds expandRecords params := by
  have hfields : FieldsNamed lookupTypes := by decide
  have hnamed : ∀ p ∈ (lookupOperation "query" 4).params, p.name ≠ "" := by decide
  obtain ⟨outcome, houtcome, hrendered⟩ := exists_outcome_renderings hfields hnamed 5
  obtain rfl : outcome = .ok _ := (Except.ok.inj houtcome).symm
  exact ⟨_, houtcome, (hrendered _ rfl).1.2 (by decide)⟩

/-- An operation is classified that nothing renders: its parameter is the type of a map, or
nothing. -/
theorem renderings_refused_lookup :
    FieldsNamed lookupTypes ∧ ∃ leaf,
      classifyOperation lookupTypes (lookupOperation "target" 0) 5 = .ok (.ok [leaf]) ∧
        ∀ expandRecords, AllRenderings (fun step => step = .error (.malformedVariant "target" .map))
          expandRecords [leaf] := by
  refine ⟨by decide, _, rfl, fun expandRecords =>
    ⟨fun scope => rfl, fun emitted => rfl, fun name title path help => ?_,
      fun name title help => rfl⟩⟩
  obtain ⟨entries, hpath⟩ := (refusesOnly_pathEntries path).exists_eq_ok nofun
  rw [operationForm, hpath]
  rfl

end SignatureForms
