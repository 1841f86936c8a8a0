import SignatureForms.Form.Render
import SignatureForms.Proofs.Steps

/-!
# Induction over rendered forms

Rendering recurses over fields, over members and over the fields of record members. This module
reads each of these recursions as a map over a list, and from it gives one principle by which a
property of rendered nodes is proved with one case for each way a node is rendered.

The module introduces:

* `RenderInvariant ctx P` — the property `P` of a node, its condition, its group and its entries is
  kept by each way of rendering a node from its parts.

## Main results

* `RenderInvariant.holds`: a render invariant holds of every node that is rendered;
* `RenderInvariant.form_eq`: a form consists of the entries of its parameters, each of which has
  the invariant.
-/

namespace SignatureForms

/-! ## Rendered parts -/

/-- The fields of a record; other nodes have none. -/
def ParamNode.fields : ParamNode → List ParamNode
  | record _ _ _ fields => fields
  | _ => []

/-- A field is smaller than its record. -/
theorem ParamNode.sizeOf_lt_of_mem_fields {node field : ParamNode} (h : field ∈ node.fields) :
    sizeOf field < sizeOf node := by
  cases node with
  | record info recordName parentPath parts =>
    rw [fields] at h
    have := List.sizeOf_lt_of_mem h
    simp only [record.sizeOf_spec]
    omega
  | _ => cases h

/-- Only a record with fields expands, and only where records do. -/
theorem ParamNode.exists_of_expands {expandRecords : Bool} {node : ParamNode}
    (h : node.expands expandRecords = true) :
    expandRecords = true ∧ ∃ info recordName parentPath fields, fields ≠ [] ∧
      node = .record info recordName parentPath fields := by
  cases node with
  | record info recordName parentPath fields =>
    rw [expands, Bool.and_eq_true] at h
    exact ⟨h.1, info, recordName, parentPath, fields, by simpa using h.2, rfl⟩
  | _ => cases h

/-- The group in which a field is rendered. -/
def fieldGroup (group : Option String) (field : ParamNode) : Option String :=
  (groupSegment group field.value).or group

/-- The group in which the members of a union are rendered. -/
def unionGroup (group : Option String) (info : NodeInfo) : Option String :=
  (TypeDescriptor.nonEmpty? group).or (parentSegment? info.value)

/-- A union has one member that can be selected, so that nothing selects it. -/
def hasSingleMember (members : List ParamNode) : Bool :=
  (ParamNode.selectable members).length == 1

/-- The entries of a node that is rendered; none if it is not. -/
def renderedEntries (ctx : FormContext) (condition : Condition) (group : Option String)
    (node : ParamNode) : List Entry :=
  match renderNode ctx condition group node with
  | .ok entries => entries
  | .error _ => []

/-- What rendering a node gives are its rendered entries. -/
theorem renderedEntries_of_eq_ok {ctx : FormContext} {condition : Condition}
    {group : Option String} {node : ParamNode} {entries : List Entry}
    (h : renderNode ctx condition group node = .ok entries) :
    entries = renderedEntries ctx condition group node := by
  rw [renderedEntries, h]

/-- Placing fields renders each of them. -/
theorem placeFields_eq_ok {ctx : FormContext} {condition arm : Condition} {group : Option String}
    {fields : List ParamNode} {placed : List Placed}
    (h : placeFields ctx condition arm group fields = .ok placed) :
    placed = fields.map (fun field => ⟨groupSegment group field.value,
        renderedEntries ctx (condition.merge (arm.merge field.condition))
          (fieldGroup group field) field⟩) ∧
      ∀ field ∈ fields, ∃ entries, renderNode ctx (condition.merge (arm.merge field.condition))
        (fieldGroup group field) field = .ok entries := by
  induction fields generalizing placed with
  | nil =>
    rw [placeFields] at h
    cases h
    simp
  | cons field rest ih =>
    simp only [placeFields, bind_eq_ok_iff, pure_eq_ok_iff] at h
    obtain ⟨entries, hentries, others, hothers, rfl⟩ := h
    obtain ⟨rfl, hrest⟩ := ih hothers
    obtain rfl := renderedEntries_of_eq_ok hentries
    exact ⟨rfl, List.forall_mem_cons.2 ⟨⟨_, hentries⟩, hrest⟩⟩

/-- Rendering members renders each of them that is no unfolded record. -/
theorem renderMembers_eq_ok {ctx : FormContext} {condition : Condition} {single : Bool}
    {group : Option String} {members : List ParamNode} {others : List (Option (List Entry))}
    (h : renderMembers ctx condition single group members = .ok others) :
    others = members.map (fun member =>
        if member.expands ctx.expandRecords then none
        else some (renderedEntries ctx (condition.merge (memberCondition single member)) group
          member)) ∧
      ∀ member ∈ members, member.expands ctx.expandRecords = false →
        ∃ entries, renderNode ctx (condition.merge (memberCondition single member)) group member =
          .ok entries := by
  induction members generalizing others with
  | nil =>
    rw [renderMembers] at h
    cases h
    simp
  | cons member rest ih =>
    rw [renderMembers] at h
    split at h
    · next hexpands =>
      -- an expanded member is left to its own arm
      simp only [bind_eq_ok_iff, pure_eq_ok_iff] at h
      obtain ⟨_, rfl, more, hmore, rfl⟩ := h
      obtain ⟨rfl, hrest⟩ := ih hmore
      refine ⟨?_, List.forall_mem_cons.2 ⟨fun hflat => ?_, hrest⟩⟩
      · rw [List.map_cons, if_pos hexpands]
      · rw [hexpands] at hflat
        cases hflat
    · next hflat =>
      -- any other one is rendered here
      simp only [bind_eq_ok_iff, map_eq_ok_iff, pure_eq_ok_iff] at h
      obtain ⟨_, ⟨entries, hentries, rfl⟩, more, hmore, rfl⟩ := h
      obtain ⟨rfl, hrest⟩ := ih hmore
      obtain rfl := renderedEntries_of_eq_ok hentries
      refine ⟨?_, List.forall_mem_cons.2 ⟨fun _ => ⟨_, hentries⟩, hrest⟩⟩
      rw [List.map_cons, if_neg hflat]

/-- Placing arms renders each field of each unfolded record member. -/
theorem placeArms_eq_ok {ctx : FormContext} {condition : Condition} {single : Bool}
    {group : Option String} {members : List ParamNode} {placed : List Placed}
    (h : placeArms ctx condition single group members = .ok placed) :
    placed = members.flatMap (fun member =>
        if member.expands ctx.expandRecords then
          member.fields.map fun field => ⟨groupSegment group field.value,
            renderedEntries ctx
              (condition.merge ((memberCondition single member).merge field.condition))
              (fieldGroup group field) field⟩
        else []) ∧
      ∀ member ∈ members, member.expands ctx.expandRecords = true → ∀ field ∈ member.fields,
        ∃ entries, renderNode ctx
          (condition.merge ((memberCondition single member).merge field.condition))
          (fieldGroup group field) field = .ok entries := by
  induction members generalizing placed with
  | nil =>
    rw [placeArms] at h
    cases h
    simp
  | cons member rest ih =>
    cases hexpands : member.expands ctx.expandRecords with
    | false =>
      -- a record without fields adds none, whether records are unfolded or not
      have hskip : placeArms ctx condition single group rest = .ok placed := by
        cases member with
        | record info recordName parentPath fields =>
          rw [placeArms] at h
          split at h
          · next hon =>
            have hempty : fields = [] := by simpa [ParamNode.expands, hon] using hexpands
            rw [hempty] at h
            simp only [placeFields, bind_eq_ok_iff, pure_eq_ok_iff] at h
            obtain ⟨_, hnone, _, hmore, rfl⟩ := h
            cases hnone
            exact hmore
          · simp only [bind_eq_ok_iff, pure_eq_ok_iff] at h
            obtain ⟨_, rfl, _, hmore, rfl⟩ := h
            exact hmore
        | _ => simpa only [placeArms] using h
      obtain ⟨rfl, hrest⟩ := ih hskip
      refine ⟨?_, List.forall_mem_cons.2 ⟨fun htrue => ?_, hrest⟩⟩
      · rw [List.flatMap_cons, hexpands]
        rfl
      · rw [hexpands] at htrue
        cases htrue
    | true =>
      obtain ⟨hon, info, recordName, parentPath, fields, -, rfl⟩ :=
        ParamNode.exists_of_expands hexpands
      rw [placeArms, if_pos hon] at h
      simp only [bind_eq_ok_iff, pure_eq_ok_iff] at h
      obtain ⟨arm, harm, more, hmore, rfl⟩ := h
      obtain ⟨rfl, hfields⟩ := placeFields_eq_ok harm
      obtain ⟨rfl, hrest⟩ := ih hmore
      refine ⟨?_, List.forall_mem_cons.2 ⟨fun _ => hfields, hrest⟩⟩
      rw [List.flatMap_cons, if_pos hexpands]
      rfl

/-! ## The principle -/

/-- The entries of the members of a union that are not unfolded records, in order; an unfolded
record is marked by nothing. -/
def otherEntries (expandRecords : Bool) (members : List ParamNode)
    (entries : ParamNode → List Entry) : List (Option (List Entry)) :=
  members.map fun member =>
    if member.expands expandRecords then none else some (entries member)

/-- The placed fields of the unfolded record members of a union, in order. -/
def armFields (expandRecords : Bool) (group : Option String) (members : List ParamNode)
    (entries : ParamNode → ParamNode → List Entry) : List Placed :=
  members.flatMap fun member =>
    if member.expands expandRecords then
      member.fields.map fun field => ⟨groupSegment group field.value, entries member field⟩
    else []

/-- The property `P` of a condition, a group, a node and its entries is kept by each way of
rendering a node. -/
structure RenderInvariant (ctx : FormContext)
    (P : Condition → Option String → ParamNode → List Entry → Prop) : Prop where
  /-- Leaves are single inputs. -/
  leaf : ∀ {condition group info kind entry}, kind.isComposite = false →
    leafEntry info kind condition = .ok entry → P condition group (.simple info kind) [entry]
  /-- A record that is not unfolded is entered as text. -/
  closedRecord : ∀ {condition group info recordName parentPath fields},
    ctx.expandRecords = false →
      P condition group (.record info recordName parentPath fields)
        [opaqueEntry info condition "Expecting JSON object" objectPattern]
  /-- A record without fields is entered as text behind its check box. -/
  emptyRecord : ∀ {condition group info recordName parentPath}, ctx.expandRecords = true →
    P condition group (.record info recordName parentPath [])
      ((gate ctx info condition).1 ++
        [opaqueEntry info (gate ctx info condition).2 "Expecting JSON object" objectPattern])
  /-- The fields of a record are gathered behind its check box. -/
  openRecord : ∀ {condition group info recordName parentPath fields}
    {entries : ParamNode → List Entry}, ctx.expandRecords = true → fields ≠ [] →
    (∀ field ∈ fields, P ((gate ctx info condition).2.merge field.condition)
      (fieldGroup group field) field (entries field)) →
    P condition group (.record info recordName parentPath fields)
      ((gate ctx info condition).1 ++ gather (gate ctx info condition).2 []
        (fields.map fun field => ⟨groupSegment group field.value, entries field⟩))
  /-- A choice of types is a list of choices. -/
  typeChoice : ∀ {condition group info members}, info.typeDescriptor = true →
    P condition group (.union info members) (unionChoice info members condition)
  /-- The members of another union follow its list of choices, the record members as one. -/
  union : ∀ {condition group info members} {entries : ParamNode → List Entry}
    {arms : ParamNode → ParamNode → List Entry}, info.typeDescriptor = false →
    (∀ member ∈ members, member.expands ctx.expandRecords = false →
      P (condition.merge (memberCondition (hasSingleMember members) member))
        (unionGroup group info) member (entries member)) →
    (∀ member ∈ members, member.expands ctx.expandRecords = true → ∀ field ∈ member.fields,
      P (condition.merge
          ((memberCondition (hasSingleMember members) member).merge field.condition))
        (fieldGroup (unionGroup group info) field) field (arms member field)) →
    P condition group (.union info members)
      (unionChoice info members condition ++ spliceArms
        (gather condition [] (armFields ctx.expandRecords (unionGroup group info) members arms))
        (otherEntries ctx.expandRecords members entries))
  /-- A map is a table or text behind its check box. -/
  map : ∀ {condition group info shape},
    P condition group (.map info shape)
      ((gate ctx info condition).1 ++
        [if shape.asTable then mapTable info shape (gate ctx info condition).2
          else opaqueEntry info (gate ctx info condition).2
            "Expecting JSON object with key-value pairs" objectPattern])
  /-- An array is a table or text behind its check box. -/
  array : ∀ {condition group info shape},
    P condition group (.array info shape)
      ((gate ctx info condition).1 ++
        [if shape.asTable then arrayTable info shape (gate ctx info condition).2
          else opaqueEntry info (gate ctx info condition).2 "Expecting JSON array" arrayPattern])

namespace RenderInvariant

variable {ctx : FormContext} {P : Condition → Option String → ParamNode → List Entry → Prop}

/-- A render invariant holds of every node that is rendered. -/
theorem holds (hP : RenderInvariant ctx P) {condition : Condition} {group : Option String}
    (node : ParamNode) {entries : List Entry}
    (h : renderNode ctx condition group node = .ok entries) : P condition group node entries := by
  match node with
  | .simple info kind =>
    -- a leaf that claims the kind of a composite is refused before it is rendered
    simp only [renderNode, bind_eq_ok_iff, pure_eq_ok_iff] at h
    obtain ⟨_, hcheck, entry, hentry, rfl⟩ := h
    rw [ParamNode.checkVariant] at hcheck
    split at hcheck
    · cases hcheck
    · next hkind => exact hP.leaf (by simpa using hkind) hentry
  | .record info recordName parentPath fields =>
    simp only [renderNode] at h
    split at h
    · next hoff =>
      cases h
      exact hP.closedRecord (by simpa using hoff)
    · next hon =>
      have hexpand : ctx.expandRecords = true := by simpa using hon
      split at h
      · next hempty =>
        obtain rfl : fields = [] := by simpa using hempty
        cases h
        exact hP.emptyRecord hexpand
      · next hfull =>
        -- fields of a record are under the condition of its content and their own
        simp only [bind_eq_ok_iff, pure_eq_ok_iff] at h
        obtain ⟨placed, hplaced, rfl⟩ := h
        obtain ⟨rfl, hfields⟩ := placeFields_eq_ok hplaced
        simp only [Condition.empty_merge] at hfields ⊢
        refine hP.openRecord hexpand (by simpa using hfull) fun field hfield => ?_
        obtain ⟨entries, hentries⟩ := hfields field hfield
        rw [← renderedEntries_of_eq_ok hentries]
        exact holds hP field hentries
  | .union info members =>
    simp only [renderNode] at h
    split at h
    · next htype =>
      cases h
      exact hP.typeChoice htype
    · next hplain =>
      simp only [bind_eq_ok_iff, pure_eq_ok_iff] at h
      obtain ⟨others, hothers, placed, hplaced, rfl⟩ := h
      obtain ⟨rfl, hmembers⟩ := renderMembers_eq_ok hothers
      obtain ⟨rfl, hfields⟩ := placeArms_eq_ok hplaced
      -- each part was rendered by itself, and its entries are those it was rendered to
      refine hP.union (by simpa using hplain) (fun member hmember hflat => ?_)
        fun member hmember hexpands field hfield => ?_
      · obtain ⟨entries, hentries⟩ := hmembers member hmember hflat
        rw [← renderedEntries_of_eq_ok hentries]
        exact holds hP member hentries
      · obtain ⟨entries, hentries⟩ := hfields member hmember hexpands field hfield
        rw [← renderedEntries_of_eq_ok hentries]
        exact holds hP field hentries
  | .map info shape =>
    rw [renderNode] at h
    cases h
    exact hP.map
  | .array info shape =>
    rw [renderNode] at h
    cases h
    exact hP.array
termination_by sizeOf node
decreasing_by
  · have := List.sizeOf_lt_of_mem hfield
    simp only [ParamNode.record.sizeOf_spec]
    omega
  · have := List.sizeOf_lt_of_mem hmember
    simp only [ParamNode.union.sizeOf_spec]
    omega
  · have := ParamNode.sizeOf_lt_of_mem_fields hfield
    have := List.sizeOf_lt_of_mem hmember
    simp only [ParamNode.union.sizeOf_spec]
    omega

/-- A form consists of the entries of its parameters in order, each of which has the
invariant. -/
theorem form_eq (hP : RenderInvariant ctx P) {params : List ParamNode} {form : List Entry}
    (h : renderForm ctx params = .ok form) :
    ∃ entries : ParamNode → List Entry, form = params.flatMap entries ∧
      ∀ param ∈ params, P param.condition none param (entries param) := by
  refine ⟨fun param => renderedEntries ctx param.condition none param, ?_⟩
  induction params generalizing form with
  | nil =>
    cases h
    simp
  | cons param rest ih =>
    simp only [renderForm, bind_eq_ok_iff, pure_eq_ok_iff] at h
    obtain ⟨first, hfirst, others, hothers, rfl⟩ := h
    obtain ⟨rfl, hrest⟩ := ih hothers
    obtain rfl := renderedEntries_of_eq_ok hfirst
    exact ⟨rfl, List.forall_mem_cons.2 ⟨hP.holds param hfirst, hrest⟩⟩

end RenderInvariant

end SignatureForms
