import SignatureForms.Proofs.Form.Columns
import SignatureForms.Proofs.Form.Traversal
import SignatureForms.Proofs.ParamTree.Wiring

/-!
# Visibility of forms

A condition asks for controls by their names. This module shows that the form of classified
parameters has all controls that its conditions ask for, ahead of the entries that ask for them,
and that nothing asks one control for two values.

The module introduces:

* `Entry.Offers clause entry` — the control can be given the value that a clause asks for;
* `Condition.BackedBy known condition` — controls among `known` offer all that is asked, and are
  themselves shown where the condition holds;
* `Grounded known entries` — each entry is backed by what comes before it;
* `Condition.DistinctBelow bound condition` — no control is asked for two values, and all names are
  shorter than `bound`.

## Main results

* `GroundedUnder.renderInvariant`: rendering a wired tree under a backed condition is grounded;
* `AllConsistent.renderInvariant`: outside of connections, no rendered entry asks a control for two
  values where the names of discriminators grow on the way down;
* `renderForm_visible`: both for the form of classified parameters.
-/

namespace SignatureForms

/-! ## What controls offer -/

/-- The input is a check box that switches a composite on. -/
def Input.IsToggle (i : Input) : Prop :=
  i.inputType = .boolean ∧ i.default = "false" ∧ ∃ name, i.name = "enable_" ++ name

/-- The control can be given the value that a clause asks for: it is a list of choices with the
value among them, or a check box that may be set. -/
def Entry.Offers (clause : Clause) : Entry → Prop
  | .input i => i.name = clause.key ∧
    ((i.inputType = .combo ∧ ∃ values, i.comboValues = some values ∧ clause.value ∈ values) ∨
      (i.IsToggle ∧ clause.value = "true"))
  | _ => False

namespace Condition

/-- Controls among `known` offer what the condition asks for, and ask no more themselves. -/
def BackedBy (known : List Entry) (c : Condition) : Prop :=
  ∀ clause ∈ c.clauses, ∃ control ∈ known, control.Offers clause ∧
    control.condition.clauses ⊆ c.clauses

/-- More controls back no less. -/
theorem BackedBy.mono {known more : List Entry} {c : Condition} (h : c.BackedBy known)
    (hsubset : known ⊆ more) : c.BackedBy more := by
  intro clause hclause
  obtain ⟨control, hcontrol, hoffers⟩ := h clause hclause
  exact ⟨control, hsubset hcontrol, hoffers⟩

theorem backedBy_empty (known : List Entry) : empty.BackedBy known := nofun

/-- A control that is shown where a condition holds backs one more clause. -/
theorem BackedBy.merge_when {known : List Entry} {c : Condition} (h : c.BackedBy known)
    {control : Entry} (hcontrol : control ∈ known) {key value : String}
    (hoffers : control.Offers ⟨key, value⟩) (hcondition : control.condition = c) :
    (c.merge (.when key value)).BackedBy known := by
  intro clause hclause
  rcases mem_merge.1 hclause with hold | hnew
  -- what backs an old clause asks no more than before, hence no more than the merged condition
  · obtain ⟨backing, hbacking, hclause, hsubset⟩ := h clause hold
    exact ⟨backing, hbacking, hclause, List.Subset.trans hsubset (subset_merge_left c _)⟩
  · rw [mem_when] at hnew
    rw [hnew]
    refine ⟨control, hcontrol, hoffers, ?_⟩
    rw [hcondition]
    exact subset_merge_left c _

/-- Where the condition holds, `controls` are shown that offer what `further` asks besides. -/
def Opens (controls : List Entry) (c further : Condition) : Prop :=
  ∀ known, controls ⊆ known → c.BackedBy known → further.BackedBy known

theorem opens_self (controls : List Entry) (c : Condition) : c.Opens controls c :=
  fun _ _ h => h

/-- A control that is shown where a condition holds opens each clause that it offers. -/
theorem opens_merge_when {controls : List Entry} {c : Condition} {control : Entry}
    (hcontrol : control ∈ controls) {key value : String} (hoffers : control.Offers ⟨key, value⟩)
    (hcondition : control.condition = c) :
    c.Opens controls (c.merge (.when key value)) :=
  fun _ hsubset h => h.merge_when (hsubset hcontrol) hoffers hcondition

end Condition

/-! ## Grounded entries -/

/-- Each of the entries is backed by what is known and what comes before it. -/
def Grounded (known entries : List Entry) : Prop :=
  ∀ before entry after, entries = before ++ entry :: after →
    entry.condition.BackedBy (known ++ before)

theorem Grounded.nil (known : List Entry) : Grounded known [] := by
  intro before entry after heq
  exact absurd heq (by simp)

/-- An entry that is backed already comes ahead of entries that it may back. -/
theorem Grounded.cons {known rest : List Entry} {entry : Entry}
    (hentry : entry.condition.BackedBy known) (hrest : Grounded (known ++ [entry]) rest) :
    Grounded known (entry :: rest) := by
  intro before other after heq
  cases before with
  | nil =>
    obtain ⟨rfl, -⟩ := List.cons_eq_cons.1 heq
    rw [List.append_nil]
    exact hentry
  | cons first before =>
    obtain ⟨rfl, htail⟩ := List.cons_eq_cons.1 heq
    have hother := hrest before other after htail
    rwa [List.append_assoc, List.singleton_append] at hother

/-- Entries may be backed by those that come ahead of them. -/
theorem Grounded.append {known entries more : List Entry} (h : Grounded known entries)
    (hmore : Grounded (known ++ entries) more) : Grounded known (entries ++ more) := by
  -- each entry that is passed becomes known to those after it
  induction entries generalizing known with
  | nil => rwa [List.append_nil] at hmore
  | cons entry rest ih =>
    refine .cons ?_ (ih (fun before other after heq => ?_) ?_)
    · have hentry := h [] entry rest rfl
      rwa [List.append_nil] at hentry
    · have hother := h (entry :: before) other after (by rw [heq]; rfl)
      rwa [List.append_assoc]
    · rwa [List.append_assoc]

/-- Wherever the condition is backed and `base` is known, the entries and all inside them are
grounded. -/
def GroundedUnder (base : List Entry) (condition : Condition) (entries : List Entry) : Prop :=
  ∀ known, base ⊆ known → condition.BackedBy known → Grounded known (Entry.walkAll entries)

/-- An entry comes first among those that it holds. -/
theorem Entry.subset_walkAll (entries : List Entry) : entries ⊆ walkAll entries := by
  intro entry hentry
  obtain ⟨before, after, rfl⟩ := List.append_of_mem hentry
  rw [walkAll_append, walkAll]
  refine List.mem_append_right _ (List.mem_append_left _ ?_)
  cases entry <;> simp [walk]

namespace GroundedUnder

variable {base entries more : List Entry} {condition : Condition}

theorem nil (base : List Entry) (condition : Condition) : GroundedUnder base condition [] :=
  fun known _ _ => .nil known

/-- What is grounded once some controls are known is so once more are. -/
theorem mono {further : List Entry} (h : GroundedUnder base condition entries)
    (hsubset : base ⊆ further) : GroundedUnder further condition entries :=
  fun known hknown => h known (List.Subset.trans hsubset hknown)

/-- What comes later may ask for what comes first. -/
theorem append (h : GroundedUnder base condition entries)
    (hmore : GroundedUnder (base ++ entries) condition more) :
    GroundedUnder base condition (entries ++ more) := by
  intro known hbase hbacked
  rw [Entry.walkAll_append]
  refine (h known hbase hbacked).append (hmore _ ?_ (hbacked.mono (List.subset_append_left _ _)))
  refine List.append_subset_of_subset_of_subset
    (List.Subset.trans hbase (List.subset_append_left _ _)) ?_
  exact List.Subset.trans (Entry.subset_walkAll entries) (List.subset_append_right _ _)

/-- A group asks what all entries inside it ask, so it may come ahead of them. -/
theorem group (title : String) (collapsed : Bool) (h : GroundedUnder base condition entries) :
    GroundedUnder base condition [.group title collapsed condition entries] := by
  intro known hbase hbacked
  rw [Entry.walkAll_singleton, Entry.walk]
  refine .cons hbacked (h _ (List.Subset.trans hbase (List.subset_append_left _ _)) ?_)
  exact hbacked.mono (List.subset_append_left _ _)

/-- A control under a backed condition is grounded. -/
theorem singleton {entry : Entry} {name : String} (h : entry.Stands name condition) :
    GroundedUnder base condition [entry] := by
  intro known _ hbacked
  rw [Entry.walkAll_singleton, Entry.walk_of_isControl h.isControl]
  refine .cons ?_ (.nil _)
  rwa [h.condition_eq]

/-- Being grounded under a condition is kept by the layout under it. -/
theorem keptByLayout (base : List Entry) (condition : Condition) :
    KeptByLayout condition (GroundedUnder base condition) where
  nil := nil base condition
  append := fun _ _ h hmore => h.append (hmore.mono (List.subset_append_left _ _))
  group := fun title _ => group title false

/-- What is grounded under a further condition is so where that condition is opened. -/
theorem of_opens {further : Condition} (h : GroundedUnder [] further entries)
    (hopens : condition.Opens base further) : GroundedUnder base condition entries :=
  fun known hbase hbacked => h known (List.nil_subset known) (hopens known hbase hbacked)

end GroundedUnder

/-! ## Check boxes and choices -/

section Openers

variable {condition : Condition} {info : NodeInfo}

/-- The check box of a composite opens the condition of its content. -/
theorem opens_gate (ctx : FormContext) (info : NodeInfo) (condition : Condition) :
    condition.Opens (gate ctx info condition).1 (gate ctx info condition).2 := by
  rw [gate]
  split
  · refine Condition.opens_merge_when (List.mem_singleton_self _) ⟨rfl, .inr ⟨?_, rfl⟩⟩ rfl
    exact ⟨rfl, rfl, info.name, rfl⟩
  · exact Condition.opens_self _ condition

/-- A check box comes ahead of the content that asks for it. -/
theorem groundedUnder_gate (ctx : FormContext) {content : List Entry}
    (h : GroundedUnder [] (gate ctx info condition).2 content) :
    GroundedUnder [] condition ((gate ctx info condition).1 ++ content) := by
  refine .append ?_ (h.of_opens (opens_gate ctx info condition))
  rw [gate]
  split
  · exact .singleton ⟨rfl, rfl, rfl⟩
  · exact .nil [] condition

/-- The choice of a union asks no more than the union itself. -/
theorem groundedUnder_unionChoice (members : List ParamNode) :
    GroundedUnder [] condition (unionChoice info members condition) := by
  rw [unionChoice]
  split
  · exact .singleton ⟨rfl, rfl, rfl⟩
  · exact .nil [] condition

/-- All members of a wired union can be selected. -/
theorem selectable_eq_self {members : List ParamNode}
    (h : ∀ member ∈ members, MemberOf info.value member) :
    ParamNode.selectable members = members := by
  refine List.filter_eq_self.2 fun member hmember => ?_
  rw [(h member hmember).selectable]
  rfl

/-- A label that is not empty is taken as it is. -/
theorem memberLabel_of_label {member : ParamNode} {label : String} (hlabel : label ≠ "")
    (heq : member.info.label = some label) (position : Nat) :
    member.memberLabel position = label := by
  unfold ParamNode.memberLabel
  rw [heq, TypeDescriptor.nonEmpty?_of_ne_empty hlabel]

/-- The label of a member is among the choices of its union. -/
theorem mem_memberLabels {members : List ParamNode} {member : ParamNode} (hmember : member ∈ members)
    {label : String} (hlabel : label ≠ "") (heq : member.info.label = some label) :
    label ∈ members.zipIdx.map fun (member, position) => member.memberLabel position := by
  obtain ⟨position, hposition⟩ := List.mem_iff_getElem?.1 hmember
  exact List.mem_map.2 ⟨(member, position), List.mk_mem_zipIdx_iff_getElem?.2 hposition,
    memberLabel_of_label hlabel heq position⟩

/-- The choice of a wired union opens the condition of each of its members. Without a choice there
is just one member, whose condition is left out. -/
theorem opens_unionChoice {members : List ParamNode}
    (h : ∀ member ∈ members, MemberOf info.value member) {member : ParamNode}
    (hmember : member ∈ members) :
    condition.Opens (unionChoice info members condition)
      (condition.merge (memberCondition (hasSingleMember members) member)) := by
  have hselectable := selectable_eq_self h
  have hpositive := List.length_pos_of_mem hmember
  rw [unionChoice, memberCondition, hasSingleMember, ParamNode.hasDiscriminator, hselectable]
  split
  -- several members: the list of choices has the label of each of them
  · next hchoice =>
    have hseveral : ¬ (members.length == 1) = true := by
      simp only [decide_eq_true_eq] at hchoice
      simp only [beq_iff_eq]
      omega
    obtain ⟨label, hlabel, heq, hcondition⟩ := (h member hmember).wired
    rw [if_neg hseveral, hcondition]
    refine Condition.opens_merge_when (List.mem_singleton_self _) ⟨rfl, .inl ⟨rfl, _, rfl, ?_⟩⟩ rfl
    exact mem_memberLabels hmember hlabel heq
  -- a single member: nothing is asked for it
  · next hchoice =>
    have hsingle : (members.length == 1) = true := by
      simp only [decide_eq_true_eq] at hchoice
      simp only [beq_iff_eq]
      omega
    rw [if_pos hsingle, Condition.merge_empty]
    exact Condition.opens_self _ condition

end Openers

/-- The fields of a wired record are wired, and shown whenever the record is. -/
theorem Wired.of_mem_fields {node field : ParamNode} (h : Wired node) (hfield : field ∈ node.fields) :
    field.condition = .empty ∧ Wired field := by
  cases h with
  | record hconditions hfields => exact ⟨hconditions field hfield, hfields field hfield⟩
  | _ => cases hfield

/-! ## Rendered forms are grounded -/

/-- That a wired tree is rendered to grounded entries is kept by each way of rendering a node. -/
theorem GroundedUnder.renderInvariant (ctx : FormContext) :
    RenderInvariant ctx fun condition _ node entries =>
      Wired node → GroundedUnder [] condition entries where
  leaf := fun _ hentry _ => singleton (leafEntry_stands hentry)
  closedRecord := fun _ _ => singleton (opaqueEntry_stands _ _)
  emptyRecord := fun _ _ => groundedUnder_gate ctx (singleton (opaqueEntry_stands _ _))
  openRecord := fun _ _ hfields hwired => by
    refine groundedUnder_gate ctx ((keptByLayout _ _).fields fun field hfield => ?_)
    obtain ⟨hcondition, hwiredField⟩ := hwired.of_mem_fields hfield
    have hgrounded := hfields field hfield hwiredField
    rwa [hcondition, Condition.merge_empty] at hgrounded
  typeChoice := fun _ _ => groundedUnder_unionChoice _
  union := fun {condition _ info members _ _} _ hothers harms hwired => by
    rcases hwired with _ | _ | _ | _ | ⟨hlabels, hmembers⟩
    -- the choice comes first and opens the conditions of all members after it
    refine (groundedUnder_unionChoice members).append ((keptByLayout _ _).members
      (fun member hmember hflat => ?_) fun member hmember hexpands field hfield => ?_)
    · have hgrounded := hothers member hmember hflat (hmembers member hmember)
      exact hgrounded.of_opens (opens_unionChoice hlabels hmember)
    -- the fields of an unfolded record are shown by the label of the record
    · obtain ⟨hcondition, hwiredField⟩ := (hmembers member hmember).of_mem_fields hfield
      have hgrounded := harms member hmember hexpands field hfield hwiredField
      rw [hcondition, Condition.merge_empty] at hgrounded
      exact hgrounded.of_opens (opens_unionChoice hlabels hmember)
  map := fun _ => groundedUnder_gate ctx (singleton (mapEntry_stands _ _ _))
  array := fun _ => groundedUnder_gate ctx (singleton (arrayEntry_stands _ _ _))

/-- The form of wired trees that are shown at once is grounded. -/
theorem grounded_walkAll_of_renderForm {ctx : FormContext} {params : List ParamNode}
    {form : List Entry} (hparams : ∀ param ∈ params, param.condition = .empty ∧ Wired param)
    (h : renderForm ctx params = .ok form) : Grounded [] (Entry.walkAll form) := by
  obtain ⟨entries, rfl, hentries⟩ := (GroundedUnder.renderInvariant ctx).form_eq h
  have hgrounded : GroundedUnder [] .empty (params.flatMap entries) := by
    refine (GroundedUnder.keptByLayout [] .empty).flatMap fun param hparam => ?_
    have hparam' := hentries param hparam (hparams param hparam).2
    rwa [(hparams param hparam).1] at hparam'
  exact hgrounded [] (List.nil_subset _) (Condition.backedBy_empty [])

/-! ## Nothing is asked for two values -/

namespace Condition

/-- No control is asked for two values. -/
def Consistent (c : Condition) : Prop :=
  ∀ clause ∈ c.clauses, ∀ other ∈ c.clauses, clause.key = other.key → clause.value = other.value

/-- No control is asked for two values, and all names are shorter than a bound. -/
structure DistinctBelow (bound : Nat) (c : Condition) : Prop where
  /-- No control is asked for two values. -/
  consistent : c.Consistent
  /-- All names are shorter than the bound. -/
  lt : ∀ clause ∈ c.clauses, clause.key.length < bound

theorem distinctBelow_empty (bound : Nat) : empty.DistinctBelow bound := ⟨nofun, nofun⟩

/-- A bound on the names may be raised. -/
theorem DistinctBelow.mono {bound further : Nat} {c : Condition} (h : c.DistinctBelow bound)
    (hle : bound ≤ further) : c.DistinctBelow further :=
  ⟨h.consistent, fun clause hclause => Nat.lt_of_lt_of_le (h.lt clause hclause) hle⟩

/-- A name that is too long to be there yet may be asked for any value. -/
theorem DistinctBelow.merge_when {bound : Nat} {c : Condition} (h : c.DistinctBelow bound)
    {key : String} (hkey : bound ≤ key.length) (value : String) :
    (c.merge (.when key value)).DistinctBelow (key.length + 1) := by
  -- all names that are asked for are shorter, so none of them is the new one
  have hne : ∀ clause ∈ c.clauses, clause.key ≠ key := by
    intro clause hclause heq
    have hlt := h.lt clause hclause
    rw [heq] at hlt
    omega
  refine ⟨fun clause hclause other hother heq => ?_, fun clause hclause => ?_⟩
  · rw [mem_merge, mem_when] at hclause hother
    rcases hclause with hclause | rfl
    · rcases hother with hother | rfl
      · exact h.consistent clause hclause other hother heq
      · exact absurd heq (hne clause hclause)
    · rcases hother with hother | rfl
      · exact absurd heq.symm (hne other hother)
      · rfl
  · rw [mem_merge, mem_when] at hclause
    rcases hclause with hclause | rfl
    · have hlt := h.lt clause hclause
      omega
    · exact Nat.lt_succ_self _

/-- The condition holds when the controls have the chosen values. -/
def Holds (choice : String → String) (c : Condition) : Prop :=
  ∀ clause ∈ c.clauses, choice clause.key = clause.value

/-- Values can be chosen so that a condition holds which asks no control for two. -/
theorem Consistent.exists_holds {c : Condition} (h : c.Consistent) : ∃ choice, c.Holds choice := by
  refine ⟨fun key => ((c.clauses.find? (·.key == key)).map Clause.value).getD "", ?_⟩
  intro clause hclause
  cases hfound : c.clauses.find? (·.key == clause.key) with
  | none => exact absurd (List.find?_eq_none.1 hfound clause hclause) (by simp)
  | some other =>
    dsimp only
    rw [hfound]
    exact h other (List.mem_of_find?_eq_some hfound) clause hclause
      (by simpa using List.find?_some hfound)

/-- A condition that asks less holds wherever one that asks more does. -/
theorem Holds.of_subset {choice : String → String} {c further : Condition}
    (h : further.Holds choice) (hsubset : c.clauses ⊆ further.clauses) : c.Holds choice :=
  fun clause hclause => h clause (hsubset hclause)

end Condition

/-- None of the entries, nor those inside them, asks a control for two values. -/
def AllConsistent (entries : List Entry) : Prop :=
  ∀ entry ∈ Entry.walkAll entries, entry.condition.Consistent

namespace AllConsistent

variable {entries more : List Entry} {condition : Condition}

theorem nil : AllConsistent [] := nofun

theorem append (h : AllConsistent entries) (hmore : AllConsistent more) :
    AllConsistent (entries ++ more) := by
  intro entry hentry
  rw [Entry.walkAll_append, List.mem_append] at hentry
  exact hentry.elim (h entry) (hmore entry)

theorem group (title : String) (collapsed : Bool) (hcondition : condition.Consistent)
    (h : AllConsistent entries) : AllConsistent [.group title collapsed condition entries] := by
  intro entry hentry
  rw [Entry.walkAll_singleton, Entry.walk, List.mem_cons] at hentry
  rcases hentry with rfl | hinside
  · exact hcondition
  · exact h entry hinside

theorem keptByLayout (hcondition : condition.Consistent) :
    KeptByLayout condition AllConsistent where
  nil := nil
  append := fun _ _ => append
  group := fun title _ => group title false hcondition

theorem singleton {entry : Entry} {name : String} (hcondition : condition.Consistent)
    (h : entry.Stands name condition) : AllConsistent [entry] := by
  intro inner hinner
  rw [Entry.walkAll_singleton, Entry.walk_of_isControl h.isControl, List.mem_singleton] at hinner
  rwa [hinner, h.condition_eq]

theorem unionChoice (hcondition : condition.Consistent) (info : NodeInfo)
    (members : List ParamNode) :
    AllConsistent (SignatureForms.unionChoice info members condition) := by
  rw [SignatureForms.unionChoice]
  split
  · exact singleton hcondition ⟨rfl, rfl, rfl⟩
  · exact nil

end AllConsistent

/-- Outside of connections nothing has a check box. -/
theorem gate_of_plain {ctx : FormContext} (h : ctx.configContext = false) (info : NodeInfo)
    (condition : Condition) : gate ctx info condition = ([], condition) := by
  rw [gate, h]
  rfl

/-- The condition of a member of a wired union asks at most for the discriminator of the union,
which was not asked for outside of it. -/
theorem distinctBelow_member {least : Nat} {condition : Condition} {info : NodeInfo}
    {members : List ParamNode} (hcondition : condition.DistinctBelow least)
    (hkey : least ≤ (discriminatorName info.value).length) {member : ParamNode}
    (hmember : MemberOf info.value member) :
    (condition.merge (memberCondition (hasSingleMember members) member)).DistinctBelow
      ((discriminatorName info.value).length + 1) := by
  obtain ⟨label, -, -, hlabel⟩ := hmember.wired
  rw [memberCondition, hlabel]
  split
  · rw [Condition.merge_empty]
    exact hcondition.mono (Nat.le_succ_of_le hkey)
  · exact hcondition.merge_when hkey label

/-- The discriminators below a field are below its record. -/
theorem KeysFrom.of_mem_fields {least : Nat} {node field : ParamNode} (h : KeysFrom least node)
    (hfield : field ∈ node.fields) : KeysFrom least field := by
  cases h with
  | record hfields => exact hfields field hfield
  | _ => cases hfield

/-- That no entry asks a control for two values is kept by each way of rendering a node, where the
names of discriminators grow on the way down and nothing has a check box. -/
theorem AllConsistent.renderInvariant {ctx : FormContext} (hplain : ctx.configContext = false) :
    RenderInvariant ctx fun condition _ node entries =>
      Wired node → ∀ {least}, KeysFrom least node → condition.DistinctBelow least →
        AllConsistent entries where
  leaf := fun _ hentry _ _ _ hbelow => singleton hbelow.consistent (leafEntry_stands hentry)
  closedRecord := fun _ _ _ _ hbelow => singleton hbelow.consistent (opaqueEntry_stands _ _)
  emptyRecord := fun _ _ _ _ hbelow => by
    rw [gate_of_plain hplain]
    exact singleton hbelow.consistent (opaqueEntry_stands _ _)
  openRecord := fun _ _ hfields hwired least hkeys hbelow => by
    rw [gate_of_plain hplain] at hfields ⊢
    refine (keptByLayout hbelow.consistent).fields fun field hfield => ?_
    obtain ⟨hcondition, hwiredField⟩ := hwired.of_mem_fields hfield
    refine hfields field hfield hwiredField (hkeys.of_mem_fields hfield) ?_
    rwa [hcondition, Condition.merge_empty]
  typeChoice := fun _ _ _ _ hbelow => unionChoice hbelow.consistent _ _
  union := fun {condition _ info members _ _} _ hothers harms hwired least hkeys hbelow => by
    rcases hwired with _ | _ | _ | _ | ⟨hlabels, hmembers⟩
    rcases hkeys with _ | _ | _ | _ | ⟨hkey, hinside⟩
    -- inside of the union all discriminators have longer names than its own
    refine (unionChoice hbelow.consistent info members).append
      ((keptByLayout hbelow.consistent).members (fun member hmember hflat => ?_)
        fun member hmember hexpands field hfield => ?_)
    · exact hothers member hmember hflat (hmembers member hmember) (hinside member hmember)
        (distinctBelow_member hbelow hkey (hlabels member hmember))
    · obtain ⟨hcondition, hwiredField⟩ := (hmembers member hmember).of_mem_fields hfield
      refine harms member hmember hexpands field hfield hwiredField
        ((hinside member hmember).of_mem_fields hfield) ?_
      rw [hcondition, Condition.merge_empty]
      exact distinctBelow_member hbelow hkey (hlabels member hmember)
  map := fun _ _ _ hbelow => by
    rw [gate_of_plain hplain]
    exact singleton hbelow.consistent (mapEntry_stands _ _ _)
  array := fun _ _ _ hbelow => by
    rw [gate_of_plain hplain]
    exact singleton hbelow.consistent (arrayEntry_stands _ _ _)

/-- Outside of connections the form of wired trees whose discriminators have growing names asks no
control for two values. -/
theorem allConsistent_of_renderForm {ctx : FormContext} (hplain : ctx.configContext = false)
    {params : List ParamNode} {form : List Entry}
    (hparams : ∀ param ∈ params, param.condition = .empty ∧ Wired param)
    (hkeys : ∀ param ∈ params, KeysFrom 0 param) (h : renderForm ctx params = .ok form) :
    AllConsistent form := by
  obtain ⟨entries, rfl, hentries⟩ := (AllConsistent.renderInvariant hplain).form_eq h
  have hempty := Condition.distinctBelow_empty 0
  refine (AllConsistent.keptByLayout hempty.consistent).flatMap fun param hparam => ?_
  refine hentries param hparam (hparams param hparam).2 (hkeys param hparam) ?_
  rwa [(hparams param hparam).1]

/-! ## Forms of classified parameters -/

/-- What a parameter tree is classified from. -/
structure ParamSource where
  /-- The types. -/
  types : TypeGraph
  /-- The parameter. -/
  parameter : Parameter
  /-- The position of the parameter. -/
  position : Int
  /-- The budget for fields. -/
  fieldBudget : Int

/-- Classification gives the tree `param` for the parameter. -/
def ParamSource.Gives (source : ParamSource) (param : ParamNode) : Prop :=
  classifyParameter source.types source.parameter source.position source.fieldBudget =
    .ok (some param)

/-- Neither the parameter nor a field of a record has a name that consists of quote marks only. -/
def ParamSource.Legible (source : ParamSource) : Prop :=
  ¬ Naming.IsQuotes source.parameter.name ∧ NoFieldIsQuotes source.types

/-- Each of several classified trees is classified from one of the sources. -/
theorem exists_source_of_mem {sources : List ParamSource} {params : List ParamNode}
    (h : List.Forall₂ ParamSource.Gives sources params) {param : ParamNode} (hparam : param ∈ params) :
    ∃ source ∈ sources, source.Gives param := by
  induction h with
  | nil => cases hparam
  | cons hgives _ ih =>
    rcases List.mem_cons.1 hparam with rfl | hrest
    · exact ⟨_, List.mem_cons_self, hgives⟩
    · obtain ⟨source, hsource, hfrom⟩ := ih hrest
      exact ⟨source, List.mem_cons_of_mem _ hsource, hfrom⟩

/-- Classified trees are wired and shown at once. -/
theorem wired_of_forall₂_gives {sources : List ParamSource} {params : List ParamNode}
    (h : List.Forall₂ ParamSource.Gives sources params) :
    ∀ param ∈ params, param.condition = .empty ∧ Wired param := by
  intro param hparam
  obtain ⟨source, -, hgives⟩ := exists_source_of_mem h hparam
  exact wired_of_classifyParameter hgives

/-- Where no name consists of quote marks only, the discriminators in classified trees have names
that grow on the way down. -/
theorem keysFrom_of_forall₂_gives {sources : List ParamSource} {params : List ParamNode}
    (h : List.Forall₂ ParamSource.Gives sources params)
    (hlegible : ∀ source ∈ sources, source.Legible) : ∀ param ∈ params, KeysFrom 0 param := by
  intro param hparam
  obtain ⟨source, hsource, hgives⟩ := exists_source_of_mem h hparam
  obtain ⟨hname, hfields⟩ := hlegible source hsource
  exact keysFrom_of_classifyParameter hfields hname hgives

/-- An entry that asks no control for two values and is backed by earlier controls can be made
visible by choices that these controls offer, all of which are visible then themselves. -/
theorem exists_choice_of_backedBy {known : List Entry} {c : Condition} (hconsistent : c.Consistent)
    (hbacked : c.BackedBy known) :
    ∃ choice, c.Holds choice ∧ ∀ clause ∈ c.clauses, ∃ control ∈ known,
      control.Offers ⟨clause.key, choice clause.key⟩ ∧ control.condition.Holds choice := by
  obtain ⟨choice, hchoice⟩ := hconsistent.exists_holds
  refine ⟨choice, hchoice, fun clause hclause => ?_⟩
  obtain ⟨control, hcontrol, hoffers, hsubset⟩ := hbacked clause hclause
  refine ⟨control, hcontrol, ?_, hchoice.of_subset hsubset⟩
  rw [hchoice clause hclause]
  exact hoffers

/-- In the form of classified parameters each clause asks for a control that comes earlier and
offers the value, and columns of tables ask nothing. Outside of connections, and where no name
consists of quote marks only, no entry asks a control for two values: each entry can be made visible
by choices that earlier controls offer while they are visible themselves. -/
theorem renderForm_visible {ctx : FormContext} {sources : List ParamSource}
    {params : List ParamNode} {form : List Entry}
    (hparams : List.Forall₂ ParamSource.Gives sources params)
    (hform : renderForm ctx params = .ok form) :
    (∀ before entry after, Entry.walkAll form = before ++ entry :: after →
      ∀ clause ∈ entry.condition.clauses, ∃ control ∈ before, control.Offers clause) ∧
    (∀ info columns, .table info columns ∈ Entry.walkAll form →
      ∀ column ∈ Entry.nestedAll columns, column.condition.clauses = []) ∧
    (ctx.configContext = false → (∀ source ∈ sources, source.Legible) →
      ∀ before entry after, Entry.walkAll form = before ++ entry :: after →
        (∀ clause ∈ entry.condition.clauses, ∀ other ∈ entry.condition.clauses,
          clause.key = other.key → clause.value = other.value) ∧
        ∃ choice, entry.condition.Holds choice ∧
          ∀ clause ∈ entry.condition.clauses, ∃ control ∈ before,
            control.Offers ⟨clause.key, choice clause.key⟩ ∧
              control.condition.Holds choice) := by
  have hwired := wired_of_forall₂_gives hparams
  -- the form is grounded on its own: before its first entry nothing is known
  have hbacked : ∀ before entry after, Entry.walkAll form = before ++ entry :: after →
      entry.condition.BackedBy before :=
    grounded_walkAll_of_renderForm hwired hform
  refine ⟨?_, ?_, ?_⟩
  · intro before entry after hwalk clause hclause
    obtain ⟨control, hcontrol, hoffers, -⟩ := hbacked before entry after hwalk clause hclause
    exact ⟨control, hcontrol, hoffers⟩
  · intro info columns htable column hcolumn
    rw [PlainTables.renderForm hform info columns htable column hcolumn]
    rfl
  · intro hplain hlegible before entry after hwalk
    have hconsistent : entry.condition.Consistent := by
      refine allConsistent_of_renderForm hplain hwired
        (keysFrom_of_forall₂_gives hparams hlegible) hform entry ?_
      rw [hwalk]
      exact List.mem_append_right _ List.mem_cons_self
    exact ⟨hconsistent, exists_choice_of_backedBy hconsistent (hbacked before entry after hwalk)⟩

/-- A parameter that is text or a record, one field of which is text or a number. -/
def signInSource : ParamSource where
  types := {
    descriptors := #[
      { TypeDescriptor.ofKind .union none with members := [1, 2] },
      TypeDescriptor.ofKind .string none,
      { TypeDescriptor.ofKind .record (some "Basic") with
        fields := [⟨"user", 1, false, false, none⟩, ⟨"realm", 3, false, false, none⟩] },
      { TypeDescriptor.ofKind .union none with members := [1, 4] },
      TypeDescriptor.ofKind .int none] }
  parameter := { name := "signIn", type := 0, doc := none, defaultable := false, default := none }
  position := 0
  fieldBudget := 5

theorem renderForm_visible_signIn :
    ∃ param form, signInSource.Gives param ∧ renderForm ⟨true, false⟩ [param] = .ok form ∧
      signInSource.Legible ∧
      (∀ before entry after, Entry.walkAll form = before ++ entry :: after →
        ∀ clause ∈ entry.condition.clauses, ∃ control ∈ before, control.Offers clause) ∧
      ∀ before entry after, Entry.walkAll form = before ++ entry :: after →
        ∃ choice, entry.condition.Holds choice ∧
          ∀ clause ∈ entry.condition.clauses, ∃ control ∈ before,
            control.Offers ⟨clause.key, choice clause.key⟩ ∧
              control.condition.Holds choice := by
  have hlegible : signInSource.Legible := ⟨by decide, by decide⟩
  obtain ⟨param, form, hparam, hform⟩ : ∃ param form, signInSource.Gives param ∧
      renderForm ⟨true, false⟩ [param] = .ok form := ⟨_, _, rfl, rfl⟩
  obtain ⟨hbacked, -, hchosen⟩ := renderForm_visible (.cons hparam .nil) hform
  refine ⟨param, form, hparam, hform, hlegible, hbacked, fun before entry after hwalk => ?_⟩
  exact (hchosen rfl (List.forall_mem_singleton.2 hlegible) before entry after hwalk).2

end SignatureForms
