import SignatureForms.Proofs.ParamTree.Choices
import SignatureForms.Proofs.ParamTree.Correspondence
import SignatureForms.Proofs.Wire.Soundness

/-!
# Lists of choices in a form

A form has a list of choices for each union with several members, and one in the tables for arrays
of unions. This module traces each list back to the node that poses it, and shows what it offers and
which value it has at first.

The module introduces:

* `Entry.choices entries` — the lists of choices of a form, columns of tables included;
* `ParamNode.Poses node choice` — the list stands for the members of a union, or for the kinds of
  the rows of an array;
* `ParamNode.DefaultFits`, `ParamSource.DefaultFits` — the default of a union, or the one that is
  declared for a parameter, is the label of a member, if there is one.

## Main results

* `posed_of_renderForm`: each list of choices of a form is posed by a node of the trees;
* `renderForm_choices`: each list of choices in the form of classified parameters has distinct
  values, and all of them have one of their values at first just if the defaults of the parameters
  fit; `renderForm_choices_port` is a parameter with a default that does not.
-/

namespace SignatureForms

namespace Entry

/-! ## Lists of choices -/

/-- The inputs of a form that are lists of choices, columns of tables included. -/
def choices (entries : List Entry) : List Input :=
  (nestedAll entries).filterMap fun
    | input i => if i.inputType = .combo then some i else none
    | _ => none

theorem mem_choices {entries : List Entry} {choice : Input} :
    choice ∈ choices entries ↔ input choice ∈ nestedAll entries ∧ choice.inputType = .combo := by
  rw [choices, List.mem_filterMap]
  constructor
  · rintro ⟨entry, hentry, hchoice⟩
    split at hchoice
    · split at hchoice
      · next hcombo =>
        cases hchoice
        exact ⟨hentry, hcombo⟩
      · cases hchoice
    · cases hchoice
  · rintro ⟨hentry, hcombo⟩
    exact ⟨input choice, hentry, if_pos hcombo⟩

theorem nestedAll_append (entries more : List Entry) :
    nestedAll (entries ++ more) = nestedAll entries ++ nestedAll more := by
  induction entries with
  | nil => rfl
  | cons entry rest ih => rw [List.cons_append, nestedAll, nestedAll, ih, List.append_assoc]

@[simp]
theorem choices_append (entries more : List Entry) :
    choices (entries ++ more) = choices entries ++ choices more := by
  rw [choices, nestedAll_append, List.filterMap_append]
  rfl

theorem choices_cons (entry : Entry) (rest : List Entry) :
    choices (entry :: rest) = choices [entry] ++ choices rest :=
  choices_append [entry] rest

/-- A group is no list of choices but holds those inside. -/
@[simp]
theorem choices_group (title : String) (collapsed : Bool) (condition : Condition)
    (elements : List Entry) :
    choices [group title collapsed condition elements] = choices elements := by
  simp [choices, nestedAll, nested]

/-- A table is no list of choices but holds those among its columns. -/
@[simp]
theorem choices_table (info : TableInfo) (columns : List Entry) :
    choices [table info columns] = choices columns := by
  simp [choices, nestedAll, nested]

/-- Entries of which none holds a list of choices hold none together. -/
theorem choices_eq_nil {entries : List Entry} (h : ∀ entry ∈ entries, choices [entry] = []) :
    choices entries = [] := by
  induction entries with
  | nil => rfl
  | cons entry rest ih =>
    rw [List.forall_mem_cons] at h
    rw [choices_cons, h.1, ih h.2, List.append_nil]

mutual

/-- What a form walks through is nested in it. -/
theorem walk_subset_nested : ∀ entry : Entry, walk entry ⊆ nested entry
  | input _ => List.Subset.refl _
  | group _ _ _ elements => List.cons_subset_cons _ (walkAll_subset_nestedAll elements)
  | table _ _ => List.cons_subset_cons _ (List.nil_subset _)

theorem walkAll_subset_nestedAll : ∀ entries : List Entry, walkAll entries ⊆ nestedAll entries
  | [] => List.Subset.refl _
  | entry :: rest => by
    rw [walkAll, nestedAll]
    exact List.append_subset.2
      ⟨List.subset_append_of_subset_left _ (walk_subset_nested entry),
        List.subset_append_of_subset_right _ (walkAll_subset_nestedAll rest)⟩

end

/-- A property of all lists of choices is kept by the layout. -/
theorem keptByLayout_choices (condition : Condition) (R : Input → Prop) :
    KeptByLayout condition fun entries => ∀ choice ∈ choices entries, R choice where
  nil := nofun
  append entries more h hmore := by
    rw [choices_append]
    exact List.forall_mem_append.2 ⟨h, hmore⟩
  group title elements h := by
    rw [choices_group]
    exact h

end Entry

/-! ## Entries without choices -/

section Single

variable {info : NodeInfo} {condition : Condition}

/-- The input for a leaf is a field or a check box. -/
theorem choices_leafEntry {kind : Kind} {entry : Entry}
    (h : leafEntry info kind condition = .ok entry) : Entry.choices [entry] = [] := by
  cases kind <;> cases h <;> rfl

theorem choices_opaqueEntry (help pattern : String) :
    Entry.choices [opaqueEntry info condition help pattern] = [] := rfl

theorem choices_gate (ctx : FormContext) (info : NodeInfo) (condition : Condition) :
    Entry.choices (gate ctx info condition).1 = [] := by
  rw [gate]
  split <;> rfl

theorem choices_columnEntry (name display : String) (kind : Option Kind) (required : Bool)
    (help : String) : Entry.choices [columnEntry name display kind required help] = [] := by
  unfold columnEntry
  split <;> rfl

theorem choices_fieldColumns (columns : List Column) :
    Entry.choices (columns.map fieldColumn) = [] := by
  refine Entry.choices_eq_nil (List.forall_mem_map.2 fun column _ => ?_)
  exact choices_columnEntry _ _ _ _ _

theorem choices_rowColumns (innerKind : Option Kind) (required : Bool) :
    Entry.choices (rowColumns innerKind required) = [] := by
  refine Entry.choices_eq_nil (List.forall_mem_cons.2 ⟨rfl, List.forall_mem_singleton.2 ?_⟩)
  rw [tableEntry, Entry.choices_table, choices_columnEntry]

/-- A map has no lists of choices, as a table or as text. -/
theorem choices_mapEntry (shape : MapShape) (help pattern : String) :
    Entry.choices [if shape.asTable then mapTable info shape condition
      else opaqueEntry info condition help pattern] = [] := by
  split
  · rw [mapTable, tableEntry, Entry.choices_table, mapColumns]
    split
    · exact Entry.choices_eq_nil (by simp [choices_columnEntry])
    · rw [Entry.choices_cons, choices_columnEntry, choices_fieldColumns]
      rfl
  · exact choices_opaqueEntry help pattern

/-- An array has at most the list of the kinds of its rows. -/
theorem choices_arrayEntry (shape : ArrayShape) (help pattern : String) :
    Entry.choices [if shape.asTable then arrayTable info shape condition
      else opaqueEntry info condition help pattern] ⊆
        Entry.choices (choiceColumns shape.memberKinds) := by
  split
  · unfold arrayTable
    dsimp only
    split
    · rw [tableEntry, Entry.choices_table, choices_rowColumns]
      exact List.nil_subset _
    · rw [tableEntry, Entry.choices_table]
      split
      · exact List.Subset.refl _
      · split
        · rw [choices_columnEntry]
          exact List.nil_subset _
        · rw [choices_fieldColumns]
          exact List.nil_subset _
  · rw [choices_opaqueEntry]
    exact List.nil_subset _

end Single

/-! ## Who poses a choice -/

/-- The list of choices stands for the members of a union, or for the kinds of the rows of an array
of unions. -/
inductive ParamNode.Poses : ParamNode → Input → Prop
  | union {info : NodeInfo} {members : List ParamNode} {condition : Condition} {choice : Input}
      (hchoice : choice ∈ Entry.choices (unionChoice info members condition)) :
      Poses (.union info members) choice
  | array {info : NodeInfo} {shape : ArrayShape} {choice : Input}
      (hchoice : choice ∈ Entry.choices (choiceColumns shape.memberKinds)) :
      Poses (.array info shape) choice

/-- Each of the lists of choices is posed by a node of the tree. -/
def PosedBy (node : ParamNode) (entries : List Entry) : Prop :=
  ∀ choice ∈ Entry.choices entries, ∃ below ∈ node.walk, below.Poses choice

namespace PosedBy

variable {node : ParamNode} {entries : List Entry}

theorem of_choices_eq_nil (h : Entry.choices entries = []) : PosedBy node entries := by
  rw [PosedBy, h]
  nofun

theorem append {more : List Entry} (h : PosedBy node entries) (hmore : PosedBy node more) :
    PosedBy node (entries ++ more) := by
  rw [PosedBy, Entry.choices_append]
  exact List.forall_mem_append.2 ⟨h, hmore⟩

/-- What a node inside of a tree poses is posed by the tree. -/
theorem of_mem_walk {below : ParamNode} (h : PosedBy below entries) (hbelow : below ∈ node.walk) :
    PosedBy node entries := by
  intro choice hchoice
  obtain ⟨poser, hposer, hposes⟩ := h choice hchoice
  exact ⟨poser, ParamNode.walk_subset_walk hbelow hposer, hposes⟩

/-- The entries of the content stand behind a check box, which is no list of choices. -/
theorem gate {ctx : FormContext} {info : NodeInfo} {condition : Condition}
    (h : PosedBy node entries) :
    PosedBy node ((SignatureForms.gate ctx info condition).1 ++ entries) :=
  append (of_choices_eq_nil (choices_gate ctx info condition)) h

theorem unionChoice (info : NodeInfo) (members : List ParamNode) (condition : Condition) :
    PosedBy (.union info members) (SignatureForms.unionChoice info members condition) :=
  fun _ hchoice => ⟨_, ParamNode.mem_walk_self _, .union hchoice⟩

/-- That all lists of choices are posed by the tree is kept by each way of rendering a node. -/
theorem renderInvariant (ctx : FormContext) :
    RenderInvariant ctx fun _ _ node entries => PosedBy node entries where
  leaf := fun _ hentry => of_choices_eq_nil (choices_leafEntry hentry)
  closedRecord := fun _ => of_choices_eq_nil (choices_opaqueEntry _ _)
  emptyRecord := fun _ => gate (of_choices_eq_nil (choices_opaqueEntry _ _))
  openRecord := fun _ _ hfields =>
    gate ((Entry.keptByLayout_choices _ _).fields fun field hfield =>
      (hfields field hfield).of_mem_walk (ParamNode.mem_walk_of_mem_fields hfield))
  typeChoice := fun _ => unionChoice _ _ _
  union := fun {condition _ info members _ _} _ hothers harms => by
    -- a member and the fields of a record member are all inside the union
    have hmembers : ∀ member ∈ members, member ∈ (ParamNode.union info members).walk :=
      fun member hmember => List.mem_cons_of_mem _ (ParamNode.subset_walkAll members hmember)
    refine append (unionChoice info members condition)
      ((Entry.keptByLayout_choices condition _).members (fun member hmember hflat => ?_)
        fun member hmember hexpands field hfield => ?_)
    · exact (hothers member hmember hflat).of_mem_walk (hmembers member hmember)
    · have hinside := ParamNode.walk_subset_walk (hmembers member hmember)
        (ParamNode.mem_walk_of_mem_fields hfield)
      exact (harms member hmember hexpands field hfield).of_mem_walk hinside
  map := gate (of_choices_eq_nil (choices_mapEntry _ _ _))
  array := gate fun _ hchoice =>
    ⟨_, ParamNode.mem_walk_self _, .array (choices_arrayEntry _ _ _ hchoice)⟩

end PosedBy

/-- Each list of choices of a form is posed by a node of one of the trees. -/
theorem posed_of_renderForm {ctx : FormContext} {params : List ParamNode} {form : List Entry}
    (h : renderForm ctx params = .ok form) :
    ∀ choice ∈ Entry.choices form, ∃ param ∈ params, ∃ node ∈ param.walk, node.Poses choice := by
  obtain ⟨entries, rfl, hentries⟩ := (PosedBy.renderInvariant ctx).form_eq h
  refine (Entry.keptByLayout_choices .empty _).flatMap fun param hparam choice hchoice => ?_
  exact ⟨param, hparam, hentries param hparam choice hchoice⟩

/-! ## What a choice offers -/

/-- The default of a union that is a choice, if there is one, is empty or the label of a member. -/
def ParamNode.DefaultFits : ParamNode → Prop
  | union info members => hasDiscriminator members = true →
    ∀ text ∈ info.default, text = "" ∨ text ∈ choiceLabels members
  | _ => True

/-- A union without a default has none that could be wrong. -/
theorem ParamNode.Undecided.defaultFits {node : ParamNode} (h : node.Undecided) :
    node.DefaultFits := by
  cases node with
  | union info members =>
    rw [Undecided] at h
    intro _ text htext
    rw [h] at htext
    cases htext
  | _ => trivial

theorem head?_getD_mem {values : List String} (h : values ≠ []) :
    values.head?.getD "" ∈ values := by
  cases values with
  | nil => exact absurd rfl h
  | cons first rest => exact List.mem_cons_self

/-- Where the alternative is one of the values, a text that takes its place if it is not empty has
to be one too. -/
theorem textOr_mem_iff {values : List String} {alternative : String} (h : alternative ∈ values)
    (default : Option String) :
    textOr default alternative ∈ values ↔ ∀ text ∈ default, text = "" ∨ text ∈ values := by
  cases default with
  | none => exact iff_of_true h nofun
  | some text =>
    by_cases hempty : text = ""
    · subst hempty
      refine iff_of_true h ?_
      rintro _ ⟨⟩
      exact .inl rfl
    · rw [textOr, TypeDescriptor.nonEmpty?_of_ne_empty hempty]
      simp [hempty]

/-- The words for the kinds of the rows of an array of unions; text where there are none. -/
def rowTypes (memberKinds : List Kind) : List String :=
  if memberKinds.isEmpty then [Kind.string.name] else memberKinds.map Kind.name

theorem rowTypes_ne_nil (memberKinds : List Kind) : rowTypes memberKinds ≠ [] := by
  rw [rowTypes]
  split
  · exact List.cons_ne_nil _ _
  · next hfull => simpa using hfull

theorem nodup_rowTypes {memberKinds : List Kind} (h : (memberKinds.map Kind.name).Nodup) :
    (rowTypes memberKinds).Nodup := by
  rw [rowTypes]
  split
  · exact List.nodup_singleton _
  · exact h

/-- A list of choices offers its values and has its default at first. -/
theorem of_mem_choices_combo {s : InputSpec} {values : List String} {choice : Input}
    (h : choice ∈ Entry.choices [s.combo values]) :
    choice.comboValues = some values ∧ choice.default = s.default.getD "" := by
  obtain ⟨hentry, -⟩ := Entry.mem_choices.1 h
  cases List.mem_singleton.1 hentry
  exact ⟨rfl, rfl⟩

section Offers

variable {info : NodeInfo} {members : List ParamNode} {condition : Condition} {choice : Input}

/-- The list of choices of a union offers the labels. -/
theorem unionChoice_eq (info : NodeInfo) (members : List ParamNode) (condition : Condition) :
    unionChoice info members condition =
      if ParamNode.hasDiscriminator members then
        [InputSpec.combo
          { name := discriminatorName info.value
            display := if info.typeDescriptor then controlDisplay info.value
              else controlDisplay info.value ++ "DataType"
            required := info.required
            default :=
              some (textOr info.default ((ParamNode.choiceLabels members).head?.getD ""))
            helpTip := info.description
            condition } (ParamNode.choiceLabels members)]
      else [] := rfl

/-- A union with a choice has labels. -/
theorem choiceLabels_ne_nil (h : ParamNode.hasDiscriminator members = true) :
    ParamNode.choiceLabels members ≠ [] := by
  have hseveral : 1 < (ParamNode.selectable members).length := of_decide_eq_true h
  apply List.ne_nil_of_length_pos
  rw [ParamNode.choiceLabels, List.length_map, List.length_zipIdx]
  omega

/-- The list of choices of a union has the default at first or, if there is none, the first
label. -/
theorem of_mem_choices_unionChoice
    (h : choice ∈ Entry.choices (unionChoice info members condition)) :
    ParamNode.hasDiscriminator members = true ∧
      choice.comboValues = some (ParamNode.choiceLabels members) ∧
      choice.default = textOr info.default ((ParamNode.choiceLabels members).head?.getD "") := by
  rw [unionChoice_eq] at h
  split at h
  · next hchoice => exact ⟨hchoice, of_mem_choices_combo h⟩
  · cases h

/-- The list of choices in the table for an array of unions offers the kinds of its rows, and has
the first of them at first. -/
theorem of_mem_choices_choiceColumns {memberKinds : List Kind}
    (h : choice ∈ Entry.choices (choiceColumns memberKinds)) :
    choice.comboValues = some (rowTypes memberKinds) ∧
      choice.default = (rowTypes memberKinds).head?.getD "" := by
  rw [choiceColumns, Entry.choices_cons, choices_columnEntry, List.append_nil] at h
  exact of_mem_choices_combo h

namespace ParamNode.Poses

variable {node : ParamNode}

/-- A choice that is posed by a node with distinct choices has values, all of them distinct. -/
theorem exists_values (h : node.Poses choice) (hdistinct : node.DistinctChoices) :
    ∃ values, choice.comboValues = some values ∧ values ≠ [] ∧ values.Nodup := by
  cases h with
  | union hchoice =>
    obtain ⟨hseveral, hvalues, -⟩ := of_mem_choices_unionChoice hchoice
    exact ⟨_, hvalues, choiceLabels_ne_nil hseveral, hdistinct⟩
  | array hchoice =>
    obtain ⟨hvalues, -⟩ := of_mem_choices_choiceColumns hchoice
    exact ⟨_, hvalues, rowTypes_ne_nil _, nodup_rowTypes hdistinct⟩

/-- A choice that is posed by a node whose default fits has one of its values at first. -/
theorem default_mem (h : node.Poses choice) (hfits : node.DefaultFits) :
    ∀ values ∈ choice.comboValues, choice.default ∈ values := by
  intro values hmem
  cases h with
  | union hchoice =>
    obtain ⟨hseveral, hvalues, hdefault⟩ := of_mem_choices_unionChoice hchoice
    rw [hvalues] at hmem
    cases hmem
    rw [hdefault, textOr_mem_iff (head?_getD_mem (choiceLabels_ne_nil hseveral))]
    exact hfits hseveral
  -- the kind of a row is always the first one
  | array hchoice =>
    obtain ⟨hvalues, hdefault⟩ := of_mem_choices_choiceColumns hchoice
    rw [hvalues] at hmem
    cases hmem
    rw [hdefault]
    exact head?_getD_mem (rowTypes_ne_nil _)

end ParamNode.Poses

/-- A union with a choice is rendered to a list of choices. -/
theorem exists_choice_of_renderNode {ctx : FormContext} {group : Option String}
    {entries : List Entry} (hseveral : ParamNode.hasDiscriminator members = true)
    (h : renderNode ctx condition group (.union info members) = .ok entries) :
    ∃ choice ∈ Entry.choices (unionChoice info members condition),
      .input choice ∈ Entry.controls entries ∧ choice.inputType = .combo := by
  have hsubset := unionChoice_subset_controls h
  rw [unionChoice, if_pos hseveral] at hsubset ⊢
  exact ⟨_, List.mem_singleton_self _, hsubset (List.mem_singleton_self _), rfl⟩

end Offers

/-- Where all lists of choices of a form have one of their values at first, the defaults of the
parameters fit. -/
theorem defaultFits_of_renderForm {ctx : FormContext} {params : List ParamNode} {form : List Entry}
    (hform : renderForm ctx params = .ok form)
    (h : ∀ choice ∈ Entry.choices form, ∀ values ∈ choice.comboValues, choice.default ∈ values) :
    ∀ param ∈ params, param.DefaultFits := by
  intro param hparam
  cases param with
  | union info members =>
    intro hseveral
    obtain ⟨entries, hentries, hcontrols⟩ := exists_renderNode_of_renderForm hform _ hparam
    obtain ⟨choice, hchoice, hcontrol, hcombo⟩ := exists_choice_of_renderNode hseveral hentries
    obtain ⟨-, hvalues, hdefault⟩ := of_mem_choices_unionChoice hchoice
    -- the list of choices of the parameter is one of the form, which has the default at first
    have hnested : .input choice ∈ Entry.nestedAll form :=
      Entry.walkAll_subset_nestedAll form (List.mem_of_mem_filter (hcontrols hcontrol))
    have hmem := h choice (Entry.mem_choices.2 ⟨hnested, hcombo⟩) _ hvalues
    rwa [hdefault, textOr_mem_iff (head?_getD_mem (choiceLabels_ne_nil hseveral))] at hmem
  | _ => trivial

/-- The default that is declared for a parameter that becomes a choice, if there is one, fills in
nothing or the label of a member. -/
def ParamSource.DefaultFits (source : ParamSource) : Prop :=
  ∀ info members, source.Gives (.union info members) →
    ParamNode.hasDiscriminator members = true → ∀ written ∈ source.parameter.default,
      defaultValue written = "" ∨ defaultValue written ∈ ParamNode.choiceLabels members

/-- The default of a tree fits just if that of its parameter does. -/
theorem ParamSource.Gives.defaultFits_iff {source : ParamSource} {param : ParamNode}
    (h : source.Gives param) : param.DefaultFits ↔ source.DefaultFits := by
  -- the default of a union is what the declared one fills in
  have hdefault : ∀ {info members}, source.Gives (.union info members) → ∀ {P : String → Prop},
      (∀ text ∈ info.default, P text) ↔
        ∀ written ∈ source.parameter.default, P (defaultValue written) := by
    intro info members hgives P
    rw [default_of_classifyParameter hgives]
    simp
  constructor
  · intro hfits info members hgives hseveral
    obtain rfl : param = .union info members :=
      Option.some.inj (Except.ok.inj (h.symm.trans hgives))
    exact (hdefault hgives).1 (hfits hseveral)
  · intro hfits
    cases param with
    | union info members => exact fun hseveral => (hdefault h).2 (hfits info members h hseveral)
    | _ => trivial

/-- Where the declared default of a parameter fits, so do those of all nodes in its tree: below the
root there are none. -/
theorem ParamSource.Gives.defaultFits_of_mem_walk {source : ParamSource} {param : ParamNode}
    (h : source.Gives param) (hfits : source.DefaultFits) :
    ∀ node ∈ param.walk, node.DefaultFits :=
  ParamNode.forall_mem_walk_iff.2 ⟨h.defaultFits_iff.2 hfits, fun part hpart node hnode =>
    ((choices_of_classifyParameter h).2 part hpart node hnode).defaultFits⟩

/-- Each list of choices in the form of classified parameters has some values, none of them twice,
columns of tables included. All lists have one of their values at first just if the declared
defaults of the parameters fit. -/
theorem renderForm_choices {ctx : FormContext} {sources : List ParamSource}
    {params : List ParamNode} {form : List Entry}
    (hparams : List.Forall₂ ParamSource.Gives sources params)
    (hform : renderForm ctx params = .ok form) :
    (∀ choice ∈ Entry.choices form, ∃ values, choice.comboValues = some values ∧
      values ≠ [] ∧ values.Nodup) ∧
    ((∀ choice ∈ Entry.choices form, ∀ values ∈ choice.comboValues, choice.default ∈ values) ↔
      ∀ source ∈ sources, source.DefaultFits) := by
  -- each list is posed by a node of the tree of one of the parameters
  have hposed : ∀ choice ∈ Entry.choices form, ∃ source ∈ sources, ∃ param,
      source.Gives param ∧ ∃ node ∈ param.walk, node.Poses choice := by
    intro choice hchoice
    obtain ⟨param, hparam, hposes⟩ := posed_of_renderForm hform choice hchoice
    obtain ⟨source, hsource, hgives⟩ := exists_source_of_mem hparams hparam
    exact ⟨source, hsource, param, hgives, hposes⟩
  refine ⟨fun choice hchoice => ?_, fun h source hsource => ?_, fun hfits choice hchoice => ?_⟩
  · obtain ⟨source, -, param, hgives, node, hnode, hposes⟩ := hposed choice hchoice
    exact hposes.exists_values ((choices_of_classifyParameter hgives).1 node hnode)
  · obtain ⟨param, hparam, hgives⟩ := exists_rel_of_mem hparams hsource
    exact hgives.defaultFits_iff.1 (defaultFits_of_renderForm hform h param hparam)
  · obtain ⟨source, hsource, param, hgives, node, hnode, hposes⟩ := hposed choice hchoice
    exact hposes.default_mem (hgives.defaultFits_of_mem_walk (hfits source hsource) node hnode)

/-- A port that is text, a number or absent, with a declared default. -/
def portSource (written : String) : ParamSource where
  types := {
    descriptors := #[
      { TypeDescriptor.ofKind .union none with members := [1, 2, 3] },
      TypeDescriptor.ofKind .string none,
      TypeDescriptor.ofKind .int none,
      TypeDescriptor.ofKind .nil none] }
  parameter := {
    name := "port", type := 0, doc := none, defaultable := false, default := some written }
  position := 0
  fieldBudget := 5

theorem renderForm_choices_absentPort :
    ∃ param form, (portSource "()").Gives param ∧ renderForm ⟨true, false⟩ [param] = .ok form ∧
      (portSource "()").DefaultFits ∧ Entry.choices form ≠ [] ∧
      ∀ choice ∈ Entry.choices form, ∃ values, choice.comboValues = some values ∧
        values.Nodup ∧ choice.default ∈ values := by
  have hfits : (portSource "()").DefaultFits := by
    rintro info members - - _ ⟨⟩
    exact .inl rfl
  obtain ⟨param, form, hparam, hform, hsome⟩ : ∃ param form, (portSource "()").Gives param ∧
      renderForm ⟨true, false⟩ [param] = .ok form ∧ Entry.choices form ≠ [] :=
    ⟨_, _, rfl, rfl, List.cons_ne_nil _ _⟩
  obtain ⟨hvalues, hdefaults⟩ := renderForm_choices (.cons hparam .nil) hform
  refine ⟨param, form, hparam, hform, hfits, hsome, fun choice hchoice => ?_⟩
  obtain ⟨values, heq, -, hnodup⟩ := hvalues choice hchoice
  exact ⟨values, heq, hnodup,
    hdefaults.2 (List.forall_mem_singleton.2 hfits) choice hchoice values heq⟩

/-- A declared port number is the value at first, but none of the choices. -/
theorem renderForm_choices_port :
    ∃ param form, (portSource "8080").Gives param ∧
      renderForm ⟨true, false⟩ [param] = .ok form ∧
      ∃ choice ∈ Entry.choices form, choice.comboValues = some ["string", "int"] ∧
        choice.default = "8080" ∧ choice.default ∉ ["string", "int"] :=
  ⟨_, _, rfl, rfl, _, List.mem_cons_self, rfl, rfl, by decide⟩

end SignatureForms
