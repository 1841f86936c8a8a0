import SignatureForms.Wire.Descriptor
import SignatureForms.Proofs.Form.Traversal

/-!
# Descriptors and forms agree

The descriptors of parameters and the form of the same parameters are made by recursions of their
own. Both are compared with the sites of the parameters: mentions name the sites of a form without
check boxes in the same order, and a form in a connection only adds the names of check boxes.

The module introduces:

* `FormContext.plain ctx` — the same rendering outside of connections;
* `AddsToggles toggles plain names` — `names` has all of `plain`, and else only toggles.

## Main results

* `mem_map_name_firstMentions`, `nodup_map_name_firstMentions`: a name is described once;
* `exists_mentionsAll_of_renderForm`: what can be rendered can be described, site by site;
* `addsToggles_sites`: a connection adds the check boxes of composites that may be left out;
* `exists_parameterDescriptors_of_renderForm`: a form and its descriptors have the same names.
-/

namespace SignatureForms

/-! ## First mentions -/

section FirstMentions

variable {emitted : List String} {name : String}

/-- A name is described if it is mentioned and was not emitted before. -/
theorem mem_map_name_firstMentions {mentions : List ParameterDescriptor} :
    name ∈ (firstMentions emitted mentions).map ParameterDescriptor.name ↔
      name ∈ mentions.map ParameterDescriptor.name ∧ name ∉ emitted := by
  induction mentions generalizing emitted with
  | nil => simp [firstMentions]
  | cons d rest ih =>
    rw [firstMentions]
    by_cases hd : d.name ∈ emitted
    · rw [if_pos (by simpa using hd), ih, List.map_cons, List.mem_cons]
      -- the mention that is dropped has a name that was emitted before
      constructor
      · rintro ⟨hmem, hnew⟩
        exact ⟨.inr hmem, hnew⟩
      · rintro ⟨rfl | hmem, hnew⟩
        · exact absurd hd hnew
        · exact ⟨hmem, hnew⟩
    -- a name that is described here is not described again
    · rw [if_neg (by simpa using hd), List.map_cons, List.mem_cons, ih, List.map_cons,
        List.mem_cons, List.mem_append, List.mem_singleton]
      by_cases hname : name = d.name
      · simp [hname, hd]
      · simp [hname]

/-- No name is described twice. -/
theorem nodup_map_name_firstMentions (emitted : List String)
    (mentions : List ParameterDescriptor) :
    ((firstMentions emitted mentions).map ParameterDescriptor.name).Nodup := by
  induction mentions generalizing emitted with
  | nil => exact List.nodup_nil
  | cons d rest ih =>
    rw [firstMentions]
    split
    · exact ih emitted
    · rw [List.map_cons, List.nodup_cons]
      refine ⟨fun hagain => ?_, ih _⟩
      rw [mem_map_name_firstMentions] at hagain
      exact hagain.2 (List.mem_append_right _ (List.mem_singleton_self _))

end FirstMentions

/-! ## Names of sites -/

/-- The rendering context, but outside of connections, where nothing has a check box. -/
def FormContext.plain (ctx : FormContext) : FormContext :=
  { ctx with configContext := false }

@[simp]
theorem FormContext.plain_expandRecords (ctx : FormContext) :
    ctx.plain.expandRecords = ctx.expandRecords := rfl

theorem FormContext.plain_eq_self {ctx : FormContext} (h : ctx.configContext = false) :
    ctx.plain = ctx := by
  rw [plain, ← h]

namespace Site

/-- Conditions do not change the names of sites. -/
theorem map_name_below (condition : Condition) (sites : List Site) :
    (sites.map (below condition)).map name = sites.map name := by
  rw [List.map_map]
  rfl

theorem gated_plain (ctx : FormContext) (info : NodeInfo) (content : List Site) :
    gated ctx.plain info content = content := rfl

end Site

namespace ParamNode

/-- The names of the sites of several nodes are those of each node in turn. -/
theorem map_name_fieldSites (ctx : FormContext) (fields : List ParamNode) :
    (fieldSites ctx fields).map Site.name =
      fields.flatMap fun field => (sites ctx field).map Site.name := by
  simp only [fieldSites_eq_flatMap, List.map_flatMap, Site.map_name_below]

/-- The names of the sites of the members of a union are those of each member in turn, or of its
fields if it is an unfolded record. -/
theorem map_name_memberSites (ctx : FormContext) (single : Bool) (members : List ParamNode) :
    (memberSites ctx single members).map Site.name = members.flatMap fun member =>
      (if member.expands ctx.expandRecords then fieldSites ctx member.fields
        else sites ctx member).map Site.name := by
  simp only [memberSites_eq_flatMap, List.map_flatMap, Site.map_name_below]

end ParamNode

/-! ## Mentions -/

section Mentions

variable {expandRecords : Bool}

/-- Several nodes are described if each of them is. -/
theorem exists_mentionsAll {nodes : List ParamNode} {names : ParamNode → List String}
    (h : ∀ node ∈ nodes, ∃ ds, mentions expandRecords node = .ok ds ∧
      ds.map ParameterDescriptor.name = names node) :
    ∃ ds, mentionsAll expandRecords nodes = .ok ds ∧
      ds.map ParameterDescriptor.name = nodes.flatMap names := by
  induction nodes with
  | nil => exact ⟨[], rfl, rfl⟩
  | cons node rest ih =>
    rw [List.forall_mem_cons] at h
    obtain ⟨⟨first, hfirst, hnames⟩, hrest⟩ := h
    obtain ⟨others, hothers, hmore⟩ := ih hrest
    refine ⟨first ++ others, ?_, ?_⟩
    · rw [mentionsAll, hfirst, hothers]
      rfl
    · rw [List.map_append, hnames, hmore, List.flatMap_cons]

/-- A record that is unfolded is described by its fields. -/
theorem mentions_of_expands {node : ParamNode} (h : node.expands expandRecords = true) :
    mentions expandRecords node = mentionsAll expandRecords node.fields := by
  obtain ⟨hon, info, recordName, parentPath, fields, hfields, rfl⟩ :=
    ParamNode.exists_of_expands h
  rw [mentions]
  exact if_pos h

/-- The node is described, by the names of the sites of a form without check boxes. -/
def MentionedBySites (ctx : FormContext) (node : ParamNode) : Prop :=
  ∃ ds, mentions ctx.expandRecords node = .ok ds ∧
    ds.map ParameterDescriptor.name = (ParamNode.sites ctx.plain node).map Site.name

namespace MentionedBySites

variable {ctx : FormContext} {info : NodeInfo}

/-- A leaf is described by its own name. -/
theorem leaf {kind : Kind} (h : kind.isComposite = false) :
    MentionedBySites ctx (.simple info kind) := by
  refine ⟨[⟨info.name, info.description.getD ""⟩], ?_, rfl⟩
  rw [mentions, ParamNode.checkVariant, if_neg (by simpa using h)]
  rfl

/-- A record that is entered as text is described by its own name. -/
theorem closedRecord {recordName parentPath : String} {fields : List ParamNode}
    (h : (ParamNode.record info recordName parentPath fields).expands ctx.expandRecords = false) :
    MentionedBySites ctx (.record info recordName parentPath fields) := by
  refine ⟨[⟨info.name, info.description.getD ""⟩], ?_, ?_⟩
  · have hclosed : ¬ (ctx.expandRecords && !fields.isEmpty) = true := by
      rw [Bool.not_eq_true]
      exact h
    rw [mentions, if_neg hclosed]
  · rw [ParamNode.sites, Site.gated_plain, FormContext.plain_expandRecords]
    cases hon : ctx.expandRecords with
    | false => rfl
    | true =>
      have hempty : fields.isEmpty = true := by simpa [ParamNode.expands, hon] using h
      rw [if_pos rfl, if_pos hempty]
      rfl

/-- A record that is unfolded is described by its fields. -/
theorem openRecord {recordName parentPath : String} {fields : List ParamNode}
    (hopen : ctx.expandRecords = true) (hfull : fields ≠ [])
    (hfields : ∀ field ∈ fields, MentionedBySites ctx field) :
    MentionedBySites ctx (.record info recordName parentPath fields) := by
  have hsome : fields.isEmpty = false := by simpa using hfull
  have hexpands : (ParamNode.record info recordName parentPath fields).expands
      ctx.expandRecords = true := by
    rw [ParamNode.expands, hopen, hsome]
    rfl
  rw [MentionedBySites, mentions_of_expands hexpands, ParamNode.sites, Site.gated_plain,
    FormContext.plain_expandRecords, if_pos hopen, hsome, if_neg Bool.false_ne_true,
    ParamNode.map_name_fieldSites]
  exact exists_mentionsAll hfields

/-- A choice of types is described by its discriminator. -/
theorem typeChoice {members : List ParamNode} (h : info.typeDescriptor = true) :
    MentionedBySites ctx (.union info members) := by
  rw [MentionedBySites, ParamNode.sites, if_pos h, List.append_nil]
  simp only [mentions, if_pos h, pure_eq_ok_iff, exists_eq_left']
  split <;> rfl

/-- A choice is described ahead of what the members are described by. -/
theorem union {members : List ParamNode} (hplain : info.typeDescriptor = false)
    (hothers : ∀ member ∈ members, member.expands ctx.expandRecords = false →
      MentionedBySites ctx member)
    (harms : ∀ member ∈ members, member.expands ctx.expandRecords = true →
      ∀ field ∈ member.fields, MentionedBySites ctx field) :
    MentionedBySites ctx (.union info members) := by
  -- an unfolded record among the members is described by its fields, as elsewhere
  have hmembers : ∀ member ∈ members, ∃ ds, mentions ctx.expandRecords member = .ok ds ∧
      ds.map ParameterDescriptor.name =
        (if member.expands ctx.expandRecords then ParamNode.fieldSites ctx.plain member.fields
          else ParamNode.sites ctx.plain member).map Site.name := by
    intro member hmember
    cases hexpands : member.expands ctx.expandRecords with
    | false => exact hothers member hmember hexpands
    | true =>
      rw [if_pos rfl, ParamNode.map_name_fieldSites, mentions_of_expands hexpands]
      exact exists_mentionsAll (harms member hmember hexpands)
  obtain ⟨ds, hds, hnames⟩ := exists_mentionsAll hmembers
  rw [MentionedBySites, ParamNode.sites, hplain, List.map_append,
    if_neg Bool.false_ne_true, ParamNode.map_name_memberSites, FormContext.plain_expandRecords,
    ← hnames]
  simp only [mentions, hplain, hds]
  refine ⟨_, rfl, ?_⟩
  rw [List.map_append]
  split <;> rfl

/-- Being described by the sites is kept by each way of rendering a node. -/
theorem renderInvariant (ctx : FormContext) :
    RenderInvariant ctx fun _ _ node _ => MentionedBySites ctx node where
  leaf := fun hkind _ => leaf hkind
  closedRecord := fun hclosed => closedRecord (by rw [ParamNode.expands, hclosed]; rfl)
  emptyRecord := fun _ => closedRecord (Bool.and_false _)
  openRecord := openRecord
  typeChoice := typeChoice
  union := union
  map := ⟨_, rfl, rfl⟩
  array := ⟨_, rfl, rfl⟩

end MentionedBySites

/-- Parameters that can be rendered can be described, by the names of the sites of a form without
check boxes in the same order. -/
theorem exists_mentionsAll_of_renderForm {ctx : FormContext} {params : List ParamNode}
    {form : List Entry} (h : renderForm ctx params = .ok form) :
    ∃ ds, mentionsAll ctx.expandRecords params = .ok ds ∧
      ds.map ParameterDescriptor.name =
        (ParamNode.fieldSites ctx.plain params).map Site.name := by
  obtain ⟨_, -, hparams⟩ := (MentionedBySites.renderInvariant ctx).form_eq h
  rw [ParamNode.map_name_fieldSites]
  exact exists_mentionsAll hparams

end Mentions

/-! ## Check boxes -/

/-- In a connection the node has a check box: it is a composite that is not a choice, and may be
left out. -/
def ParamNode.maySwitch : ParamNode → Bool
  | record info .. => !info.required
  | map info _ => !info.required
  | array info _ => !info.required
  | _ => false

/-- The names of the check boxes of nodes in a connection. -/
def toggleNames (nodes : List ParamNode) : List String :=
  (nodes.filter ParamNode.maySwitch).map fun node => "enable_" ++ node.name

/-- A toggle is named after a node that may be left out. -/
theorem mem_toggleNames {nodes : List ParamNode} {name : String} :
    name ∈ toggleNames nodes ↔
      ∃ node ∈ nodes, node.maySwitch = true ∧ name = "enable_" ++ node.name := by
  simp only [toggleNames, List.mem_map, List.mem_filter, and_assoc, eq_comm]

theorem toggleNames_mono {nodes more : List ParamNode} (h : nodes ⊆ more) :
    toggleNames nodes ⊆ toggleNames more := by
  intro name hname
  rw [mem_toggleNames] at hname ⊢
  obtain ⟨node, hnode, hswitch⟩ := hname
  exact ⟨node, h hnode, hswitch⟩

/-- The names `names` are the plain ones and besides them only toggles. -/
structure AddsToggles (toggles plain names : List String) : Prop where
  /-- No plain name is missing. -/
  plain_subset : plain ⊆ names
  /-- What is new is a toggle. -/
  subset : names ⊆ plain ++ toggles

namespace AddsToggles

variable {toggles further plain names plain' names' : List String}

theorem refl (toggles names : List String) : AddsToggles toggles names names where
  plain_subset := List.Subset.refl names
  subset := List.subset_append_left names toggles

/-- Names that only toggles are added to stay so if more toggles are allowed. -/
theorem mono (h : AddsToggles toggles plain names) (hsubset : toggles ⊆ further) :
    AddsToggles further plain names where
  plain_subset := h.plain_subset
  subset := fun _ hname => by
    rcases List.mem_append.1 (h.subset hname) with hplain | htoggle
    · exact List.mem_append_left _ hplain
    · exact List.mem_append_right _ (hsubset htoggle)

/-- Names to which only toggles are added may be put one after the other. -/
theorem append (h : AddsToggles toggles plain names) (h' : AddsToggles toggles plain' names') :
    AddsToggles toggles (plain ++ plain') (names ++ names') where
  plain_subset := fun name hname => by
    rw [List.mem_append] at hname ⊢
    exact hname.imp (fun hold => h.plain_subset hold) fun hnew => h'.plain_subset hnew
  subset := fun name hname => by
    rw [List.mem_append] at hname
    rw [List.append_assoc, List.mem_append, List.mem_append]
    rcases hname with hname | hname
    · rcases List.mem_append.1 (h.subset hname) with hplain | htoggle
      · exact .inl hplain
      · exact .inr (.inr htoggle)
    · exact .inr (List.mem_append.1 (h'.subset hname))

/-- A check box in front of the names is one more toggle that is added. -/
theorem cons {toggle : String} (h : AddsToggles toggles plain names) (htoggle : toggle ∈ toggles) :
    AddsToggles toggles plain (toggle :: names) where
  plain_subset := fun _ hname => List.mem_cons_of_mem _ (h.plain_subset hname)
  subset := by
    intro name hname
    rcases List.mem_cons.1 hname with rfl | hname
    · exact List.mem_append_right _ htoggle
    · exact h.subset hname

/-- The check box of a composite, if it has one, is a toggle that is added to the names of its
content. -/
theorem gated {ctx : FormContext} {info : NodeInfo} {plain content : List Site}
    (htoggle : info.required = false → "enable_" ++ info.name ∈ toggles)
    (h : AddsToggles toggles (plain.map Site.name) (content.map Site.name)) :
    AddsToggles toggles ((Site.gated ctx.plain info plain).map Site.name)
      ((Site.gated ctx info content).map Site.name) := by
  rw [Site.gated_plain, Site.gated]
  split
  · next hgated =>
    have hoptional : info.required = false := by
      simp only [Bool.and_eq_true, Bool.not_eq_true'] at hgated
      exact hgated.2
    rw [List.map_cons, Site.map_name_below]
    exact h.cons (htoggle hoptional)
  · exact h

end AddsToggles

/-- The toggle of a composite is among those of its walk. -/
theorem toggle_mem_toggleNames {node : ParamNode} {below : List ParamNode}
    (h : node.maySwitch = true) : "enable_" ++ node.name ∈ toggleNames (node :: below) :=
  mem_toggleNames.2 ⟨node, List.mem_cons_self, h, rfl⟩

/-- A connection adds only toggles to a member of a union and the members after it, if it does so to
the member and to those. -/
theorem AddsToggles.member_cons {ctx : FormContext} {single : Bool} {member : ParamNode}
    {rest : List ParamNode}
    (hmember : AddsToggles (toggleNames member.walk)
      ((if member.expands ctx.expandRecords then ParamNode.fieldSites ctx.plain member.fields
        else member.sites ctx.plain).map Site.name)
      ((if member.expands ctx.expandRecords then ParamNode.fieldSites ctx member.fields
        else member.sites ctx).map Site.name))
    (hrest : AddsToggles (toggleNames (ParamNode.walkAll rest))
      ((ParamNode.memberSites ctx.plain single rest).map Site.name)
      ((ParamNode.memberSites ctx single rest).map Site.name)) :
    AddsToggles (toggleNames (ParamNode.walkAll (member :: rest)))
      ((ParamNode.memberSites ctx.plain single (member :: rest)).map Site.name)
      ((ParamNode.memberSites ctx single (member :: rest)).map Site.name) := by
  rw [ParamNode.map_name_memberSites] at hrest ⊢
  rw [ParamNode.map_name_memberSites] at hrest ⊢
  rw [List.flatMap_cons, List.flatMap_cons, ParamNode.walkAll]
  exact (hmember.mono (toggleNames_mono (List.subset_append_left _ _))).append
    (hrest.mono (toggleNames_mono (List.subset_append_right _ _)))

mutual

/-- A connection adds the check boxes of nodes that may be left out to the names of the sites. -/
theorem addsToggles_sites (ctx : FormContext) : ∀ node : ParamNode,
    AddsToggles (toggleNames node.walk) ((node.sites ctx.plain).map Site.name)
      ((node.sites ctx).map Site.name)
  | .simple _ _ => .refl _ _
  | .record info recordName parentPath fields => by
    have hbelow : toggleNames (ParamNode.walkAll fields) ⊆
        toggleNames (ParamNode.record info recordName parentPath fields).walk :=
      toggleNames_mono (List.subset_cons_self _ _)
    rw [ParamNode.sites, ParamNode.sites, FormContext.plain_expandRecords]
    split
    · refine .gated (fun hoptional => toggle_mem_toggleNames (by
        rw [ParamNode.maySwitch, hoptional]; rfl)) ?_
      split
      · exact .refl _ _
      · exact (addsToggles_fieldSites ctx fields).mono hbelow
    · exact .refl _ _
  | .union info members => by
    have hbelow : toggleNames (ParamNode.walkAll members) ⊆
        toggleNames (ParamNode.union info members).walk :=
      toggleNames_mono (List.subset_cons_self _ _)
    rw [ParamNode.sites, ParamNode.sites, List.map_append, List.map_append]
    refine .append (.refl _ _) ?_
    split
    · exact .refl _ _
    · exact (addsToggles_memberSites ctx (hasSingleMember members) members).mono hbelow
  | .map info shape => .gated (fun hoptional => toggle_mem_toggleNames (by
      rw [ParamNode.maySwitch, hoptional]; rfl)) (.refl _ _)
  | .array info shape => .gated (fun hoptional => toggle_mem_toggleNames (by
      rw [ParamNode.maySwitch, hoptional]; rfl)) (.refl _ _)

/-- A connection adds the check boxes of nodes that may be left out to the names of the sites of
several nodes in turn. -/
theorem addsToggles_fieldSites (ctx : FormContext) : ∀ fields : List ParamNode,
    AddsToggles (toggleNames (ParamNode.walkAll fields))
      ((ParamNode.fieldSites ctx.plain fields).map Site.name)
      ((ParamNode.fieldSites ctx fields).map Site.name)
  | [] => .refl _ _
  | field :: rest => by
    rw [ParamNode.fieldSites, ParamNode.fieldSites, List.map_append, List.map_append,
      Site.map_name_below, Site.map_name_below, ParamNode.walkAll]
    have hfield := (addsToggles_sites ctx field).mono
      (toggleNames_mono (List.subset_append_left field.walk (ParamNode.walkAll rest)))
    have hrest := (addsToggles_fieldSites ctx rest).mono
      (toggleNames_mono (List.subset_append_right field.walk (ParamNode.walkAll rest)))
    exact hfield.append hrest

/-- A connection adds the check boxes of nodes that may be left out to the names of the sites of the
members of a union, some of which are unfolded records. -/
theorem addsToggles_memberSites (ctx : FormContext) (single : Bool) :
    ∀ members : List ParamNode, AddsToggles (toggleNames (ParamNode.walkAll members))
      ((ParamNode.memberSites ctx.plain single members).map Site.name)
      ((ParamNode.memberSites ctx single members).map Site.name)
  | [] => .refl _ _
  | .simple info kind :: rest =>
    .member_cons (addsToggles_sites ctx (.simple info kind))
      (addsToggles_memberSites ctx single rest)
  | .record info recordName parentPath fields :: rest => by
    refine .member_cons ?_ (addsToggles_memberSites ctx single rest)
    split
    -- an unfolded record has no check box itself, but its fields may have
    · exact (addsToggles_fieldSites ctx fields).mono (toggleNames_mono (List.subset_cons_self _ _))
    · exact addsToggles_sites ctx (.record info recordName parentPath fields)
  | .map info shape :: rest =>
    .member_cons (addsToggles_sites ctx (.map info shape))
      (addsToggles_memberSites ctx single rest)
  | .array info shape :: rest =>
    .member_cons (addsToggles_sites ctx (.array info shape))
      (addsToggles_memberSites ctx single rest)
  | .union info members :: rest =>
    .member_cons (addsToggles_sites ctx (.union info members))
      (addsToggles_memberSites ctx single rest)

end

/-! ## Forms and descriptors -/

/-- The names of a form are those of the sites of its parameters. -/
theorem mem_namesAll_renderForm {ctx : FormContext} {params : List ParamNode} {form : List Entry}
    (h : renderForm ctx params = .ok form) (name : String) :
    name ∈ Entry.namesAll form ↔ name ∈ (ParamNode.fieldSites ctx params).map Site.name := by
  have hnames := (outline_renderForm_perm h).map Prod.fst
  rw [Entry.map_fst_outline, Site.map_fst_outline] at hnames
  exact hnames.mem_iff

/-- Parameters that can be rendered can be described. No name is described twice, and the names are
those of the form; a connection only adds to its form the names of check boxes of records, maps and
arrays that may be left out. -/
theorem exists_parameterDescriptors_of_renderForm {ctx : FormContext} {params : List ParamNode}
    {form : List Entry} (h : renderForm ctx params = .ok form) :
    ∃ ds emitted, parameterDescriptors params [] ctx.expandRecords = .ok (ds, emitted) ∧
      (ds.map ParameterDescriptor.name).Nodup ∧
      (ctx.configContext = false → ∀ name,
        name ∈ ds.map ParameterDescriptor.name ↔ name ∈ Entry.namesAll form) ∧
      (ctx.configContext = true →
        (∀ name ∈ ds.map ParameterDescriptor.name, name ∈ Entry.namesAll form) ∧
          ∀ name ∈ Entry.namesAll form, name ∈ ds.map ParameterDescriptor.name ∨
            ∃ node ∈ ParamNode.walkAll params,
              node.maySwitch = true ∧ name = "enable_" ++ node.name) := by
  -- describing drops repeats, which does not change the set of names
  obtain ⟨found, hfound, hsites⟩ := exists_mentionsAll_of_renderForm h
  have hmem : ∀ name, name ∈ (firstMentions [] found).map ParameterDescriptor.name ↔
      name ∈ (ParamNode.fieldSites ctx.plain params).map Site.name := by
    intro name
    rw [mem_map_name_firstMentions, hsites]
    exact and_iff_left List.not_mem_nil
  refine ⟨firstMentions [] found, [] ++ (firstMentions [] found).map ParameterDescriptor.name, ?_,
    nodup_map_name_firstMentions [] found, ?_, ?_⟩
  · rw [parameterDescriptors, hfound]
    rfl
  · intro hplain name
    rw [hmem, mem_namesAll_renderForm h, FormContext.plain_eq_self hplain]
  · intro _
    have hadds := addsToggles_fieldSites ctx params
    refine ⟨fun name hname => ?_, fun name hname => ?_⟩
    · rw [hmem] at hname
      rw [mem_namesAll_renderForm h]
      exact hadds.plain_subset hname
    · rw [mem_namesAll_renderForm h] at hname
      rw [hmem, ← mem_toggleNames]
      exact List.mem_append.1 (hadds.subset hname)

/-- A choice between two records that share the name of a field, one of which may be retried. -/
def endpointParams : List ParamNode :=
  let text (value : String) : ParamNode := .simple (.plain "0" value true none) .string
  let retry : ParamNode := .map (.plain "1" "at.retry" false none) ⟨some .int, [], true⟩
  let arm (label : String) (fields : List ParamNode) : ParamNode :=
    (ParamNode.record (.plain "0" ("at" ++ label) true none) label "at" fields).asMember label
      (.when "atDataType" label)
  [.union (.plain "0" "at" true none)
    [arm "Host" [text "at.name", retry], arm "Socket" [text "at.name"]]]

theorem exists_parameterDescriptors_endpoint :
    ∃ form, renderForm ⟨true, true⟩ endpointParams = .ok form ∧
      ∃ ds emitted, parameterDescriptors endpointParams [] true = .ok (ds, emitted) ∧
        (ds.map ParameterDescriptor.name).Nodup ∧
        (∀ name ∈ ds.map ParameterDescriptor.name, name ∈ Entry.namesAll form) ∧
          ∀ name ∈ Entry.namesAll form, name ∈ ds.map ParameterDescriptor.name ∨
            ∃ node ∈ ParamNode.walkAll endpointParams,
              node.maySwitch = true ∧ name = "enable_" ++ node.name := by
  obtain ⟨form, hform⟩ : ∃ form, renderForm ⟨true, true⟩ endpointParams = .ok form := ⟨_, rfl⟩
  obtain ⟨ds, emitted, hds, hnodup, -, hnames⟩ := exists_parameterDescriptors_of_renderForm hform
  exact ⟨form, hform, ds, emitted, hds, hnodup, hnames rfl⟩

end SignatureForms
