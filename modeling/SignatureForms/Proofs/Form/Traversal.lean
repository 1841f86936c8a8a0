import SignatureForms.Proofs.Condition.Merge
import SignatureForms.Proofs.Form.Controls

/-!
# Forms as traversals

Rendering gathers fields in groups and puts the unfolded records of a union together. This module
describes the controls of a form without any of this: a plain traversal of the parameter trees
meets one site for each control, and a site knows the conditions on its path from the root.

The module introduces:

* `Site` — the name of a control and the conditions on the path to it;
* `ParamNode.sites ctx node` — the sites below a node, in plain order;
* `Entry.outline entries` — the names of the controls of a form, each with its clauses.

## Main results

* `outline_renderForm_perm`: the outline of a form is that of its sites, up to order;
* `GroupsEnclose.renderForm`: each group of a form asks only what all entries in it ask;
* `renderForm_perm_sites`: both together.
-/

namespace SignatureForms

/-! ## Sites -/

/-- A place at which a form has a control. -/
structure Site where
  /-- The name of the control. -/
  name : String
  /-- The conditions on the path from the root, the outermost one first. -/
  path : List Condition
deriving DecidableEq, Repr, Inhabited

namespace Site

/-- When the control is visible: the conditions on its path, merged in order. -/
def condition (site : Site) : Condition :=
  site.path.foldl Condition.merge .empty

/-- The site as it is seen from further out, with one more condition on its path. -/
def below (condition : Condition) (site : Site) : Site :=
  { site with path := condition :: site.path }

/-- The sites of the content of a composite. In a connection a composite that may be left out has a
check box of its own, which its content asks to be set. -/
def gated (ctx : FormContext) (info : NodeInfo) (content : List Site) : List Site :=
  if ctx.configContext && !info.required then
    ⟨"enable_" ++ info.name, []⟩ ::
      content.map (below (.when ("enable_" ++ info.name) "true"))
  else content

/-- The names of sites and the clauses that are asked where they are seen under a condition. -/
def outline (condition : Condition) (sites : List Site) : List (String × List Clause) :=
  sites.map fun site => (site.name, (site.path.foldl Condition.merge condition).clauses)

end Site

namespace ParamNode

mutual

/-- The sites below a node in plain order, seen from the node: its own condition is not among those
on their paths. -/
def sites (ctx : FormContext) : ParamNode → List Site
  | simple info _ => [⟨info.name, []⟩]
  | record info _ _ fields =>
    if ctx.expandRecords then
      Site.gated ctx info (if fields.isEmpty then [⟨info.name, []⟩] else fieldSites ctx fields)
    else [⟨info.name, []⟩]
  | union info members =>
    (if hasDiscriminator members then [⟨discriminatorName info.value, []⟩] else []) ++
      if info.typeDescriptor then [] else memberSites ctx (hasSingleMember members) members
  | map info _ => Site.gated ctx info [⟨info.name, []⟩]
  | array info _ => Site.gated ctx info [⟨info.name, []⟩]

/-- The sites of several nodes in turn, each below the condition of its node. -/
def fieldSites (ctx : FormContext) : List ParamNode → List Site
  | [] => []
  | field :: rest => (sites ctx field).map (Site.below field.condition) ++ fieldSites ctx rest

/-- The sites of the members of a union, each below the condition of its member unless there is no
choice. An unfolded record has just the sites of its fields and no check box. -/
def memberSites (ctx : FormContext) (single : Bool) : List ParamNode → List Site
  | [] => []
  | record info recordName parentPath fields :: rest =>
    (if (record info recordName parentPath fields).expands ctx.expandRecords then
        fieldSites ctx fields
      else sites ctx (record info recordName parentPath fields)).map
        (Site.below (memberCondition single (record info recordName parentPath fields))) ++
      memberSites ctx single rest
  | member :: rest =>
    (sites ctx member).map (Site.below (memberCondition single member)) ++
      memberSites ctx single rest

end

/-- The sites of several nodes are those of each node in turn. -/
theorem fieldSites_eq_flatMap (ctx : FormContext) (fields : List ParamNode) :
    fieldSites ctx fields =
      fields.flatMap fun field => (sites ctx field).map (Site.below field.condition) := by
  induction fields with
  | nil => rfl
  | cons field rest ih => rw [fieldSites, ih, List.flatMap_cons]

/-- The sites of the members of a union are those of each member in turn, or of its fields if it is
an unfolded record. -/
theorem memberSites_eq_flatMap (ctx : FormContext) (single : Bool) (members : List ParamNode) :
    memberSites ctx single members = members.flatMap fun member =>
      (if member.expands ctx.expandRecords then fieldSites ctx member.fields
        else sites ctx member).map (Site.below (memberCondition single member)) := by
  induction members with
  | nil => rfl
  | cons member rest ih =>
    rw [List.flatMap_cons, ← ih]
    cases member <;> rfl

/-- In a connection the field of an optional record is below its check box. -/
example :
    sites ⟨true, true⟩ (.record (.plain "0" "retry" false none) "Retry" "retry"
      [.simple (.plain "0" "retry.interval" true none) .int]) =
    [⟨"enable_retry", []⟩, ⟨"retry_interval", [.when "enable_retry" "true", .empty]⟩] := by
  decide

end ParamNode

/-! ## Outlines -/

namespace Site

theorem outline_append (condition : Condition) (sites more : List Site) :
    outline condition (sites ++ more) = outline condition sites ++ outline condition more :=
  List.map_append

theorem outline_flatMap {α : Type} (condition : Condition) (parts : List α)
    (sites : α → List Site) :
    outline condition (parts.flatMap sites) =
      parts.flatMap fun part => outline condition (sites part) :=
  List.map_flatMap

/-- Sites further in are seen under one more condition. -/
theorem outline_below (condition own : Condition) (sites : List Site) :
    outline condition (sites.map (below own)) = outline (condition.merge own) sites := by
  rw [outline, List.map_map]
  rfl

theorem map_fst_outline (condition : Condition) (sites : List Site) :
    (outline condition sites).map Prod.fst = sites.map name := by
  rw [outline, List.map_map]
  rfl

end Site

namespace Entry

/-- The names of the controls of a form and the clauses under which they are visible. -/
def outline (entries : List Entry) : List (String × List Clause) :=
  (controls entries).map fun entry => (entry.name, entry.condition.clauses)

theorem outline_append (entries more : List Entry) :
    outline (entries ++ more) = outline entries ++ outline more := by
  rw [outline, controls_append, List.map_append]
  rfl

theorem outline_singleton {entry : Entry} (h : entry.isControl = true) :
    outline [entry] = [(entry.name, entry.condition.clauses)] := by
  rw [outline, controls_singleton h]
  rfl

theorem map_fst_outline (entries : List Entry) :
    (outline entries).map Prod.fst = namesAll entries := by
  rw [namesAll_eq_map_controls, outline, List.map_map]
  rfl

/-- Gathering placed fields keeps their outline, up to order. -/
theorem outline_gather_perm (condition : Condition) (placed : List Placed) :
    (outline (gather condition [] placed)).Perm
      (placed.flatMap fun p => outline p.entries) := by
  have h := (controls_gather_perm condition placed).map
    fun entry : Entry => (entry.name, entry.condition.clauses)
  rwa [List.map_flatMap] at h

end Entry

/-! ## Controls of single nodes -/

/-- The entry is a control with the name `name` and the condition `condition`. -/
structure Entry.Stands (entry : Entry) (name : String) (condition : Condition) : Prop where
  /-- The entry is a control. -/
  isControl : entry.isControl = true
  /-- The control has the name. -/
  name_eq : entry.name = name
  /-- The control has the condition. -/
  condition_eq : entry.condition = condition

section Single

variable {info : NodeInfo} {condition : Condition}

/-- The input for a leaf has the name of the leaf and its condition. -/
theorem leafEntry_stands {kind : Kind} {entry : Entry}
    (h : leafEntry info kind condition = .ok entry) : entry.Stands info.name condition := by
  cases kind <;> cases h <;> exact ⟨rfl, rfl, rfl⟩

/-- The input for a composite that is entered as text has the name of the composite and its
condition. -/
theorem opaqueEntry_stands (help pattern : String) :
    (opaqueEntry info condition help pattern).Stands info.name condition := ⟨rfl, rfl, rfl⟩

/-- The table for a map has the name of the map and its condition. -/
theorem mapTable_stands (shape : MapShape) :
    (mapTable info shape condition).Stands info.name condition := ⟨rfl, rfl, rfl⟩

/-- The table for an array has the name of the array and its condition, whichever columns it has. -/
theorem arrayTable_stands (shape : ArrayShape) :
    (arrayTable info shape condition).Stands info.name condition := by
  unfold arrayTable
  split <;> exact ⟨rfl, rfl, rfl⟩

/-- A map is one control: a table or text. -/
theorem mapEntry_stands (shape : MapShape) (help pattern : String) :
    (if shape.asTable then mapTable info shape condition
      else opaqueEntry info condition help pattern).Stands info.name condition := by
  split
  · exact mapTable_stands shape
  · exact opaqueEntry_stands help pattern

/-- An array is one control: a table or text. -/
theorem arrayEntry_stands (shape : ArrayShape) (help pattern : String) :
    (if shape.asTable then arrayTable info shape condition
      else opaqueEntry info condition help pattern).Stands info.name condition := by
  split
  · exact arrayTable_stands shape
  · exact opaqueEntry_stands help pattern

/-- A control of the name at the end of a path has the outline of its site. -/
theorem Entry.Stands.outline_eq {entry : Entry} {name : String}
    (h : entry.Stands name condition) :
    Entry.outline [entry] = Site.outline condition [⟨name, []⟩] := by
  rw [Entry.outline_singleton h.isControl, h.name_eq, h.condition_eq]
  rfl

/-- The check box of a composite and its content have the outline of a gated site. -/
theorem outline_gate {ctx : FormContext} {content : List Entry} {inside : List Site}
    (h : (Entry.outline content).Perm (Site.outline (gate ctx info condition).2 inside)) :
    (Entry.outline ((gate ctx info condition).1 ++ content)).Perm
      (Site.outline condition (Site.gated ctx info inside)) := by
  rw [gate] at h ⊢
  rw [Site.gated]
  split
  · next hgated =>
    rw [if_pos hgated] at h
    rw [Entry.outline_append, ← List.singleton_append, Site.outline_append, Site.outline_below]
    exact h.append_left _
  · next hopen =>
    rw [if_neg hopen] at h
    exact h

/-- The choice of a union is one control where there is a choice. -/
theorem outline_unionChoice (members : List ParamNode) :
    Entry.outline (unionChoice info members condition) = Site.outline condition
      (if ParamNode.hasDiscriminator members then [⟨discriminatorName info.value, []⟩] else []) := by
  rw [unionChoice]
  split <;> rfl

end Single

/-! ## Rendered nodes -/

section Rendered

variable {ctx : FormContext}

/-- The outline of a node that is rendered under a condition is that of its sites. -/
def OutlinedBySites (ctx : FormContext) (condition : Condition) (_group : Option String)
    (node : ParamNode) (entries : List Entry) : Prop :=
  (Entry.outline entries).Perm (Site.outline condition (ParamNode.sites ctx node))

/-- Fields that are outlined by their sites are so together. -/
theorem outline_fields_perm {condition : Condition} {fields : List ParamNode}
    {entries : ParamNode → List Entry}
    (h : ∀ field ∈ fields, (Entry.outline (entries field)).Perm
      (Site.outline (condition.merge field.condition) (ParamNode.sites ctx field))) :
    (fields.flatMap fun field => Entry.outline (entries field)).Perm
      (Site.outline condition (ParamNode.fieldSites ctx fields)) := by
  rw [ParamNode.fieldSites_eq_flatMap, Site.outline_flatMap]
  refine List.Perm.flatMap_left _ fun field hfield => ?_
  rw [Site.outline_below]
  exact h field hfield

/-- Gathered fields that are outlined by their sites are so together. -/
theorem outline_gather_fields_perm {condition : Condition} {group : Option String}
    {fields : List ParamNode} {entries : ParamNode → List Entry}
    (h : ∀ field ∈ fields, (Entry.outline (entries field)).Perm
      (Site.outline (condition.merge field.condition) (ParamNode.sites ctx field))) :
    (Entry.outline (gather condition [] (fields.map fun field =>
      ⟨groupSegment group field.value, entries field⟩))).Perm
      (Site.outline condition (ParamNode.fieldSites ctx fields)) := by
  refine (Entry.outline_gather_perm condition _).trans ?_
  rw [List.flatMap_map]
  exact outline_fields_perm h

/-- The members of a union have the outlines of the members in turn, up to order. -/
theorem outline_spliceArms_perm (condition : Condition) (expandRecords : Bool)
    (group : Option String) (members : List ParamNode) (entries : ParamNode → List Entry)
    (arms : ParamNode → ParamNode → List Entry) :
    (Entry.outline (spliceArms (gather condition [] (armFields expandRecords group members arms))
      (otherEntries expandRecords members entries))).Perm
      (members.flatMap fun member =>
        if member.expands expandRecords then
          member.fields.flatMap fun field => Entry.outline (arms member field)
        else Entry.outline (entries member)) := by
  have hsplice := (controls_spliceArms_perm
      (gather condition [] (armFields expandRecords group members arms))
      (otherEntries expandRecords members entries)).map
    fun entry : Entry => (entry.name, entry.condition.clauses)
  rw [List.map_append, List.map_flatMap] at hsplice
  -- the order of the groups does not matter either
  have harms := Entry.outline_gather_perm condition (armFields expandRecords group members arms)
  refine hsplice.trans ((harms.append_left _).trans ?_)
  -- a member stands either among the other members or among the records, so that nothing is
  -- mixed up when both are put together
  rw [flatMap_armFields expandRecords group members arms Entry.outline,
    flatMap_otherEntries expandRecords members entries]
  refine (List.flatMap_append_perm members _ _).trans (List.Perm.flatMap_left _ fun member _ => ?_)
  cases member.expands expandRecords with
  | false =>
    rw [if_neg Bool.false_ne_true, if_neg Bool.false_ne_true, if_neg Bool.false_ne_true,
      List.append_nil]
    exact .refl _
  | true => exact .refl _

/-- The members of a union that are outlined by their sites, and the fields of those that are
unfolded records, are so together. -/
theorem outline_members_perm {condition : Condition} {single : Bool} {group : Option String}
    {members : List ParamNode} {entries : ParamNode → List Entry}
    {arms : ParamNode → ParamNode → List Entry}
    (hothers : ∀ member ∈ members, member.expands ctx.expandRecords = false →
      (Entry.outline (entries member)).Perm (Site.outline
        (condition.merge (memberCondition single member)) (ParamNode.sites ctx member)))
    (harms : ∀ member ∈ members, member.expands ctx.expandRecords = true →
      ∀ field ∈ member.fields, (Entry.outline (arms member field)).Perm (Site.outline
        (condition.merge ((memberCondition single member).merge field.condition))
        (ParamNode.sites ctx field))) :
    (Entry.outline (spliceArms
      (gather condition [] (armFields ctx.expandRecords group members arms))
      (otherEntries ctx.expandRecords members entries))).Perm
      (Site.outline condition (ParamNode.memberSites ctx single members)) := by
  refine (outline_spliceArms_perm condition ctx.expandRecords group members entries arms).trans ?_
  rw [ParamNode.memberSites_eq_flatMap, Site.outline_flatMap]
  refine List.Perm.flatMap_left _ fun member hmember => ?_
  rw [Site.outline_below]
  cases hexpands : member.expands ctx.expandRecords with
  | false => exact hothers member hmember hexpands
  | true =>
    -- rendering merges the conditions of member and field first, the path goes from outside in
    refine outline_fields_perm fun field hfield => ?_
    rw [Condition.merge_assoc]
    exact harms member hmember hexpands field hfield

/-- Being outlined by the sites is kept by each way of rendering a node. -/
theorem outlinedBySites (ctx : FormContext) : RenderInvariant ctx (OutlinedBySites ctx) where
  leaf := fun _ hentry => .of_eq (leafEntry_stands hentry).outline_eq
  closedRecord := fun hclosed => by
    rw [OutlinedBySites, ParamNode.sites, hclosed]
    exact .of_eq (opaqueEntry_stands _ _).outline_eq
  emptyRecord := fun hopen => by
    rw [OutlinedBySites, ParamNode.sites, if_pos hopen]
    exact outline_gate (.of_eq (opaqueEntry_stands _ _).outline_eq)
  openRecord := fun {_ _ _ _ _ fields _} hopen hfull hfields => by
    have hsome : ¬ fields.isEmpty = true := by simpa using hfull
    rw [OutlinedBySites, ParamNode.sites, if_pos hopen, if_neg hsome]
    exact outline_gate (outline_gather_fields_perm hfields)
  typeChoice := fun htype => by
    rw [OutlinedBySites, ParamNode.sites, if_pos htype, List.append_nil]
    exact .of_eq (outline_unionChoice _)
  union := fun hplain hothers harms => by
    rw [OutlinedBySites, ParamNode.sites, hplain, Entry.outline_append, Site.outline_append,
      outline_unionChoice]
    exact (outline_members_perm hothers harms).append_left _
  map := outline_gate (.of_eq (mapEntry_stands _ _ _).outline_eq)
  array := outline_gate (.of_eq (arrayEntry_stands _ _ _).outline_eq)

/-- The outline of a form is that of the sites of its parameters, up to order. -/
theorem outline_renderForm_perm {params : List ParamNode} {form : List Entry}
    (h : renderForm ctx params = .ok form) :
    (Entry.outline form).Perm (Site.outline .empty (ParamNode.fieldSites ctx params)) := by
  -- at the root nothing is asked, so the path of a parameter starts with its own condition
  obtain ⟨entries, rfl, hparams⟩ := (outlinedBySites ctx).form_eq h
  rw [Entry.outline, Entry.controls_flatMap, List.map_flatMap]
  refine outline_fields_perm fun param hparam => ?_
  rw [Condition.empty_merge]
  exact hparams param hparam

end Rendered

/-! ## Groups -/

/-- Each group of a form asks only what all entries inside it ask. -/
def GroupsEnclose (form : List Entry) : Prop :=
  ∀ title collapsed condition elements,
    .group title collapsed condition elements ∈ Entry.walkAll form →
      ∀ entry ∈ Entry.walkAll elements, condition.clauses ⊆ entry.condition.clauses

/-- The entries ask at least what a condition asks, and their groups ask only what the entries
inside them ask. -/
structure EnclosedBy (condition : Condition) (entries : List Entry) : Prop where
  /-- The groups ask only what the entries inside them ask. -/
  groups : GroupsEnclose entries
  /-- All entries ask what the condition asks. -/
  subset : ∀ entry ∈ Entry.walkAll entries, condition.clauses ⊆ entry.condition.clauses

namespace EnclosedBy

variable {condition : Condition} {entries more : List Entry}

theorem nil (condition : Condition) : EnclosedBy condition [] where
  groups := fun _ _ _ _ h => nomatch h
  subset := fun _ h => nomatch h

theorem append (h : EnclosedBy condition entries) (hmore : EnclosedBy condition more) :
    EnclosedBy condition (entries ++ more) := by
  refine ⟨fun title collapsed own elements hgroup => ?_, fun entry hentry => ?_⟩
  · rw [Entry.walkAll_append, List.mem_append] at hgroup
    rcases hgroup with hgroup | hgroup
    · exact h.groups _ _ _ _ hgroup
    · exact hmore.groups _ _ _ _ hgroup
  · rw [Entry.walkAll_append, List.mem_append] at hentry
    rcases hentry with hentry | hentry
    · exact h.subset entry hentry
    · exact hmore.subset entry hentry

/-- Entries that ask what a condition asks may be grouped under it. -/
theorem group (title : String) (collapsed : Bool) (h : EnclosedBy condition entries) :
    EnclosedBy condition [.group title collapsed condition entries] := by
  refine ⟨fun innerTitle innerCollapsed own elements hgroup => ?_, fun entry hentry => ?_⟩
  · rw [Entry.walkAll_singleton, Entry.walk, List.mem_cons] at hgroup
    -- the new group asks what its entries ask; the groups inside it were enclosed before
    rcases hgroup with hself | hinside
    · cases hself
      exact h.subset
    · exact h.groups _ _ _ _ hinside
  · rw [Entry.walkAll_singleton, Entry.walk, List.mem_cons] at hentry
    rcases hentry with rfl | hinside
    · exact List.Subset.refl _
    · exact h.subset entry hinside

/-- What is under a longer condition is under a shorter one. -/
theorem mono {further : Condition} (h : EnclosedBy further entries)
    (hsubset : condition.clauses ⊆ further.clauses) : EnclosedBy condition entries :=
  ⟨h.groups, fun entry hentry => List.Subset.trans hsubset (h.subset entry hentry)⟩

/-- Content that asks more than a condition is enclosed by the condition. -/
theorem of_merge {own : Condition} (h : EnclosedBy (condition.merge own) entries) :
    EnclosedBy condition entries :=
  h.mono (Condition.subset_merge_left condition own)

/-- A control is enclosed by its own condition. -/
theorem singleton {entry : Entry} {name : String} (h : entry.Stands name condition) :
    EnclosedBy condition [entry] := by
  refine ⟨fun title collapsed own elements hgroup => ?_, fun inner hinner => ?_⟩
  · rw [Entry.walkAll_singleton, Entry.walk_of_isControl h.isControl, List.mem_singleton] at hgroup
    rw [← hgroup] at h
    cases h.isControl
  · rw [Entry.walkAll_singleton, Entry.walk_of_isControl h.isControl, List.mem_singleton] at hinner
    rw [hinner, h.condition_eq]
    exact List.Subset.refl _

/-- The check box of a composite is under its condition, and so is the content behind it. -/
theorem gate {ctx : FormContext} {info : NodeInfo}
    (h : EnclosedBy (SignatureForms.gate ctx info condition).2 entries) :
    EnclosedBy condition ((SignatureForms.gate ctx info condition).1 ++ entries) := by
  rw [SignatureForms.gate] at h ⊢
  split
  · next hgated =>
    rw [if_pos hgated] at h
    have hswitched :
        EnclosedBy (condition.merge (.when ("enable_" ++ info.name) "true")) entries := h
    exact append (singleton ⟨rfl, rfl, rfl⟩) hswitched.of_merge
  · next hopen =>
    rw [if_neg hopen] at h
    exact h

theorem unionChoice (info : NodeInfo) (members : List ParamNode) :
    EnclosedBy condition (SignatureForms.unionChoice info members condition) := by
  rw [SignatureForms.unionChoice]
  split
  · exact singleton ⟨rfl, rfl, rfl⟩
  · exact nil condition

/-- Being enclosed by a condition is kept by the layout under it. -/
theorem keptByLayout (condition : Condition) : KeptByLayout condition (EnclosedBy condition) where
  nil := nil condition
  append := fun _ _ => append
  group := fun title _ => group title false

/-- Being enclosed by the condition is kept by each way of rendering a node. -/
theorem renderInvariant (ctx : FormContext) :
    RenderInvariant ctx fun condition _ _ entries => EnclosedBy condition entries where
  leaf := fun _ hentry => singleton (leafEntry_stands hentry)
  closedRecord := fun _ => singleton (opaqueEntry_stands _ _)
  emptyRecord := fun _ => gate (singleton (opaqueEntry_stands _ _))
  openRecord := fun _ _ hfields =>
    gate ((keptByLayout _).fields fun field hfield => (hfields field hfield).of_merge)
  typeChoice := fun _ => unionChoice _ _
  union := fun {condition _ info members _ _} _ hothers harms =>
    (unionChoice info members).append ((keptByLayout condition).members
      (fun member hmember hflat => (hothers member hmember hflat).of_merge)
      fun member hmember hexpands field hfield =>
        (harms member hmember hexpands field hfield).of_merge)
  map := gate (singleton (mapEntry_stands _ _ _))
  array := gate (singleton (arrayEntry_stands _ _ _))

end EnclosedBy

/-- Each group of a rendered form asks only what all entries inside it ask. -/
theorem GroupsEnclose.renderForm {ctx : FormContext} {params : List ParamNode}
    {form : List Entry} (h : renderForm ctx params = .ok form) : GroupsEnclose form := by
  obtain ⟨entries, rfl, hparams⟩ := (EnclosedBy.renderInvariant ctx).form_eq h
  have hempty : EnclosedBy .empty (params.flatMap entries) :=
    (EnclosedBy.keptByLayout .empty).flatMap fun param hparam =>
      (hparams param hparam).mono (List.nil_subset _)
  exact hempty.groups

/-! ## Forms -/

/-- A rendered form has the controls that a plain traversal of its parameters meets, each as often
and with the same clauses in the same order; and its groups hide none of them, as a group asks only
what all entries inside it ask. -/
theorem renderForm_perm_sites {ctx : FormContext} {params : List ParamNode} {form : List Entry}
    (h : renderForm ctx params = .ok form) :
    ((Entry.controls form).map fun entry => (entry.name, entry.condition.clauses)).Perm
        ((ParamNode.fieldSites ctx params).map fun site => (site.name, site.condition.clauses)) ∧
      ∀ title collapsed condition elements,
        .group title collapsed condition elements ∈ Entry.walkAll form →
          ∀ entry ∈ Entry.walkAll elements, condition.clauses ⊆ entry.condition.clauses := by
  constructor
  -- gathering and splicing only move controls about, and merges may be bracketed in any way
  · exact outline_renderForm_perm h
  -- a group has the condition under which its fields are gathered
  · exact GroupsEnclose.renderForm h

/-- A parameter that is a token or a record, and an optional record with a field of its own. -/
def credentialParams : List ParamNode :=
  let member (node : ParamNode) (label : String) :=
    node.asMember label (.when "authDataType" label)
  let text (value : String) : ParamNode := .simple (.plain "0" value true none) .string
  [.union (.plain "0" "auth" true none)
      [member (text "authString") "string",
        member (.record (.plain "1" "authBasic" true none) "Basic" "auth"
          [text "auth.user", text "auth.password"]) "Basic"],
    .record (.plain "1" "retry" false none) "Retry" "retry" [text "retry.interval"]]

theorem renderForm_perm_sites_credentials :
    ∃ form, renderForm ⟨true, true⟩ credentialParams = .ok form ∧
      ((Entry.controls form).map fun entry => (entry.name, entry.condition.clauses)).Perm
          ((ParamNode.fieldSites ⟨true, true⟩ credentialParams).map
            fun site => (site.name, site.condition.clauses)) ∧
        ∀ title collapsed condition elements,
          .group title collapsed condition elements ∈ Entry.walkAll form →
            ∀ entry ∈ Entry.walkAll elements, condition.clauses ⊆ entry.condition.clauses :=
  ⟨_, rfl, renderForm_perm_sites rfl⟩

end SignatureForms
