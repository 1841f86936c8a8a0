import SignatureForms.Proofs.Form.Visibility
import SignatureForms.Proofs.ParamTree.Leaves
import SignatureForms.Proofs.Wire.Agreement
import SignatureForms.Proofs.Wire.Numbering

/-!
# What a wire leaves out

A form asks for the fields of all records in a parameter tree. A wire numbers fields too, but it
goes on from a union only to the members that are records: what is below a union that is itself a
member of a union gets no number. This module compares both as multisets of nodes.

The module introduces:

* `ParamNode.inputs node` — the fields of records inside a node that are not unfolded themselves;
* `ParamNode.hidden node` — those of them that a wire does not reach;
* `fieldValues scope params ds` — the values that are declared as fields of the parameters.

## Main results

* `numbered_append_hidden_perm`: what a node numbers and what it hides are its inputs together;
* `hiddenAll_eq_nil_iff`: nothing is hidden just if no member of a union is a union with inputs;
* `wire_fieldValues_iff`: the wire of classified parameters has the values of all inputs just then,
  and a form asks for all of them.
-/

namespace SignatureForms

/-! ## Inputs -/

namespace ParamNode

/-- The fields of records inside several nodes, at any depth, that are no unfolded records
themselves. -/
def inputsAll (nodes : List ParamNode) : List ParamNode :=
  ((walkAll nodes).flatMap fields).filter fun node => !node.expands true

/-- The fields of records inside a node, at any depth, that are no unfolded records themselves. -/
def inputs (node : ParamNode) : List ParamNode :=
  (node.walk.flatMap fields).filter fun node => !node.expands true

mutual

/-- The inputs of a node that a wire does not reach. -/
def hidden : ParamNode → List ParamNode
  | record _ _ _ fields => hiddenAll fields
  | union _ members => hiddenArms members
  | simple .. => []
  | map .. => []
  | array .. => []

/-- The inputs of several nodes that a wire does not reach. -/
def hiddenAll : List ParamNode → List ParamNode
  | [] => []
  | node :: rest => hidden node ++ hiddenAll rest

/-- The inputs of the members of a union that a wire does not reach: it goes on to no unions. -/
def hiddenArms : List ParamNode → List ParamNode
  | [] => []
  | member :: rest => (if member.isUnion then member.inputs else hidden member) ++ hiddenArms rest

end

theorem inputsAll_cons (node : ParamNode) (rest : List ParamNode) :
    inputsAll (node :: rest) = node.inputs ++ inputsAll rest := by
  rw [inputsAll, walkAll, List.flatMap_append, List.filter_append]
  rfl

/-- The inputs inside several nodes are those inside each of them. -/
theorem mem_inputsAll {nodes : List ParamNode} {input : ParamNode} :
    input ∈ inputsAll nodes ↔ ∃ node ∈ nodes, input ∈ node.inputs := by
  induction nodes with
  | nil => simp [inputsAll, walkAll]
  | cons node rest ih => simp [inputsAll_cons, ih]

theorem inputs_record (info : NodeInfo) (recordName parentPath : String)
    (fields : List ParamNode) :
    (record info recordName parentPath fields).inputs =
      (fields.filter fun field => !field.expands true) ++ inputsAll fields := by
  rw [inputs, walk, List.flatMap_cons, List.filter_append]
  rfl

theorem inputs_union (info : NodeInfo) (members : List ParamNode) :
    (union info members).inputs = inputsAll members := rfl

end ParamNode

/-! ## Numbered and hidden nodes -/

/-- The inner two of four lists may change places, up to order. -/
theorem append_append_perm {α : Type} (a b c d : List α) :
    ((a ++ b) ++ (c ++ d)).Perm ((a ++ c) ++ (b ++ d)) := by
  rw [List.append_assoc, List.append_assoc]
  exact (List.perm_append_comm_assoc b c d).append_left a

mutual

/-- What a field numbers and what it hides are its inputs together, and the field itself if it is
no unfolded record. -/
theorem numbered_append_hidden_perm (tag : Option String) : ∀ node : ParamNode,
    ((node.numbered true tag).map FieldNode.node ++ node.hidden).Perm
      (([node].filter fun node => !node.expands true) ++ node.inputs)
  | .record info recordName parentPath fields => by
    rw [ParamNode.numbered, ParamNode.hidden, ParamNode.inputs_record]
    cases hempty : fields.isEmpty with
    | true =>
      rw [List.isEmpty_iff.1 hempty]
      exact .refl _
    | false =>
      -- a record that is unfolded stands for its fields on both sides
      rw [if_pos (by rfl), List.filter_singleton, ParamNode.expands, hempty]
      exact numberedAll_append_hiddenAll_perm tag fields
  | .union info members => by
    rw [ParamNode.numbered, if_pos rfl, ParamNode.hidden, ParamNode.inputs_union]
    exact (numberedArms_append_hiddenArms_perm members 0).cons _
  | .simple .. | .map .. | .array .. => .refl _

/-- What several fields number and what they hide are their inputs together, and those of them that
are no unfolded records. -/
theorem numberedAll_append_hiddenAll_perm (tag : Option String) : ∀ nodes : List ParamNode,
    ((ParamNode.numberedAll true tag nodes).map FieldNode.node ++ ParamNode.hiddenAll nodes).Perm
      ((nodes.filter fun node => !node.expands true) ++ ParamNode.inputsAll nodes)
  | [] => .refl _
  | node :: rest => by
    rw [ParamNode.numberedAll, ParamNode.hiddenAll, ParamNode.inputsAll_cons, List.map_append,
      ← List.singleton_append, List.filter_append]
    refine (append_append_perm _ _ _ _).trans (.trans ?_ (append_append_perm _ _ _ _))
    exact (numbered_append_hidden_perm tag node).append
      (numberedAll_append_hiddenAll_perm tag rest)

/-- What the record members of a union number and what all members hide are the inputs of the
members together. -/
theorem numberedArms_append_hiddenArms_perm : ∀ (members : List ParamNode) (position : Nat),
    ((ParamNode.numberedArms members position).map FieldNode.node ++
      ParamNode.hiddenArms members).Perm (ParamNode.inputsAll members)
  | [], _ => .refl _
  | .record info recordName parentPath fields :: rest, position => by
    rw [ParamNode.numberedArms, ParamNode.hiddenArms, ParamNode.inputsAll_cons, List.map_append,
      ParamNode.inputs_record]
    refine (append_append_perm _ _ _ _).trans ?_
    exact (numberedAll_append_hiddenAll_perm _ fields).append
      (numberedArms_append_hiddenArms_perm rest (position + 1))
  | .union info members :: rest, position => by
    rw [ParamNode.hiddenArms, ParamNode.inputsAll_cons]
    -- a union among the members numbers nothing, so all its inputs are hidden
    refine (List.perm_append_comm_assoc _ _ _).trans (.append_left _ ?_)
    exact numberedArms_append_hiddenArms_perm rest (position + 1)
  | .simple .. :: rest, position | .map .. :: rest, position | .array .. :: rest, position =>
    numberedArms_append_hiddenArms_perm rest (position + 1)

end

/-- What a parameter numbers in its scope and what it hides are its inputs together. -/
theorem inside_append_hidden_perm (node : ParamNode) :
    ((node.inside true).map FieldNode.node ++ node.hidden).Perm node.inputs := by
  cases node with
  | record info recordName parentPath fields =>
    rw [ParamNode.inputs_record]
    cases fields with
    | nil => exact .refl _
    | cons field rest => exact numberedAll_append_hiddenAll_perm none (field :: rest)
  | union info members => exact numberedArms_append_hiddenArms_perm members 0
  | _ => exact .refl _

/-! ## When nothing is hidden -/

namespace ParamNode

mutual

/-- The walk of a node holds the walks of all nodes in it. -/
theorem walk_subset_walk {node : ParamNode} : ∀ {tree : ParamNode}, node ∈ tree.walk →
    node.walk ⊆ tree.walk
  | .record info recordName parentPath fields => fun h => by
    rw [walk, List.mem_cons] at h
    rcases h with rfl | h
    · exact List.Subset.refl _
    · exact List.Subset.trans (walk_subset_walkAll h) (List.subset_cons_self _ _)
  | .union info members => fun h => by
    rw [walk, List.mem_cons] at h
    rcases h with rfl | h
    · exact List.Subset.refl _
    · exact List.Subset.trans (walk_subset_walkAll h) (List.subset_cons_self _ _)
  | .simple .. | .map .. | .array .. => fun h => by
    rw [List.mem_singleton.1 h]
    exact List.Subset.refl _

/-- The walk of several nodes holds the walks of all nodes in them. -/
theorem walk_subset_walkAll {node : ParamNode} : ∀ {trees : List ParamNode},
    node ∈ walkAll trees → node.walk ⊆ walkAll trees
  | [] => nofun
  | tree :: rest => fun h => by
    rw [walkAll, List.mem_append] at h
    rcases h with h | h
    · exact List.Subset.trans (walk_subset_walk h) (List.subset_append_left _ _)
    · exact List.Subset.trans (walk_subset_walkAll h) (List.subset_append_right _ _)

end

/-- A node in a tree has no inputs that the tree does not have. -/
theorem inputs_subset_inputs {node tree : ParamNode} (h : node ∈ tree.walk) :
    node.inputs ⊆ tree.inputs := by
  intro input hinput
  rw [inputs, List.mem_filter, List.mem_flatMap] at hinput ⊢
  obtain ⟨⟨owner, howner, hfield⟩, hclosed⟩ := hinput
  exact ⟨⟨owner, walk_subset_walk h howner, hfield⟩, hclosed⟩

/-- A node is in its own walk. -/
theorem mem_walk_self (node : ParamNode) : node ∈ node.walk := by
  cases node <;> exact List.mem_cons_self

/-- Nodes are in their own walk. -/
theorem subset_walkAll (nodes : List ParamNode) : nodes ⊆ walkAll nodes := by
  induction nodes with
  | nil => exact List.nil_subset _
  | cons node rest ih =>
    rw [walkAll, List.cons_subset]
    exact ⟨List.mem_append_left _ (mem_walk_self node),
      List.Subset.trans ih (List.subset_append_right _ _)⟩

/-- Among the nodes there is no union a member of which is a union with inputs inside. -/
def UnionsApart (nodes : List ParamNode) : Prop :=
  ∀ info members, union info members ∈ nodes →
    ∀ member ∈ members, member.isUnion = true → member.inputs = []

theorem unionsApart_append {nodes more : List ParamNode} :
    UnionsApart (nodes ++ more) ↔ UnionsApart nodes ∧ UnionsApart more := by
  simp only [UnionsApart, List.mem_append, or_imp, forall_and]

/-- Below a node without inputs there is nothing to keep apart. -/
theorem unionsApart_walk_of_inputs_eq_nil {node : ParamNode} (h : node.inputs = []) :
    UnionsApart node.walk := by
  intro info members hunion member hmember _
  have hin : member ∈ node.walk :=
    walk_subset_walk hunion (List.mem_cons_of_mem _ (subset_walkAll members hmember))
  exact List.subset_nil.1 (h ▸ inputs_subset_inputs hin)

mutual

/-- Nothing of a node is hidden just if in it no member of a union is a union with inputs. -/
theorem hidden_eq_nil_iff : ∀ node : ParamNode, node.hidden = [] ↔ UnionsApart node.walk
  | .record info recordName parentPath fields => by
    rw [hidden, hiddenAll_eq_nil_iff fields, walk]
    simp [UnionsApart]
  | .union info members => by
    rw [hidden, hiddenArms_eq_nil_iff members, walk]
    simp [UnionsApart, or_imp, forall_and]
  | .simple .. | .map .. | .array .. => by simp [hidden, walk, UnionsApart]

/-- Nothing of several nodes is hidden just if nothing of each is. -/
theorem hiddenAll_eq_nil_iff : ∀ nodes : List ParamNode,
    hiddenAll nodes = [] ↔ UnionsApart (walkAll nodes)
  | [] => by simp [hiddenAll, walkAll, UnionsApart]
  | node :: rest => by
    rw [hiddenAll, walkAll, List.append_eq_nil_iff, unionsApart_append, hidden_eq_nil_iff node,
      hiddenAll_eq_nil_iff rest]

/-- Nothing of the members of a union is hidden just if no union among them has inputs and nothing
in them is hidden. -/
theorem hiddenArms_eq_nil_iff : ∀ members : List ParamNode, hiddenArms members = [] ↔
    (∀ member ∈ members, member.isUnion = true → member.inputs = []) ∧
      UnionsApart (walkAll members)
  | [] => by simp [hiddenArms, walkAll, UnionsApart]
  | member :: rest => by
    rw [hiddenArms, walkAll, List.append_eq_nil_iff, unionsApart_append, List.forall_mem_cons,
      hiddenArms_eq_nil_iff rest]
    cases hunion : member.isUnion with
    | true =>
      -- a union without inputs hides nothing, though the wire does not go on to it
      have hbelow := @unionsApart_walk_of_inputs_eq_nil member
      simp only [if_true, true_implies]
      tauto
    | false =>
      rw [if_neg Bool.false_ne_true, hidden_eq_nil_iff member]
      simp only [Bool.false_eq_true, false_implies, true_and]
      tauto

end

end ParamNode

/-! ## Values of fields -/

section Values

variable {scope : String} {params : List ParamNode}

/-- The name is that under which the value of a field of one of the parameters is declared. -/
def namesFieldValue (scope : String) (params : List ParamNode) (name : String) : Bool :=
  params.any fun node => (keyNumber? (node.fieldScope scope) "param" name).isSome

/-- The values that are declared as fields of the parameters. -/
def fieldValues (scope : String) (params : List ParamNode) (ds : List Declaration) :
    List String :=
  (ds.filter fun d => namesFieldValue scope params d.name).map Declaration.value

/-- Of the keys of a wire, those of values in the scopes of fields name them. -/
theorem namesFieldValue_text {key : WireKey} (hkey : key.IsWire) :
    namesFieldValue scope params key.text = true ↔
      ∃ node ∈ params, ∃ number, key = .numbered (node.fieldScope scope) "param" number := by
  have hplain (node : ParamNode) (number : Nat) :
      (WireKey.numbered (node.fieldScope scope) "param" number).IsPlain := by
    show IsPlainWord "param"
    decide
  simp only [namesFieldValue, List.any_eq_true, Option.isSome_iff_exists, keyNumber?_eq_some_iff]
  constructor
  · rintro ⟨node, hnode, number, htext⟩
    exact ⟨node, hnode, number, (WireKey.text_inj hkey.isPlain (hplain node number)).1 htext⟩
  · rintro ⟨node, hnode, number, rfl⟩
    exact ⟨node, hnode, number, rfl⟩

/-- What a parameter declares of itself is no value of a field. -/
theorem namesFieldValue_of_mem_headDeclarations {node : ParamNode} {expandRecords : Bool}
    {index : Nat} {d : Declaration} (h : d ∈ node.headDeclarations scope expandRecords index) :
    namesFieldValue scope params d.name = false := by
  obtain ⟨key, hkey, htext⟩ :=
    exists_key_of_mem (node.map_name_headDeclarations scope expandRecords index) h
  obtain ⟨hscope, -, hwire⟩ := scope_of_mem_headKeys hkey
  rw [← htext, Bool.eq_false_iff]
  intro hnames
  obtain ⟨owner, -, number, rfl⟩ := (namesFieldValue_text hwire).1 hnames
  exact fieldScope_ne scope owner hscope

/-- Each field in the scope of a parameter declares its value once. -/
theorem filter_declarations {node : ParamNode} (hnode : node ∈ params) (field : WireField)
    (index : Nat) :
    ((field.declarations (node.fieldScope scope) index).filter fun d =>
        namesFieldValue scope params d.name).map Declaration.value = [field.value] := by
  have hvalue : namesFieldValue scope params
      (numberedKey (node.fieldScope scope) "param" index) = true := by
    have hwire : (WireKey.numbered (node.fieldScope scope) "param" index).IsWire := by
      show "param" ∈ wireWords
      decide
    exact (namesFieldValue_text hwire).2 ⟨node, hnode, index, rfl⟩
  have hother (word : String) (hword : word ∈ wireWords ∧ word ≠ "param") :
      namesFieldValue scope params (numberedKey (node.fieldScope scope) word index) = false := by
    have hwire : (WireKey.numbered (node.fieldScope scope) word index).IsWire := hword.1
    rw [Bool.eq_false_iff]
    intro hnames
    obtain ⟨owner, -, number, hkey⟩ := (namesFieldValue_text hwire).1 hnames
    exact hword.2 (WireKey.numbered.inj hkey).2.1
  unfold WireField.declarations
  cases field.discriminator <;> cases field.unionMember <;>
    simp [hvalue, hother "paramType" (by decide), hother "dataType" (by decide),
      hother "unionMember" (by decide)]

/-- Where the numbers do not matter, a list with its numbers may be taken for the list. -/
theorem flatMap_zipIdx {α β : Type} {xs : List α} {start : Nat} {f : α × Nat → List β}
    (g : α → List β) (h : ∀ x ∈ xs.zipIdx start, f x = g x.1) :
    (xs.zipIdx start).flatMap f = xs.flatMap g := by
  rw [List.flatMap_congr h, ← List.flatMap_map Prod.fst g, List.zipIdx_map_fst]

/-- A parameter declares the values of the nodes that it numbers. -/
theorem filter_parameterDeclarations {node : ParamNode} (hnode : node ∈ params) (index : Nat) :
    ((node.declarations scope true index).filter fun d =>
        namesFieldValue scope params d.name).map Declaration.value =
      (node.inside true).map fun entry => entry.node.value := by
  have hhead : (node.headDeclarations scope true index).filter (fun d =>
      namesFieldValue scope params d.name) = [] := by
    rw [List.filter_eq_nil_iff]
    exact fun d hd => by simp [namesFieldValue_of_mem_headDeclarations hd]
  rw [ParamNode.declarations, List.filter_append, hhead, List.nil_append, fieldDeclarations,
    List.filter_flatMap, List.map_flatMap,
    flatMap_zipIdx (fun field => [field.value])
      fun field _ => filter_declarations hnode field.1 field.2,
    ← List.map_eq_flatMap, List.map_map]
  rfl

/-- The values of the fields of a wire are those of the nodes that its parameters number. -/
theorem fieldValues_of_wire {ds : List Declaration} (h : wire params scope true = .ok ds) :
    fieldValues scope params ds =
      params.flatMap fun node => (node.inside true).map fun entry => entry.node.value := by
  obtain ⟨-, rfl⟩ := wire_eq_ok_iff.1 h
  rw [fieldValues, List.filter_flatMap, List.map_flatMap]
  exact flatMap_zipIdx (fun node => (node.inside true).map fun entry => entry.node.value)
    fun node hnode => filter_parameterDeclarations (List.fst_mem_of_mem_zipIdx hnode) node.2

/-- The values of the fields of a wire and those that are hidden are the values of all inputs. -/
theorem fieldValues_append_hidden_perm {ds : List Declaration}
    (h : wire params scope true = .ok ds) :
    (fieldValues scope params ds ++ (ParamNode.hiddenAll params).map ParamNode.value).Perm
      ((ParamNode.inputsAll params).map ParamNode.value) := by
  have hnodes : ((params.flatMap fun node => (node.inside true).map FieldNode.node) ++
      ParamNode.hiddenAll params).Perm (ParamNode.inputsAll params) := by
    clear h
    induction params with
    | nil => exact .refl _
    | cons node rest ih =>
      rw [List.flatMap_cons, ParamNode.hiddenAll, ParamNode.inputsAll_cons]
      exact (append_append_perm _ _ _ _).trans ((inside_append_hidden_perm node).append ih)
  have hvalues := hnodes.map ParamNode.value
  rw [List.map_append, List.map_flatMap] at hvalues
  simp only [List.map_map] at hvalues
  rw [fieldValues_of_wire h]
  exact hvalues

end Values

/-! ## Inputs of a form -/

section Forms

variable {types : TypeGraph} {ctx : FormContext}

/-- The fields of a record that is unfolded have their sites in it. -/
theorem map_name_fieldSites_subset {node : ParamNode} (h : node.expands ctx.expandRecords = true) :
    (ParamNode.fieldSites ctx node.fields).map Site.name ⊆
      (ParamNode.sites ctx node).map Site.name := by
  obtain ⟨hopen, info, recordName, parentPath, fields, hfull, rfl⟩ := ParamNode.exists_of_expands h
  have hsome : fields.isEmpty = false := by simpa using hfull
  rw [ParamNode.sites, if_pos hopen, hsome, if_neg Bool.false_ne_true, Site.gated]
  split
  · rw [List.map_cons, Site.map_name_below]
    exact List.subset_cons_self _ _
  · exact List.Subset.refl _

/-- The sites of several nodes are there if those of one of them are. -/
theorem map_name_subset_fieldSites {nodes : List ParamNode} {node : ParamNode} (h : node ∈ nodes) :
    (ParamNode.sites ctx node).map Site.name ⊆ (ParamNode.fieldSites ctx nodes).map Site.name := by
  rw [ParamNode.map_name_fieldSites]
  exact fun name hname => List.mem_flatMap.2 ⟨node, h, hname⟩

/-- What stands for a node among its siblings: the sites of its fields if it is an unfolded record,
as it is in a union, and else its own. -/
def ParamNode.innerSites (ctx : FormContext) (node : ParamNode) : List Site :=
  if node.expands ctx.expandRecords then fieldSites ctx node.fields else sites ctx node

theorem map_name_innerSites_subset (node : ParamNode) :
    (node.innerSites ctx).map Site.name ⊆ (ParamNode.sites ctx node).map Site.name := by
  rw [ParamNode.innerSites]
  split
  · next hexpands => exact map_name_fieldSites_subset hexpands
  · exact List.Subset.refl _

/-- The inputs inside an offerable node have their sites in it, where records are unfolded. -/
theorem Offerable.sites_of_mem_inputs {node : ParamNode} (h : Offerable types node)
    (hctx : ctx.expandRecords = true) :
    ∀ input ∈ node.inputs, (ParamNode.sites ctx input).map Site.name ⊆
      (node.innerSites ctx).map Site.name := by
  induction h with
  | simple | map | array => nofun
  | @record info recordName parentPath fields hfields ih =>
    intro input hinput
    -- a record with an input is not empty, so that it is expanded
    have hfull : fields ≠ [] := by
      rintro rfl
      cases hinput
    have hexpands : (ParamNode.record info recordName parentPath fields).expands
        ctx.expandRecords = true := by
      simp [ParamNode.expands, hctx, hfull]
    rw [ParamNode.innerSites, if_pos hexpands]
    rw [ParamNode.inputs_record, List.mem_append] at hinput
    -- an input is a field itself or an input of one
    rcases hinput with hfield | hbelow
    · exact map_name_subset_fieldSites (List.mem_filter.1 hfield).1
    · obtain ⟨field, hfield, hmem⟩ := ParamNode.mem_inputsAll.1 hbelow
      exact List.Subset.trans (ih field hfield input hmem) (List.Subset.trans
        (map_name_innerSites_subset field) (map_name_subset_fieldSites hfield))
  | typeChoice htype hmembers =>
    intro input hinput
    obtain ⟨member, hmember, hmem⟩ := ParamNode.mem_inputsAll.1 hinput
    obtain ⟨place, kind, rfl⟩ := hmembers member hmember
    cases hmem
  | @union info members hplain hmembers ih =>
    intro input hinput name hname
    obtain ⟨member, hmember, hmem⟩ := ParamNode.mem_inputsAll.1 hinput
    have hinner : name ∈ (ParamNode.memberSites ctx (hasSingleMember members) members).map
        Site.name := by
      rw [ParamNode.map_name_memberSites]
      exact List.mem_flatMap.2 ⟨member, hmember, ih member hmember input hmem hname⟩
    -- the sites of the members stand behind those of the choice
    have hclosed : (ParamNode.union info members).expands ctx.expandRecords = false := rfl
    rw [ParamNode.innerSites, hclosed, if_neg Bool.false_ne_true, ParamNode.sites, hplain,
      if_neg Bool.false_ne_true, List.map_append]
    exact List.mem_append_right _ hinner

/-- A form of classified parameters asks for all inputs, where records are unfolded. -/
theorem mem_namesAll_of_mem_inputsAll {sources : List ParamSource} {params : List ParamNode}
    (hparams : List.Forall₂ ParamSource.Gives sources params) (hctx : ctx.expandRecords = true)
    {form : List Entry} (hform : renderForm ctx params = .ok form) :
    ∀ input ∈ ParamNode.inputsAll params, ∀ site ∈ ParamNode.sites ctx input,
      site.name ∈ Entry.namesAll form := by
  intro input hinput site hsite
  obtain ⟨param, hparam, hmem⟩ := ParamNode.mem_inputsAll.1 hinput
  obtain ⟨source, -, hgives⟩ := exists_source_of_mem hparams hparam
  have hoffered := offerable_of_classifyParameter hgives
  rw [mem_namesAll_renderForm hform]
  exact map_name_subset_fieldSites hparam (map_name_innerSites_subset param
    (hoffered.sites_of_mem_inputs hctx input hmem (List.mem_map_of_mem hsite)))

end Forms

/-! ## Completeness -/

/-- Among the values of the fields of a wire are only values of inputs. All are there just if no
member of a union is itself a union with inputs inside; what is missing is what such unions hide.
A form of classified parameters asks for all inputs. -/
theorem wire_fieldValues_iff {sources : List ParamSource} {params : List ParamNode}
    (hparams : List.Forall₂ ParamSource.Gives sources params) {scope : String}
    {ds : List Declaration} (hwire : wire params scope true = .ok ds) {inConnection : Bool}
    {form : List Entry} (hform : renderForm ⟨true, inConnection⟩ params = .ok form) :
    (fieldValues scope params ds).Subperm ((ParamNode.inputsAll params).map ParamNode.value) ∧
      ((fieldValues scope params ds).Perm ((ParamNode.inputsAll params).map ParamNode.value) ↔
        ∀ info members, .union info members ∈ ParamNode.walkAll params →
          ∀ member ∈ members, member.isUnion = true → member.inputs = []) ∧
      ∀ input ∈ ParamNode.inputsAll params, ∀ site ∈ ParamNode.sites ⟨true, inConnection⟩ input,
        site.name ∈ Entry.namesAll form := by
  have hvalues := fieldValues_append_hidden_perm hwire
  refine ⟨(List.sublist_append_left _ _).subperm.trans hvalues.subperm, ?_,
    mem_namesAll_of_mem_inputsAll hparams rfl hform⟩
  rw [← ParamNode.UnionsApart, ← ParamNode.hiddenAll_eq_nil_iff]
  constructor
  · intro hperm
    -- both have the same length, so that there is no room for hidden values
    have hlength := hvalues.length_eq
    rw [List.length_append, hperm.length_eq, List.length_map] at hlength
    exact List.eq_nil_of_length_eq_zero (by simpa using hlength)
  · intro hnone
    rw [hnone, List.map_nil, List.append_nil] at hvalues
    exact hvalues

theorem wire_fieldValues_iff_signIn :
    ∃ param ds form, signInSource.Gives param ∧ wire [param] "" true = .ok ds ∧
      renderForm ⟨true, false⟩ [param] = .ok form ∧
      (fieldValues "" [param] ds).Perm ((ParamNode.inputsAll [param]).map ParamNode.value) := by
  obtain ⟨param, ds, form, hparam, hwire, hform, hapart⟩ : ∃ param ds form,
      signInSource.Gives param ∧ wire [param] "" true = .ok ds ∧
        renderForm ⟨true, false⟩ [param] = .ok form ∧ ParamNode.hiddenAll [param] = [] :=
    ⟨_, _, _, rfl, rfl, rfl, rfl⟩
  obtain ⟨-, hcomplete, -⟩ := wire_fieldValues_iff (.cons hparam .nil) hwire hform
  exact ⟨param, ds, form, hparam, hwire, hform,
    hcomplete.2 ((ParamNode.hiddenAll_eq_nil_iff _).1 hapart)⟩

/-- A parameter that is text or one of two things, the second of which is a record. -/
def originSource : ParamSource where
  types := {
    descriptors := #[
      { TypeDescriptor.ofKind .union none with members := [1, 2] },
      TypeDescriptor.ofKind .string none,
      { TypeDescriptor.ofKind .union (some "Place") with members := [3, 4] },
      TypeDescriptor.ofKind .int none,
      { TypeDescriptor.ofKind .record (some "Address") with
        fields := [⟨"city", 1, false, false, none⟩] }] }
  parameter := { name := "origin", type := 0, doc := none, defaultable := false, default := none }
  position := 0
  fieldBudget := 5

/-- A form asks for a field of a record that no wire declares. -/
theorem wire_fieldValues_origin :
    ∃ param ds form, originSource.Gives param ∧ wire [param] "" true = .ok ds ∧
      renderForm ⟨true, false⟩ [param] = .ok form ∧ fieldValues "" [param] ds = [] ∧
      (ParamNode.inputsAll [param]).map ParamNode.value = ["originPlace.city"] ∧
      "originPlace_city" ∈ Entry.namesAll form :=
  ⟨_, _, _, rfl, rfl, rfl, by decide +kernel, rfl, by decide +kernel⟩

end SignatureForms
