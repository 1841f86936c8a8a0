import SignatureForms.Proofs.Form.Visibility

/-!
# Composites behind check boxes

In a connection an optional record, map or array stands behind a check box, which all of its
content asks to be set. This module shows which composites have one, and that the demand gets
through groups, inner check boxes and choices to everything in the content.

The module introduces:

* `SwitchedBy name entries` — the first of the entries is the check box for `name`, and all others
  and all inside them ask that it is set.

## Main results

* `renderForm_switched`: each optional composite of a form is switched by its check box, but for a
  record that is not unfolded; `not_switchedBy_closedProxy` is such a record.
-/

namespace SignatureForms

/-- The node is a record, a map or an array that may be left out. -/
def ParamNode.isOptionalComposite : ParamNode → Bool
  | record info .. | map info _ | array info _ => !info.required
  | simple .. | union .. => false

theorem ParamNode.required_of_isOptionalComposite {node : ParamNode}
    (h : node.isOptionalComposite = true) : node.info.required = false := by
  cases node with
  | simple | union => cases h
  | _ => simpa [isOptionalComposite, info] using h

/-- The node is a record. -/
def ParamNode.isRecord : ParamNode → Bool
  | record .. => true
  | _ => false

/-- The clause that the check box for a name is set. -/
def switchClause (name : String) : Clause := ⟨"enable_" ++ name, "true"⟩

/-- The first entry is the check box for a name, and all others and all inside them ask that it is
set. Columns of tables ask nothing of their own: they are shown whenever their table is. -/
def SwitchedBy (name : String) (entries : List Entry) : Prop :=
  ∃ toggle content, entries = .input toggle :: content ∧ toggle.IsToggle ∧
    toggle.name = (switchClause name).key ∧
    ∀ entry ∈ Entry.walkAll content, switchClause name ∈ entry.condition.clauses

section Gate

variable {ctx : FormContext} {info : NodeInfo} {condition : Condition} {content : List Entry}

/-- In a connection the content of an optional composite is switched by the check box ahead
of it. -/
theorem switchedBy_gate (hconfig : ctx.configContext = true) (hoptional : info.required = false)
    (h : EnclosedBy (gate ctx info condition).2 content) :
    SwitchedBy info.name ((gate ctx info condition).1 ++ content) := by
  have hgated : (ctx.configContext && !info.required) = true := by
    rw [hconfig, hoptional]
    rfl
  rw [gate, if_pos hgated] at h ⊢
  refine ⟨_, content, rfl, ⟨rfl, rfl, info.name, rfl⟩, rfl, fun entry hentry => ?_⟩
  exact h.subset entry hentry (Condition.mem_merge.2 (.inr (Condition.mem_when.2 rfl)))

/-- A text field is no check box. -/
theorem not_switchedBy_opaqueEntry (name help pattern : String) :
    ¬ SwitchedBy name [opaqueEntry info condition help pattern] := by
  rintro ⟨toggle, content, heq, ⟨htype, -⟩, -⟩
  cases heq
  cases htype

end Gate

/-- The entries of a node ask what its condition asks, and an optional composite is switched by its
check box just if it is no record or records are unfolded. -/
structure SwitchedNode (ctx : FormContext) (condition : Condition) (_group : Option String)
    (node : ParamNode) (entries : List Entry) : Prop where
  /-- The entries ask what the condition asks. -/
  enclosed : EnclosedBy condition entries
  /-- Optional composites but for closed records have their check boxes. -/
  switched : node.isOptionalComposite = true →
    (SwitchedBy node.name entries ↔ ctx.expandRecords = true ∨ node.isRecord = false)

namespace SwitchedNode

variable {ctx : FormContext} {condition : Condition} {group : Option String} {node : ParamNode}

/-- Content that asks what the gate of a composite asks is switched by its check box. -/
theorem of_gate {content : List Entry} (hconfig : ctx.configContext = true)
    (hkind : ctx.expandRecords = true ∨ node.isRecord = false)
    (h : EnclosedBy (gate ctx node.info condition).2 content) :
    SwitchedNode ctx condition group node ((gate ctx node.info condition).1 ++ content) where
  enclosed := h.gate
  switched := fun hcomposite =>
    iff_of_true (switchedBy_gate hconfig (ParamNode.required_of_isOptionalComposite hcomposite) h)
      hkind

/-- Leaves and choices have no check boxes of their own. -/
theorem of_plain {entries : List Entry} (hplain : node.isOptionalComposite = false)
    (h : EnclosedBy condition entries) : SwitchedNode ctx condition group node entries where
  enclosed := h
  switched := fun hcomposite => by
    rw [hplain] at hcomposite
    cases hcomposite

/-- In a connection being switched is kept by each way of rendering a node. -/
theorem renderInvariant (hconfig : ctx.configContext = true) :
    RenderInvariant ctx (SwitchedNode ctx) where
  leaf := fun _ hentry => of_plain rfl (.singleton (leafEntry_stands hentry))
  -- a record that is not unfolded becomes a text field at once, whether it is optional or not
  closedRecord := fun hclosed => by
    refine ⟨.singleton (opaqueEntry_stands _ _), fun _ => iff_of_false ?_ ?_⟩
    · exact not_switchedBy_opaqueEntry _ _ _
    · rw [hclosed]
      simp [ParamNode.isRecord]
  emptyRecord := fun hopen => of_gate hconfig (.inl hopen) (.singleton (opaqueEntry_stands _ _))
  openRecord := fun hopen _ hfields =>
    of_gate hconfig (.inl hopen) ((EnclosedBy.keptByLayout _).fields fun field hfield =>
      (hfields field hfield).enclosed.of_merge)
  typeChoice := fun _ => of_plain rfl (.unionChoice _ _)
  union := fun {condition _ info members _ _} _ hothers harms =>
    of_plain rfl ((EnclosedBy.unionChoice info members).append
      ((EnclosedBy.keptByLayout condition).members
        (fun member hmember hflat => (hothers member hmember hflat).enclosed.of_merge)
        fun member hmember hexpands field hfield =>
          (harms member hmember hexpands field hfield).enclosed.of_merge))
  map := of_gate hconfig (.inr rfl) (.singleton (mapEntry_stands _ _ _))
  array := of_gate hconfig (.inr rfl) (.singleton (arrayEntry_stands _ _ _))

end SwitchedNode

/-- The form of one parameter has its entries. -/
theorem renderForm_singleton (ctx : FormContext) (param : ParamNode) :
    renderForm ctx [param] = renderNode ctx param.condition none param := by
  rw [renderForm, renderForm]
  cases renderNode ctx param.condition none param with
  | error fault => rfl
  | ok entries => exact congrArg Except.ok (List.append_nil entries)

/-- A form of a connection consists of what each parameter contributes. For an optional record, map
or array this is a check box and entries that, with all inside them, ask that it is set; the only
exceptions are records while records are not unfolded, which have no check box. -/
theorem renderForm_switched {expandRecords : Bool} {params : List ParamNode} {form : List Entry}
    (hform : renderForm ⟨expandRecords, true⟩ params = .ok form) :
    ∃ parts : List (List Entry), form = parts.flatten ∧
      List.Forall₂ (fun param entries =>
        renderForm ⟨expandRecords, true⟩ [param] = .ok entries ∧
          (param.isOptionalComposite = true →
            (SwitchedBy param.name entries ↔ expandRecords = true ∨ param.isRecord = false)))
        params parts := by
  -- on the parameters: the first one contributes what it would by itself
  induction params generalizing form with
  | nil =>
    cases hform
    exact ⟨[], rfl, .nil⟩
  | cons param rest ih =>
    simp only [renderForm, bind_eq_ok_iff, pure_eq_ok_iff] at hform
    obtain ⟨first, hfirst, others, hothers, rfl⟩ := hform
    obtain ⟨parts, rfl, hparts⟩ := ih hothers
    have hswitched := ((SwitchedNode.renderInvariant rfl).holds param hfirst).switched
    refine ⟨first :: parts, rfl, .cons ⟨?_, hswitched⟩ hparts⟩
    rwa [renderForm_singleton]

/-- An optional record with one field, as it is classified. -/
def proxySource : ParamSource where
  types := {
    descriptors := #[
      { TypeDescriptor.ofKind .record (some "Proxy") with
        fields := [⟨"host", 1, false, false, none⟩] },
      TypeDescriptor.ofKind .string none] }
  parameter := { name := "proxy", type := 0, doc := none, defaultable := true, default := none }
  position := 0
  fieldBudget := 5

/-- With records unfolded, the proxy of `proxySource` has its check box. -/
theorem renderForm_switched_openProxy :
    ∃ param form, proxySource.Gives param ∧ param.isOptionalComposite = true ∧
      renderForm ⟨true, true⟩ [param] = .ok form ∧ SwitchedBy param.name form := by
  obtain ⟨param, form, hparam, hoptional, hform⟩ : ∃ param form, proxySource.Gives param ∧
      param.isOptionalComposite = true ∧ renderForm ⟨true, true⟩ [param] = .ok form :=
    ⟨_, _, rfl, rfl, rfl⟩
  obtain ⟨parts, rfl, hparts⟩ := renderForm_switched hform
  cases hparts with
  | cons hpart hnone =>
    cases hnone
    rw [List.flatten_singleton] at hform
    exact ⟨param, _, hparam, hoptional, hform, (hpart.2 hoptional).2 (.inl rfl)⟩

/-- With records entered as text, the proxy of `proxySource` has no check box: it is the only
control, and asks nothing. -/
theorem not_switchedBy_closedProxy :
    ∃ param form, proxySource.Gives param ∧ param.isOptionalComposite = true ∧
      renderForm ⟨false, true⟩ [param] = .ok form ∧ ¬ SwitchedBy param.name form ∧
        Entry.namesAll form = ["proxy"] ∧ ∀ entry ∈ form, entry.condition.clauses = [] :=
  ⟨_, _, rfl, rfl, rfl, not_switchedBy_opaqueEntry _ _ _, by decide,
    List.forall_mem_singleton.2 rfl⟩

end SignatureForms
