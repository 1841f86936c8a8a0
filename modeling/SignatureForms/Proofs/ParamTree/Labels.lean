import SignatureForms.Proofs.ParamTree.Derivation

/-!
# Labels and places of nodes

The members of a union are told apart by labels, of which none is empty. This module collects what
labels are, for the members of a union and for the options of a type descriptor, and which parts of
a node its slot decides.

The module introduces:

* `Slot.Places slot info` — a node with `info` stands in `slot`: it has the position and the value
  of the slot, and neither a condition nor a label;
* `FlatForm slot node` — the node is a leaf, a table or a choice of types in the slot.

## Main results

* `label_ne_empty_of_mem_unionCandidates`, `label_ne_empty_of_mem_typeOptions`: no label is empty;
* `flatForm_of_flatNode`: a node below which nothing is unfolded has one of these forms.
-/

namespace SignatureForms

/-! ## Texts that are not empty -/

theorem TypeDescriptor.ne_empty_of_nonEmpty? {s : Option String} {text : String}
    (h : nonEmpty? s = some text) : text ≠ "" := by
  unfold nonEmpty? at h
  split at h
  · next found =>
    split at h
    · cases h
    · next hfull =>
      cases h
      simpa using hfull
  · cases h

theorem TypeDescriptor.nonEmpty?_of_ne_empty {text : String} (h : text ≠ "") :
    nonEmpty? (some text) = some text := by
  have hfull : text.isEmpty = false := by simpa using h
  rw [nonEmpty?, hfull]
  rfl

theorem TypeDescriptor.displayName_ne_empty {d : TypeDescriptor} {name : String}
    (h : d.displayName = some name) : name ≠ "" := by
  unfold displayName at h
  split at h
  · next hname =>
    cases h
    exact ne_empty_of_nonEmpty? hname
  · exact ne_empty_of_nonEmpty? h

theorem append_toString_ne_empty {word : String} (hword : word ≠ "") (position : Nat) :
    word ++ toString position ≠ "" := by
  intro h
  rw [String.append_eq_empty_iff] at h
  exact hword h.1

/-- The word for a supported kind is not empty. -/
theorem Kind.name_ne_empty {kind : Kind} (h : kind.isSupported = true) : kind.name ≠ "" := by
  cases kind <;> first | decide | cases h

/-! ## Candidates of a union -/

/-- The label of a candidate of a supported kind is not empty. -/
theorem candidateLabel_ne_empty {d : TypeDescriptor} (h : d.kind.isSupported = true)
    (position : Nat) : candidateLabel d position ≠ "" := by
  unfold candidateLabel
  split
  · cases hname : TypeDescriptor.nonEmpty? d.name with
    | none => exact append_toString_ne_empty (by decide) position
    | some name => exact TypeDescriptor.ne_empty_of_nonEmpty? hname
  · cases hname : TypeDescriptor.nonEmpty? d.name with
    | none => exact append_toString_ne_empty (by decide) position
    | some name => exact TypeDescriptor.ne_empty_of_nonEmpty? hname
  · exact Kind.name_ne_empty h

/-- What holds of every candidate that a member of a supported kind makes holds of all
candidates. -/
theorem forall_mem_unionCandidates {types : TypeGraph} {P : Candidate → Prop}
    (hstep : ∀ member position, types.kind member ≠ .nil →
      (types.kind member).isSupported = true →
        P ⟨candidateLabel (types.descriptor member) position, types.kind member, member⟩)
    {members : List TypeId} {done : List Candidate} (hdone : ∀ c ∈ done, P c) :
    ∀ c ∈ unionCandidates types done members, P c := by
  induction members generalizing done with
  | nil => exact hdone
  | cons member rest ih =>
    rw [unionCandidates]
    split
    · exact ih hdone
    · next hkept =>
      simp only [Bool.or_eq_true, not_or, Bool.not_eq_true, Bool.not_eq_eq_eq_not, Bool.not_true,
        Bool.not_eq_false, beq_eq_false_iff_ne] at hkept
      refine ih fun c hc => ?_
      rcases List.mem_append.1 hc with hold | hnew
      · exact hdone c hold
      · rw [List.mem_singleton.1 hnew]
        exact hstep member done.length hkept.1.1 hkept.1.2

/-- No candidate has an empty label. -/
theorem label_ne_empty_of_mem_unionCandidates {types : TypeGraph} {members : List TypeId}
    {candidate : Candidate} (h : candidate ∈ unionCandidates types [] members) :
    candidate.label ≠ "" :=
  forall_mem_unionCandidates (P := fun c => c.label ≠ "")
    (fun _ position _ hsupported => candidateLabel_ne_empty hsupported position) (by simp) _ h

/-! ## Options of a type descriptor -/

/-- The label of an option is not empty. -/
theorem typeOption?_label_ne_empty {types : TypeGraph} {member : TypeId} {position : Nat}
    {option : String × Kind} (h : typeOption? types member position = some option) :
    option.1 ≠ "" := by
  simp only [typeOption?] at h
  split at h
  · cases h
    cases hname : (types.descriptor member).displayName with
    | none => exact append_toString_ne_empty (by decide) position
    | some name => exact TypeDescriptor.displayName_ne_empty hname
  · cases h
  · cases h
  · obtain ⟨kind, hkind, rfl⟩ := Option.map_eq_some_iff.1 h
    rw [Kind.supported?] at hkind
    split at hkind
    · next hsupported =>
      cases hkind
      exact Kind.name_ne_empty hsupported
    · cases hkind

/-- What holds of every option that a member makes holds of all options. -/
theorem forall_mem_typeOptions {types : TypeGraph} {P : String × Kind → Prop}
    (hstep : ∀ {member position option}, typeOption? types member position = some option →
      P option)
    {members : List TypeId} {done : List (String × Kind)} (hdone : ∀ option ∈ done, P option) :
    ∀ option ∈ typeOptions types done members, P option := by
  induction members generalizing done with
  | nil => exact hdone
  | cons member rest ih =>
    rw [typeOptions]
    split
    · exact ih hdone
    · next found hfound =>
      split
      · exact ih hdone
      · refine ih fun option hoption => ?_
        rcases List.mem_append.1 hoption with hold | hnew
        · exact hdone option hold
        · rw [List.mem_singleton.1 hnew]
          exact hstep hfound

/-- No option has an empty label. -/
theorem label_ne_empty_of_mem_typeOptions {types : TypeGraph} {members : List TypeId}
    {option : String × Kind} (h : option ∈ typeOptions types [] members) : option.1 ≠ "" :=
  forall_mem_typeOptions (P := fun option => option.1 ≠ "") typeOption?_label_ne_empty (by simp)
    option h

/-! ## Nodes below which nothing is unfolded -/

/-- A node with `info` stands in `slot`: it has the position and the value of the slot, and neither
a condition nor a label. -/
structure Slot.Places (slot : Slot) (info : NodeInfo) : Prop where
  /-- The position is that of the slot. -/
  index : info.index = toString slot.position
  /-- The value is that of the slot. -/
  value : info.value = slot.value
  /-- The node is visible whenever its parent is. -/
  condition : info.condition = .empty
  /-- The node is no member of a union yet. -/
  label : info.label = none

/-- The forms that a node takes in a slot when nothing below it is unfolded. -/
inductive FlatForm (slot : Slot) : ParamNode → Prop
  | leaf {info : NodeInfo} {kind : Kind} (hplace : slot.Places info) :
      FlatForm slot (.simple info kind)
  | map (shape : MapShape) : FlatForm slot (.map slot.info shape)
  | array (shape : ArrayShape) : FlatForm slot (.array slot.info shape)
  | typeChoice {info : NodeInfo} {place : Slot} {options : List (String × Kind)}
      (hplace : slot.Places info) (hvalue : place.value = slot.value)
      (hseveral : 1 < options.length) (hlabels : ∀ option ∈ options, option.1 ≠ "") :
      FlatForm slot (.union info
        (options.zipIdx.map fun (option, position) => typeMember place position option))

/-- A choice of types is a leaf if it has one option, and a union of leaves if it has more. -/
theorem flatForm_of_classifyTypeUnion {types : TypeGraph} {members : List TypeId} {slot : Slot}
    {node : ParamNode} (h : classifyTypeUnion types members slot = some node) :
    FlatForm slot node := by
  simp only [classifyTypeUnion] at h
  split at h
  · cases h
  · cases h
    exact .leaf ⟨rfl, rfl, rfl, rfl⟩
  · next hnone hsole =>
    cases h
    refine .typeChoice ⟨rfl, rfl, rfl, rfl⟩ rfl ?_ fun _ => label_ne_empty_of_mem_typeOptions
    match hoptions : typeOptions types [] members with
    | [] => exact absurd hoptions hnone
    | [(label, kind)] => exact absurd hoptions (hsole label kind)
    | _ :: _ :: _ => simp

/-- A node below which nothing is unfolded is a leaf, a map, an array or a choice of types. -/
theorem flatForm_of_flatNode {types : TypeGraph} {d : TypeDescriptor} {slot : Slot}
    {node : ParamNode} (h : flatNode types d slot = some node) : FlatForm slot node := by
  rw [flatNode] at h
  split at h
  · cases h
    exact .map _
  · cases h
    exact .array _
  · unfold classifyTypeDescriptor at h
    split at h
    · cases h
    · dsimp only at h
      split at h
      · exact flatForm_of_classifyTypeUnion h
      · cases h
        exact .leaf ⟨rfl, rfl, rfl, rfl⟩
      · cases h
        exact .leaf ⟨rfl, rfl, rfl, rfl⟩
      · cases h
      · cases h
      · cases h
      · cases h
      · obtain ⟨kind, -, rfl⟩ := Option.map_eq_some_iff.1 h
        exact .leaf ⟨rfl, rfl, rfl, rfl⟩
  · cases h
  · obtain ⟨kind, -, rfl⟩ := Option.map_eq_some_iff.1 h
    exact .leaf ⟨rfl, rfl, rfl, rfl⟩

end SignatureForms
