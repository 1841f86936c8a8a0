import Mathlib.Data.List.Basic
import Mathlib.Logic.Function.Basic
import SignatureForms.Proofs.ParamTree.Correspondence

/-!
# Classification and the numbers of types

A type is known by its number, and the only question that classification asks about a number is
whether a union of this number is entered already. So the numbers can be changed throughout a graph
without a trace in the parameter trees, as long as different types keep different numbers.

The module introduces:

* `TypeDescriptor.renumber ρ` — a descriptor whose mentions are changed by `ρ`;
* `g.Renumbers ρ g'` — `g'` holds the types of `g` under other numbers.

## Main results

* `TypeGraph.Renumbers.correspondence`: types correspond to themselves under their new numbers;
* `classify_renumber`: the type of a parameter is classified as under its former number.
-/

namespace SignatureForms

/-! ## Renumbered descriptors -/

/-- The field with its type under another number. -/
def Field.renumber (ρ : TypeId → TypeId) (field : Field) : Field :=
  { field with type := ρ field.type }

namespace TypeDescriptor

/-- The descriptor with all types that it mentions under other numbers. -/
def renumber (ρ : TypeId → TypeId) (d : TypeDescriptor) : TypeDescriptor :=
  { d with
    fields := d.fields.map (Field.renumber ρ)
    valueType := d.valueType.map ρ
    elementType := d.elementType.map ρ
    members := d.members.map ρ
    constraint := d.constraint.map ρ }

variable (ρ : TypeId → TypeId) (d : TypeDescriptor)

@[simp]
theorem kind_renumber : (d.renumber ρ).kind = d.kind := rfl

@[simp]
theorem displayName_renumber : (d.renumber ρ).displayName = d.displayName := rfl

@[simp]
theorem ofKind_renumber (kind : Kind) (name : Option String) :
    (ofKind kind name).renumber ρ = ofKind kind name := rfl

@[simp]
theorem renumber_id : d.renumber id = d := by
  have hfields : d.fields.map (Field.renumber id) = d.fields := List.map_id d.fields
  simp [renumber, hfields]

theorem renumber_renumber (σ : TypeId → TypeId) :
    (d.renumber ρ).renumber σ = d.renumber (σ ∘ ρ) := by
  have hfields : Field.renumber σ ∘ Field.renumber ρ = Field.renumber (σ ∘ ρ) := rfl
  simp [renumber, hfields]

/-- Renumbering relates each type that is mentioned to its new number. -/
theorem rel_renumber {R : TypeId → TypeId → Prop} (hR : ∀ c, R c (ρ c)) :
    d.Rel R (d.renumber ρ) := by
  have hoption (type? : Option TypeId) : Option.Rel R type? (type?.map ρ) := by
    cases type? with
    | none => exact .none
    | some type => exact .some (hR type)
  refine ⟨rfl, rfl, rfl, ?_, hoption _, hoption _, ?_, hoption _⟩
  · exact List.forall₂_map_right_iff.2 (List.forall₂_same.2 fun field _ =>
      ⟨rfl, rfl, rfl, rfl, hR field.type⟩)
  · exact List.forall₂_map_right_iff.2 (List.forall₂_same.2 fun member _ => hR member)

end TypeDescriptor

/-! ## Renumbered graphs -/

/-- The second graph holds the types of the first one under other numbers: different types keep
different numbers, and each has the descriptor that it had, with the numbers in it changed. -/
structure TypeGraph.Renumbers (g : TypeGraph) (ρ : TypeId → TypeId) (g' : TypeGraph) : Prop where
  /-- Different types have different numbers. -/
  injective : Function.Injective ρ
  /-- A type has the descriptor that it had under its former number. -/
  descriptor_eq : ∀ id, g'.descriptor (ρ id) = (g.descriptor id).renumber ρ

namespace TypeGraph.Renumbers

variable {g g' : TypeGraph} {ρ : TypeId → TypeId}

theorem kind_eq (h : g.Renumbers ρ g') (id : TypeId) : g'.kind (ρ id) = g.kind id := by
  rw [TypeGraph.kind, h.descriptor_eq, TypeDescriptor.kind_renumber, TypeGraph.kind]

theorem contains_map (h : g.Renumbers ρ g') (active : List TypeId) (id : TypeId) :
    (active.map ρ).contains (ρ id) = active.contains id := by
  rw [Bool.eq_iff_iff, List.contains_iff_mem, List.contains_iff_mem,
    List.mem_map_of_injective h.injective]

/-- A type corresponds to itself under its new number, inside the same unions. -/
theorem correspondence (h : g.Renumbers ρ g') :
    g.Correspondence g' fun type active type' active' =>
      type' = ρ type ∧ active' = active.map ρ where
  descriptor type active type' active' := by
    rintro ⟨rfl, rfl⟩
    rw [h.descriptor_eq]
    exact (g.descriptor type).rel_renumber ρ fun _ => ⟨⟨rfl, rfl⟩, rfl, rfl⟩
  active type active type' active' := by
    rintro ⟨rfl, rfl⟩
    exact h.contains_map active type

end TypeGraph.Renumbers

/-! ## Parameters -/

variable {types types' : TypeGraph} {ρ : TypeId → TypeId}

/-- The type of a parameter is classified as under its former number. -/
theorem classify_renumber (h : types.Renumbers ρ types') (type : TypeId) (position : Int)
    (budget : Budget) (name : String) (required : Bool) (description : Option String) :
    classify types' (ρ type) position budget name required description =
      classify types type position budget name required description :=
  h.correspondence.classify_eq ⟨rfl, rfl⟩ position budget name required description

end SignatureForms
