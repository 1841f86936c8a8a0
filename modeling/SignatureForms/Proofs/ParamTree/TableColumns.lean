import SignatureForms.Proofs.ParamTree.Derivation
import Mathlib.Data.List.Forall2

/-!
# Columns for the fields of records

A record unfolds to nodes for its fields; in a table the same record gives columns instead. Both
lists are built on their own, the nodes with a budget and the columns without one. This module
compares them where the record holds scalars only.

The module introduces:

* `ScalarRecord types record` — the type is a record of named fields that hold scalars;
* `Column.Resembles column node` — a column stands for the same value as a node;
* `Tabulates types type record` — the type is a map or an array of records.

## Main results

* `columns_agree_iff`: the columns of a table stand for the fields of its records, in order, and
  demand what these do just if each field with a default is optional; `columns_demand_port` is a
  table that demands more.
-/

namespace SignatureForms

/-- The kind has an input for single values. -/
def Kind.isScalar : Kind → Bool
  | string | int | float | decimal | boolean | xml | json => true
  | _ => false

/-- The type is a record of named fields that hold scalars. -/
structure ScalarRecord (types : TypeGraph) (record : TypeId) : Prop where
  /-- The type is a record. -/
  kind : types.kind record = .record
  /-- The fields have names. -/
  named : ∀ field ∈ (types.descriptor record).fields, field.name ≠ ""
  /-- The fields hold scalars. -/
  scalar : ∀ field ∈ (types.descriptor record).fields, (types.kind field.type).isScalar = true

/-- The column has the place, the value, the kind and the description of the node. -/
structure Column.Resembles (column : Column) (node : ParamNode) : Prop where
  /-- The column has the place of the node. -/
  index : column.info.index = node.info.index
  /-- The column has the value of the node. -/
  value : column.info.value = node.value
  /-- The column has the kind of the node. -/
  kind : column.kind = node.kind
  /-- The column has the description of the node. -/
  description : column.info.description = node.info.description

/-- The column resembles the node and may be left empty just if the node may. -/
structure Column.Agrees (column : Column) (node : ParamNode) : Prop
    extends column.Resembles node where
  /-- The column is required just if the node is. -/
  required : column.info.required = node.info.required

/-- The columns for the fields of records; only tables have such columns. -/
def ParamNode.columns : ParamNode → List Column
  | map _ shape => shape.columns
  | array _ shape => shape.columns
  | _ => []

/-- The type is a map with the values or an array with the elements `record`. -/
def Tabulates (types : TypeGraph) (type record : TypeId) : Prop :=
  (types.kind type = .map ∧ (types.descriptor type).valueType = some record) ∨
    (types.kind type = .array ∧ (types.descriptor type).elementType = some record)

/-! ## Scalars -/

section Scalars

variable {types : TypeGraph}

theorem Kind.isSupported_of_isScalar {kind : Kind} (h : kind.isScalar = true) :
    kind.isSupported = true := by
  cases kind <;> first | rfl | cases h

/-- A scalar is classified as a leaf and costs nothing. -/
theorem classifyWithin_of_isScalar {type : TypeId} (h : (types.kind type).isScalar = true)
    (depth : Nat) (slot : Slot) (active : List TypeId) (budget : Budget) :
    classifyWithin types (depth + 1) type slot active budget =
      .ok (some (slot.leaf (types.kind type)), budget) := by
  rw [TypeGraph.kind] at h ⊢
  rw [classifyWithin, classifyLevel]
  generalize (types.descriptor type).kind = kind at h
  cases kind <;> first | rfl | cases h

/-- The leaf for a field of a record that holds a scalar. -/
def fieldLeaf (types : TypeGraph) (path : String) (required : Bool) (entry : Field × Nat) :
    ParamNode :=
  (Slot.ofField path required entry.2 entry.1).leaf (types.kind entry.1.type)

/-- Fields that hold scalars become leaves in order while the budget lasts, a unit for each. -/
theorem classifyFields_of_isScalar {child : TypeId → Slot → Budget → Classified}
    (hchild : ∀ type, (types.kind type).isScalar = true → ∀ slot budget,
      child type slot budget = .ok (some (slot.leaf (types.kind type)), budget))
    (recordName path : String) (required : Bool) {fields : List Field}
    (hnamed : ∀ field ∈ fields, field.name ≠ "")
    (hscalar : ∀ field ∈ fields, (types.kind field.type).isScalar = true) (position : Nat)
    {budget : Budget} (hbudget : (fields.length : Int) ≤ budget.remaining) :
    classifyFields types child recordName path required fields position budget =
      .ok ((fields.zipIdx position).map (fieldLeaf types path required),
        ⟨budget.remaining - fields.length⟩) := by
  induction fields generalizing position budget with
  | nil => simp [classifyFields]
  | cons field rest ih =>
    rw [List.forall_mem_cons] at hnamed hscalar
    have hname : field.name.isEmpty = false := by simpa using hnamed.1
    have hsupported := Kind.isSupported_of_isScalar hscalar.1
    rw [List.length_cons, Int.natCast_succ] at hbudget
    -- the unit for this field is there, and enough is left for the rest
    have hleft : (rest.length : Int) ≤ budget.taken.remaining := Int.le_sub_one_of_lt (by omega)
    have hreserve : budget.reserve = (true, budget.taken) := by
      rw [Budget.reserve, decide_eq_true (by omega)]
    have hspent : budget.taken.remaining - rest.length =
        budget.remaining - (rest.length + 1 : Nat) := by
      simp only [Budget.taken]
      omega
    rw [classifyFields, hname, hsupported, hreserve, hchild _ hscalar.1]
    simp only [Bool.not_true, Bool.false_eq_true, if_false]
    rw [ih hnamed.2 hscalar.2 (position + 1) hleft, hspent]
    rfl

end Scalars

/-! ## Tables of scalar records -/

section Tables

variable {types : TypeGraph} {record : TypeId}

/-- The column for a field that holds a scalar. -/
def scalarColumn (types : TypeGraph) (entry : Field × Nat) : Column :=
  ⟨.plain (toString entry.2) entry.1.name (!entry.1.optional) entry.1.doc,
    types.kind entry.1.type⟩

/-- Each field of a scalar record has a column. -/
theorem tableColumns_of_scalarRecord (h : ScalarRecord types record) :
    tableColumns types (types.descriptor record) =
      (types.descriptor record).fields.zipIdx.map (scalarColumn types) := by
  -- scalars are supported, so no field is left out
  have hfields : (types.descriptor record).fields.filterMap (fun field =>
        (types.kind field.type).supported?.map fun kind => (field, kind)) =
      (types.descriptor record).fields.map fun field => (field, types.kind field.type) := by
    rw [← List.filterMap_eq_map]
    refine List.filterMap_congr fun field hfield => ?_
    rw [Kind.supported?, if_pos (Kind.isSupported_of_isScalar (h.scalar field hfield))]
    rfl
  rw [tableColumns, hfields, List.zipIdx_map, List.map_map]
  rfl

/-- A record that fills no table has no fields. -/
theorem tableColumns_of_not_fillsTable (hkind : types.kind record = .record)
    (h : fillsTable (types.descriptor record) = false) :
    tableColumns types (types.descriptor record) = [] := by
  rw [TypeGraph.kind] at hkind
  have hnone : (types.descriptor record).fields = [] := by
    simpa [fillsTable, hkind, Kind.isTableScalar] using h
  rw [tableColumns, hnone]
  rfl

/-- A map of records has the columns of the record. -/
theorem columns_mapShape (hkind : types.kind record = .record) :
    (mapShape types (some record)).columns = tableColumns types (types.descriptor record) := by
  have hsame : ((types.descriptor record).kind == .record) = true := beq_iff_eq.2 hkind
  simp only [mapShape, hsame, Bool.and_true]
  split
  · rfl
  · next h => exact (tableColumns_of_not_fillsTable hkind (by simpa using h)).symm

/-- An array of records has the columns of the record. -/
theorem columns_arrayShape (hkind : types.kind record = .record) :
    (arrayShape types (some record)).columns = tableColumns types (types.descriptor record) := by
  have hsame : (types.descriptor record).kind = .record := hkind
  simp only [arrayShape, hsame]
  split
  · rfl
  · next h => exact (tableColumns_of_not_fillsTable hkind (by simpa using h)).symm

/-- A table of records has their columns, and takes nothing of the budget. -/
theorem exists_classifyWithin_of_tabulates (hkind : types.kind record = .record) {type : TypeId}
    (htype : Tabulates types type record) (depth : Nat) (slot : Slot) (active : List TypeId)
    (budget : Budget) :
    ∃ table,
      classifyWithin types (depth + 1) type slot active budget = .ok (some table, budget) ∧
        table.columns = tableColumns types (types.descriptor record) := by
  rcases htype with ⟨hmap, hvalues⟩ | ⟨harray, helements⟩
  · rw [TypeGraph.kind] at hmap
    rw [classifyWithin, classifyLevel, hmap, hvalues]
    exact ⟨_, rfl, columns_mapShape hkind⟩
  · rw [TypeGraph.kind] at harray
    rw [classifyWithin, classifyLevel, harray, helements]
    exact ⟨_, rfl, columns_arrayShape hkind⟩

/-- A required parameter that is a scalar record is unfolded to leaves for its fields. -/
theorem exists_classify_of_scalarRecord (h : ScalarRecord types record) {name : String}
    (hname : name ≠ "") {budget : Budget}
    (hbudget : ((types.descriptor record).fields.length : Int) ≤ budget.remaining)
    (position : Int) (description : Option String) :
    ∃ info recordName path left,
      classify types record position budget name true description =
        .ok (some (.record info recordName path
          ((types.descriptor record).fields.zipIdx.map (fieldLeaf types "" true))), left) := by
  have hempty : name.isEmpty = false := by simpa using hname
  have hkind := h.kind
  rw [TypeGraph.kind] at hkind
  rw [classify, hempty, classifyDepth, classifyWithin, classifyLevel, hkind]
  simp only [Bool.false_eq_true, if_false, classifyRecord]
  split
  -- nothing is left only if there are no fields to unfold
  · next hout =>
    have hnone : (types.descriptor record).fields = [] := by
      simp only [Budget.exhausted, decide_eq_true_eq] at hout
      exact List.eq_nil_of_length_eq_zero (by omega)
    rw [hnone]
    exact ⟨_, _, _, _, rfl⟩
  · rw [classifyFields_of_isScalar (fun type htype slot left =>
        classifyWithin_of_isScalar htype _ slot [] left) _ _ _ h.named h.scalar 0 hbudget]
    exact ⟨_, _, _, _, rfl⟩

/-- A column stands for the same field as the leaf at its place. -/
theorem scalarColumn_resembles (entry : Field × Nat) :
    (scalarColumn types entry).Resembles (fieldLeaf types "" true entry) :=
  ⟨rfl, rfl, rfl, rfl⟩

/-- A column may be left empty just if the leaf for its field may, unless the field has a default
but is not optional. -/
theorem scalarColumn_agrees_iff (entry : Field × Nat) :
    (scalarColumn types entry).Agrees (fieldLeaf types "" true entry) ↔
      (entry.1.hasDefault = true → entry.1.optional = true) := by
  have hrequired : (!entry.1.optional) = (!(entry.1.optional || entry.1.hasDefault) && true) ↔
      (entry.1.hasDefault = true → entry.1.optional = true) := by
    cases entry.1.optional <;> cases entry.1.hasDefault <;> decide
  exact ⟨fun h => hrequired.1 h.required,
    fun h => ⟨scalarColumn_resembles entry, hrequired.2 h⟩⟩

end Tables

/-- The columns that a scalar record has in a table stand for the fields of the record in order, as
it is unfolded for a required parameter with a budget for all of them. They may be left empty where
the fields may if each field with a default is optional, and only then. -/
theorem columns_agree_iff {types : TypeGraph} {record : TypeId}
    (hrecord : ScalarRecord types record) {name : String} (hname : name ≠ "") {budget : Budget}
    (hbudget : ((types.descriptor record).fields.length : Int) ≤ budget.remaining)
    (position : Int) (description : Option String) :
    ∃ info recordName path fields left,
      classify types record position budget name true description =
        .ok (some (.record info recordName path fields), left) ∧
      ∀ type, Tabulates types type record → ∀ depth slot active other,
        ∃ table, classifyWithin types (depth + 1) type slot active other =
            .ok (some table, other) ∧
          List.Forall₂ Column.Resembles table.columns fields ∧
          (List.Forall₂ Column.Agrees table.columns fields ↔
            ∀ field ∈ (types.descriptor record).fields,
              field.hasDefault = true → field.optional = true) := by
  obtain ⟨info, recordName, path, left, hclassified⟩ :=
    exists_classify_of_scalarRecord hrecord hname hbudget position description
  refine ⟨info, recordName, path, _, left, hclassified, ?_⟩
  intro type htype depth slot active other
  obtain ⟨table, htable, hcolumns⟩ :=
    exists_classifyWithin_of_tabulates hrecord.kind htype depth slot active other
  refine ⟨table, htable, ?_⟩
  -- both lists are built from the same numbered fields, so they are compared place by place
  rw [hcolumns, tableColumns_of_scalarRecord hrecord]
  simp only [List.forall₂_map_left_iff, List.forall₂_map_right_iff, List.forall₂_same]
  refine ⟨fun entry _ => scalarColumn_resembles entry, ?_⟩
  simp only [scalarColumn_agrees_iff]
  have hfields := List.zipIdx_map_fst 0 (types.descriptor record).fields
  rw [← hfields, List.forall_mem_map, hfields]

/-- An array of records with a host and a port that has a default. -/
def endpointTypes (portOptional : Bool) : TypeGraph where
  descriptors := #[
    { TypeDescriptor.ofKind .array none with elementType := some 1 },
    { TypeDescriptor.ofKind .record (some "Endpoint") with
      fields := [⟨"host", 2, false, false, some "where to call"⟩,
        ⟨"port", 3, portOptional, true, none⟩] },
    TypeDescriptor.ofKind .string none,
    TypeDescriptor.ofKind .int none]

theorem columns_agree_endpoint :
    ScalarRecord (endpointTypes true) 1 ∧ Tabulates (endpointTypes true) 0 1 ∧
      ∃ info recordName path fields left table,
        classify (endpointTypes true) 1 0 ⟨2⟩ "endpoint" true none =
          .ok (some (.record info recordName path fields), left) ∧
        classifyWithin (endpointTypes true) 1 0
            ⟨0, "endpoints", "endpoints", true, "", none⟩ [] ⟨0⟩ =
          .ok (some table, ⟨0⟩) ∧
        List.Forall₂ Column.Agrees table.columns fields := by
  have hrecord : ScalarRecord (endpointTypes true) 1 := ⟨rfl, by decide, by decide⟩
  have htable : Tabulates (endpointTypes true) 0 1 := .inr ⟨rfl, rfl⟩
  have hname : "endpoint" ≠ "" := by decide
  have hbudget : (((endpointTypes true).descriptor 1).fields.length : Int) ≤
      Budget.remaining ⟨2⟩ := by decide
  obtain ⟨info, recordName, path, fields, left, hclassified, htables⟩ :=
    columns_agree_iff hrecord hname hbudget 0 none
  obtain ⟨table, hclassifiedTable, -, hagree⟩ := htables 0 htable 0
    ⟨0, "endpoints", "endpoints", true, "", none⟩ [] ⟨0⟩
  exact ⟨hrecord, htable, info, recordName, path, fields, left, table, hclassified,
    hclassifiedTable, hagree.2 (by decide)⟩

/-- Where the port is not optional, the table demands it all the same. -/
theorem columns_demand_port :
    ScalarRecord (endpointTypes false) 1 ∧ Tabulates (endpointTypes false) 0 1 ∧
      ∃ info recordName path fields left table,
        classify (endpointTypes false) 1 0 ⟨2⟩ "endpoint" true none =
          .ok (some (.record info recordName path fields), left) ∧
        classify (endpointTypes false) 0 0 ⟨2⟩ "endpoints" true none =
          .ok (some table, ⟨2⟩) ∧
        fields.map (fun field => field.info.required) = [true, false] ∧
        table.columns.map (fun column => column.info.required) = [true, true] :=
  ⟨⟨rfl, by decide, by decide⟩, .inr ⟨rfl, rfl⟩, _, _, _, _, _, _, rfl, rfl, rfl, rfl⟩

end SignatureForms
