import SignatureForms.Proofs.Form.Choices
import SignatureForms.Proofs.ParamTree.TableColumns

/-!
# Tables of a form

A table names two of its columns: its key, by which rows are told apart, and its value, which stands
for a row. In the tables for maps and arrays whose records have distinct fields, both are there, and
the columns have distinct names. There are two exceptions: the key of the table for an array of
arrays is none of its columns, and record values may have a field with the name of the key column.

The module introduces:

* `Entry.tables entries` — the tables of a form with their columns, inner tables included;
* `WellKeyed table`, `WellTabled entries` — a table, or each table of a form, has columns with
  distinct names, its key and its value among them;
* `TabularOf types type node` — the node is how the map or array type is entered;
* `DistinctRowFields types type` — the records in a map or an array have distinct fields;
* `ArrayOfArrays types type`, `KeyedRecords types type` — the two exceptions.

## Main results

* `wellTabled_of_tabularOf_iff`: the tables for a map or an array of records with distinct fields
  are well-keyed just if it is none of the exceptions;
* `wellTabled_of_classifyParameter_iff`: so it is for all maps and arrays in a classified tree;
  `tableKey_not_mem_grid` is an array of arrays.
-/

namespace SignatureForms

namespace Entry

/-- The tables of a form with their columns, those that are columns of other tables included. -/
def tables (entries : List Entry) : List (TableInfo × List Entry) :=
  (nestedAll entries).filterMap fun
    | table info columns => some (info, columns)
    | _ => none

@[simp]
theorem tables_append (entries more : List Entry) :
    tables (entries ++ more) = tables entries ++ tables more := by
  rw [tables, nestedAll_append, List.filterMap_append]
  rfl

theorem tables_cons (entry : Entry) (rest : List Entry) :
    tables (entry :: rest) = tables [entry] ++ tables rest :=
  tables_append [entry] rest

/-- A table stands ahead of those in its columns. -/
@[simp]
theorem tables_table (info : TableInfo) (columns : List Entry) :
    tables [table info columns] = (info, columns) :: tables columns := by
  simp [tables, nestedAll, nested]

/-- Inputs hold no tables. -/
theorem tables_of_isPlainInput {columns : List Entry}
    (h : ∀ column ∈ columns, column.IsPlainInput) : tables columns = [] := by
  induction columns with
  | nil => rfl
  | cons first rest ih =>
    rw [List.forall_mem_cons] at h
    obtain ⟨⟨i, rfl, -⟩, hrest⟩ := h
    rw [tables_cons, ih hrest]
    rfl

end Entry

/-- The table has columns, no two of which share a name, and its key and its value are among
them. -/
structure WellKeyed (table : TableInfo × List Entry) : Prop where
  /-- There is a column. -/
  nonempty : table.2 ≠ []
  /-- The columns have distinct names. -/
  distinct : (table.2.map Entry.name).Nodup
  /-- The key is a column. -/
  key : table.1.tableKey ∈ table.2.map Entry.name
  /-- The value is a column. -/
  value : table.1.tableValue ∈ table.2.map Entry.name

/-- All tables of the form are well-keyed, inner ones included. -/
def WellTabled (entries : List Entry) : Prop :=
  ∀ table ∈ Entry.tables entries, WellKeyed table

section WellTabled

variable {info : NodeInfo} {condition : Condition}

theorem wellTabled_append {entries more : List Entry} :
    WellTabled (entries ++ more) ↔ WellTabled entries ∧ WellTabled more := by
  rw [WellTabled, Entry.tables_append]
  exact List.forall_mem_append

theorem wellTabled_of_tables_eq_nil {entries : List Entry} (h : Entry.tables entries = []) :
    WellTabled entries := by
  rw [WellTabled, h]
  exact List.forall_mem_nil _

/-- A check box is no table. -/
theorem tables_gate (ctx : FormContext) (info : NodeInfo) (condition : Condition) :
    Entry.tables (gate ctx info condition).1 = [] := by
  rw [gate]
  split <;> rfl

theorem getLast?_getD_mem {values : List String} (h : values ≠ []) :
    values.getLast?.getD "" ∈ values := by
  rw [List.getLast?_eq_some_getLast h]
  exact List.getLast_mem h

/-- A table of inputs that names no columns itself is keyed by its first and last columns, so all
that it needs are distinct names. -/
theorem wellTabled_tableEntry_iff {columns : List Entry} (hsome : columns ≠ [])
    (hplain : ∀ column ∈ columns, column.IsPlainInput) (name display : String) (required : Bool)
    (description : Option String) :
    WellTabled [tableEntry name display columns required description condition none none] ↔
      (columns.map Entry.name).Nodup := by
  have hnames : columns.map Entry.name ≠ [] := by simpa using hsome
  rw [WellTabled, tableEntry, Entry.tables_table, Entry.tables_of_isPlainInput hplain,
    List.forall_mem_singleton]
  refine ⟨WellKeyed.distinct, fun hdistinct => ⟨hsome, hdistinct, ?_, ?_⟩⟩
  · have hfirst := head?_getD_mem hnames
    rwa [List.head?_map] at hfirst
  · have hlast := getLast?_getD_mem hnames
    rwa [List.getLast?_map] at hlast

/-! ## Tables of maps and arrays -/

@[simp]
theorem name_columnEntry (name display : String) (kind : Option Kind) (required : Bool)
    (help : String) : (columnEntry name display kind required help).name = name := by
  unfold columnEntry
  split <;> rfl

/-- The columns for fields have the names of these. -/
theorem map_name_fieldColumn (columns : List Column) :
    (columns.map fieldColumn).map Entry.name = columns.map fun column => column.info.value := by
  rw [List.map_map]
  exact List.map_congr_left fun column _ => name_columnEntry _ _ _ _ _

/-- The columns of an array of arrays are the label and the inner table. -/
theorem map_name_rowColumns (innerKind : Option Kind) (required : Bool) :
    (rowColumns innerKind required).map Entry.name = ["rowLabel", "innerArray"] := rfl

theorem map_name_choiceColumns (memberKinds : List Kind) :
    (choiceColumns memberKinds).map Entry.name = ["type", "value"] := by
  rw [choiceColumns, List.map_cons, List.map_singleton, name_columnEntry]
  rfl

/-- The table for a map is well-keyed if no field is named like the key column. -/
theorem wellTabled_mapTable_iff {shape : MapShape}
    (hdistinct : (shape.columns.map fun column => column.info.value).Nodup) :
    WellTabled [mapTable info shape condition] ↔
      "key" ∉ shape.columns.map fun column => column.info.value := by
  have hsome : mapColumns shape ≠ [] := by
    rw [mapColumns]
    split <;> exact List.cons_ne_nil _ _
  rw [mapTable, wellTabled_tableEntry_iff hsome (mapColumns_isPlainInput shape), mapColumns]
  split
  · next hnone =>
    rw [List.isEmpty_iff] at hnone
    simp [hnone]
  · rw [List.map_cons, map_name_fieldColumn, name_columnEntry, List.nodup_cons]
    exact and_iff_left hdistinct

/-- The table for an array is well-keyed unless its elements are arrays: then its key is none of its
columns. -/
theorem wellTabled_arrayTable_iff {shape : ArrayShape}
    (hdistinct : (shape.columns.map fun column => column.info.value).Nodup) :
    WellTabled [arrayTable info shape condition] ↔ shape.twoDimensional = false := by
  rw [arrayTable]
  cases shape.twoDimensional with
  | true =>
    rw [if_pos rfl]
    refine iff_of_false (fun htables => ?_) Bool.noConfusion
    rw [WellTabled, tableEntry, Entry.tables_table, List.forall_mem_cons] at htables
    have hkey : "Row" ∈ (rowColumns shape.innerKind info.required).map Entry.name := htables.1.key
    rw [map_name_rowColumns] at hkey
    exact absurd hkey (by decide)
  | false =>
    rw [if_neg Bool.false_ne_true]
    refine iff_of_true ?_ rfl
    split
    · have hsome : choiceColumns shape.memberKinds ≠ [] := List.cons_ne_nil _ _
      rw [wellTabled_tableEntry_iff hsome (choiceColumns_isPlainInput _), map_name_choiceColumns]
      decide
    · split
      · rw [wellTabled_tableEntry_iff (List.cons_ne_nil _ _)
          (List.forall_mem_singleton.2 (columnEntry_isPlainInput _ _ _ _ _))]
        exact List.nodup_singleton _
      · next hsome =>
        have hcolumns : shape.columns.map fieldColumn ≠ [] := by simpa using hsome
        rw [wellTabled_tableEntry_iff hcolumns (fieldColumns_isPlainInput _),
          map_name_fieldColumn]
        exact hdistinct

/-- A map is rendered to a table or to text, behind its check box. -/
theorem renderNode_map {ctx : FormContext} {group : Option String} {shape : MapShape} :
    renderNode ctx condition group (.map info shape) =
      .ok ((gate ctx info condition).1 ++
        [if shape.asTable then mapTable info shape (gate ctx info condition).2
          else opaqueEntry info (gate ctx info condition).2
            "Expecting JSON object with key-value pairs" objectPattern]) := by
  rw [renderNode]

/-- An array is rendered to a table or to text, behind its check box. -/
theorem renderNode_array {ctx : FormContext} {group : Option String} {shape : ArrayShape} :
    renderNode ctx condition group (.array info shape) =
      .ok ((gate ctx info condition).1 ++
        [if shape.asTable then arrayTable info shape (gate ctx info condition).2
          else opaqueEntry info (gate ctx info condition).2 "Expecting JSON array"
            arrayPattern]) := by
  rw [renderNode]

/-- What a composite is entered as, a table or text, stands behind its check box. -/
theorem wellTabled_gated_iff {ctx : FormContext} {asTable : Bool} {entry : Entry}
    (help pattern : String) :
    WellTabled ((gate ctx info condition).1 ++
        [if asTable then entry else opaqueEntry info (gate ctx info condition).2 help pattern]) ↔
      (asTable = true → WellTabled [entry]) := by
  have htext : WellTabled [opaqueEntry info (gate ctx info condition).2 help pattern] :=
    wellTabled_of_tables_eq_nil rfl
  have htoggle := wellTabled_of_tables_eq_nil (tables_gate ctx info condition)
  rw [wellTabled_append, and_iff_right htoggle]
  cases asTable with
  | true => simp
  | false => simpa using htext

end WellTabled

/-! ## Types of tables -/

/-- The node is how the type, a map or an array, is entered. -/
inductive TabularOf (types : TypeGraph) (type : TypeId) : ParamNode → Prop
  | map {info : NodeInfo} (hkind : types.kind type = .map) :
      TabularOf types type (.map info (mapShape types (types.descriptor type).valueType))
  | array {info : NodeInfo} (hkind : types.kind type = .array) :
      TabularOf types type (.array info (arrayShape types (types.descriptor type).elementType))

/-- If the values of a map or the elements of an array are records, the fields of these have
distinct names. -/
def DistinctRowFields (types : TypeGraph) (type : TypeId) : Prop :=
  ∀ record, Tabulates types type record → types.kind record = .record →
    ((types.descriptor record).fields.map Field.name).Nodup

/-- The type is an array of arrays. -/
def ArrayOfArrays (types : TypeGraph) (type : TypeId) : Prop :=
  types.kind type = .array ∧
    ∃ row, (types.descriptor type).elementType = some row ∧ types.kind row = .array

/-- The type is a map of records that have a field, of a kind that gets a column, with the name of
the key column. -/
def KeyedRecords (types : TypeGraph) (type : TypeId) : Prop :=
  types.kind type = .map ∧
    ∃ record, (types.descriptor type).valueType = some record ∧ types.kind record = .record ∧
      ∃ field ∈ (types.descriptor record).fields,
        field.name = "key" ∧ (types.kind field.type).isSupported = true

section Types

variable {types : TypeGraph} {type : TypeId}

/-- The columns for the fields of a record type are named after the supported ones, in order. -/
theorem map_value_tableColumns (d : TypeDescriptor) :
    ((tableColumns types d).map fun column => column.info.value) =
      (d.fields.filter fun field => (types.kind field.type).isSupported).map Field.name := by
  -- numbering the columns does not change their order
  have hsame : ((tableColumns types d).map fun column => column.info.value) =
      (d.fields.filterMap fun field =>
        (types.kind field.type).supported?.map fun kind => (field, kind)).map
          fun entry => entry.1.name := by
    conv_rhs => rw [← List.zipIdx_map_fst 0 (List.filterMap _ _), List.map_map]
    rw [tableColumns, List.map_map]
    rfl
  rw [hsame]
  induction d.fields with
  | nil => rfl
  | cons field rest ih =>
    rw [List.filterMap_cons, List.filter_cons, Kind.supported?]
    cases (types.kind field.type).isSupported with
    | true => exact congrArg (field.name :: ·) ih
    | false => exact ih

theorem columns_mapShape_of_ne {value : TypeId} (h : types.kind value ≠ .record) :
    (mapShape types (some value)).columns = [] := by
  have hother : ((types.descriptor value).kind == .record) = false := beq_eq_false_iff_ne.2 h
  simp [mapShape, hother]

theorem columns_arrayShape_of_ne {element : TypeId} (h : types.kind element ≠ .record) :
    (arrayShape types (some element)).columns = [] := by
  simp only [arrayShape]
  split
  · next hkind => exact absurd hkind h
  all_goals rfl

/-- The columns for fields that a map or an array has are those of its records. -/
theorem TabularOf.columns_eq {node : ParamNode} (h : TabularOf types type node) :
    node.columns = [] ∨ ∃ record, Tabulates types type record ∧ types.kind record = .record ∧
      node.columns = tableColumns types (types.descriptor record) := by
  cases h with
  | map hkind =>
    cases hvalues : (types.descriptor type).valueType with
    | none => exact .inl rfl
    | some value =>
      by_cases hrecord : types.kind value = .record
      · exact .inr ⟨value, .inl ⟨hkind, hvalues⟩, hrecord, columns_mapShape hrecord⟩
      · exact .inl (columns_mapShape_of_ne hrecord)
  | array hkind =>
    cases helements : (types.descriptor type).elementType with
    | none => exact .inl rfl
    | some element =>
      by_cases hrecord : types.kind element = .record
      · exact .inr ⟨element, .inr ⟨hkind, helements⟩, hrecord, columns_arrayShape hrecord⟩
      · exact .inl (columns_arrayShape_of_ne hrecord)

/-- The columns of a map or an array have distinct names if the fields of its records have. -/
theorem TabularOf.nodup_columns {node : ParamNode} (h : TabularOf types type node)
    (hdistinct : DistinctRowFields types type) :
    (node.columns.map fun column => column.info.value).Nodup := by
  rcases h.columns_eq with hnone | ⟨record, htabulates, hrecord, hcolumns⟩
  · rw [hnone]
    exact List.nodup_nil
  · rw [hcolumns, map_value_tableColumns]
    exact (hdistinct record htabulates hrecord).sublist (List.filter_sublist.map Field.name)

/-- A map of records with a field that is named like the key column has a table with a column for
it, and only such a map has. -/
theorem keyedRecords_iff (hkind : types.kind type = .map) :
    KeyedRecords types type ↔
      (mapShape types (types.descriptor type).valueType).asTable = true ∧
        "key" ∈ (mapShape types (types.descriptor type).valueType).columns.map
          fun column => column.info.value := by
  have hmem : ∀ record, "key" ∈ (tableColumns types (types.descriptor record)).map
        (fun column => column.info.value) ↔
      ∃ field ∈ (types.descriptor record).fields,
        field.name = "key" ∧ (types.kind field.type).isSupported = true := by
    intro record
    rw [map_value_tableColumns, List.mem_map]
    simp only [List.mem_filter]
    constructor
    · rintro ⟨field, ⟨hfield, hsupported⟩, hname⟩
      exact ⟨field, hfield, hname, hsupported⟩
    · rintro ⟨field, hfield, hname, hsupported⟩
      exact ⟨field, ⟨hfield, hsupported⟩, hname⟩
  constructor
  · rintro ⟨-, record, hvalues, hrecord, hfield⟩
    rw [hvalues, columns_mapShape hrecord]
    refine ⟨?_, (hmem record).2 hfield⟩
    -- the record has a field, so it fills a table
    obtain ⟨field, hfield, -⟩ := hfield
    rw [TypeGraph.kind] at hrecord
    simp [mapShape, fillsTable, hrecord, List.ne_nil_of_mem hfield]
  · rintro ⟨-, hkey⟩
    have hmap : TabularOf types type
        (.map default (mapShape types (types.descriptor type).valueType)) := .map hkind
    rcases hmap.columns_eq with hnone | ⟨record, htabulates, hrecord, hcolumns⟩
    · rw [ParamNode.columns] at hnone
      rw [hnone] at hkey
      cases hkey
    · rw [ParamNode.columns] at hcolumns
      rw [hcolumns] at hkey
      rcases htabulates with ⟨-, hvalues⟩ | ⟨harray, -⟩
      · exact ⟨hkind, record, hvalues, hrecord, (hmem record).1 hkey⟩
      · cases hkind.symm.trans harray

/-- An array of arrays has a table with inner tables, and only it has. -/
theorem arrayOfArrays_iff (hkind : types.kind type = .array) :
    ArrayOfArrays types type ↔
      (arrayShape types (types.descriptor type).elementType).asTable = true ∧
        (arrayShape types (types.descriptor type).elementType).twoDimensional = true := by
  rw [ArrayOfArrays, and_iff_right hkind]
  cases (types.descriptor type).elementType with
  | none => simp [arrayShape]
  | some row =>
    simp only [arrayShape, Option.some.injEq, exists_eq_left', TypeGraph.kind]
    split
    · next hrecord =>
      rw [hrecord]
      split <;> simp
    · next harray => simp [harray]
    · next hunion => simp [hunion]
    · next harray _ => simpa using harray

/-- A map or an array whose records have distinct fields can be rendered. Its tables are well-keyed
just if it is no array of arrays, and no map of records with a field that is named like the key
column. -/
theorem wellTabled_of_tabularOf_iff {node : ParamNode} (hnode : TabularOf types type node)
    (hdistinct : DistinctRowFields types type) (ctx : FormContext) (condition : Condition)
    (group : Option String) :
    ∃ entries, renderNode ctx condition group node = .ok entries ∧
      (WellTabled entries ↔ ¬ ArrayOfArrays types type ∧ ¬ KeyedRecords types type) := by
  have hcolumns := hnode.nodup_columns hdistinct
  cases hnode with
  | map hkind =>
    have harray : ¬ ArrayOfArrays types type := fun h => by
      cases hkind.symm.trans h.1
    refine ⟨_, renderNode_map, ?_⟩
    rw [wellTabled_gated_iff, wellTabled_mapTable_iff hcolumns, and_iff_right harray,
      keyedRecords_iff hkind, not_and]
  | array hkind =>
    have hmap : ¬ KeyedRecords types type := fun h => by
      cases hkind.symm.trans h.1
    refine ⟨_, renderNode_array, ?_⟩
    rw [wellTabled_gated_iff, wellTabled_arrayTable_iff hcolumns, and_iff_left hmap,
      arrayOfArrays_iff hkind, not_and, Bool.not_eq_true]

end Types

/-! ## Tables in classified trees -/

/-- The node is a map or an array. -/
def ParamNode.isTabular : ParamNode → Bool
  | map .. => true
  | array .. => true
  | _ => false

/-- If the node is a map or an array, it is how some type is entered. -/
def TabularFromType (types : TypeGraph) (node : ParamNode) : Prop :=
  node.isTabular = true → ∃ type, TabularOf types type node

section Derived

variable {types : TypeGraph}

/-- A node that is neither a map nor an array is entered as no type asks. -/
theorem TabularFromType.other {node : ParamNode} (h : node.isTabular = false) :
    TabularFromType types node := by
  intro htabular
  rw [h] at htabular
  cases htabular

/-- What all nodes share does not change how a type is entered. -/
theorem TabularFromType.withInfo {node : ParamNode} (h : TabularFromType types node)
    (info : NodeInfo) : TabularFromType types (node.withInfo info) := by
  cases node with
  | map =>
    obtain ⟨type, hkind | _⟩ := h rfl
    exact fun _ => ⟨type, .map hkind⟩
  | array =>
    obtain ⟨type, _ | hkind⟩ := h rfl
    exact fun _ => ⟨type, .array hkind⟩
  | _ => exact .other rfl

/-- A type for types is entered as a leaf or a choice. -/
theorem isTabular_of_classifyTypeDescriptor {constraint : Option TypeId} {slot : Slot}
    {tree : ParamNode} (h : classifyTypeDescriptor types constraint slot = some tree) :
    tree.isTabular = false := by
  simp only [classifyTypeDescriptor, classifyTypeUnion] at h
  split at h
  · cases h
  · split at h
    · split at h <;> cases h <;> rfl
    · cases h
      rfl
    · cases h
      rfl
    · cases h
    · cases h
    · cases h
    · cases h
    · obtain ⟨kind, -, rfl⟩ := Option.map_eq_some_iff.1 h
      rfl

theorem tabularFromType_of_flatNode {type : TypeId} {slot : Slot} {tree : ParamNode}
    (h : flatNode types (types.descriptor type) slot = some tree) : TabularFromType types tree := by
  unfold flatNode at h
  split at h
  · next hkind =>
    cases h
    exact fun _ => ⟨type, .map hkind⟩
  · next hkind =>
    cases h
    exact fun _ => ⟨type, .array hkind⟩
  · exact .other (isTabular_of_classifyTypeDescriptor h)
  · cases h
  · obtain ⟨kind, -, rfl⟩ := Option.map_eq_some_iff.1 h
    exact .other rfl

/-- Maps and arrays inside of derived trees are how some types are entered. -/
theorem holdsOfDerived_tabularFromType (types : TypeGraph) :
    HoldsOfDerived types (TabularFromType types) where
  root hroot := by
    cases hroot with
    | flat htree => exact tabularFromType_of_flatNode htree
    | _ => exact .other rfl
  member {node} label condition hnode := by
    cases node with
    | record => exact .other rfl
    | _ => exact hnode.withInfo _
  option _ _ _ := .other rfl

/-- Maps and arrays in the tree of a parameter are how some types are entered. -/
theorem tabularFromType_of_classifyParameter {p : Parameter} {position fieldBudget : Int}
    {tree : ParamNode} (h : classifyParameter types p position fieldBudget = .ok (some tree)) :
    ∀ node ∈ tree.walk, TabularFromType types node := by
  obtain ⟨-, derived, left, hderivation, default, rfl⟩ := exists_classifies_of_classifyParameter h
  have hderived := hderivation.forall_mem_walk (holdsOfDerived_tabularFromType types) derived rfl
  rw [ParamNode.forall_mem_walk_iff] at hderived ⊢
  rw [ParamNode.parts_withInfo]
  exact ⟨hderived.1.withInfo _, hderived.2⟩

end Derived

/-- Each map or array in the tree of a parameter is how some type is entered. Where its records have
distinct fields, it can be rendered anywhere. Each table that it has then, inner ones included, has
columns with distinct names, its key and its value among them, just if it is neither an array of
arrays nor a map of records that have a field with the name of the key column. -/
theorem wellTabled_of_classifyParameter_iff {types : TypeGraph} {p : Parameter}
    {position fieldBudget : Int} {tree node : ParamNode}
    (h : classifyParameter types p position fieldBudget = .ok (some tree))
    (hnode : node ∈ tree.walk) (htabular : node.isTabular = true) :
    (∃ type, TabularOf types type node) ∧
      ∀ type, TabularOf types type node → DistinctRowFields types type →
        ∀ ctx condition group, ∃ entries, renderNode ctx condition group node = .ok entries ∧
          (WellTabled entries ↔ ¬ ArrayOfArrays types type ∧ ¬ KeyedRecords types type) := by
  refine ⟨tabularFromType_of_classifyParameter h node hnode htabular, ?_⟩
  intro type htype hdistinct ctx condition group
  exact wellTabled_of_tabularOf_iff htype hdistinct ctx condition group

/-- The endpoints of `endpointTypes` as a parameter. -/
def endpointsParameter : Parameter where
  name := "endpoints"
  type := 0
  defaultable := false
  default := none
  doc := none

theorem wellTabled_of_classifyParameter_endpoints :
    ∃ table, classifyParameter (endpointTypes true) endpointsParameter 0 5 = .ok (some table) ∧
      table.isTabular = true ∧ TabularOf (endpointTypes true) 0 table ∧
      DistinctRowFields (endpointTypes true) 0 ∧
      ∃ entries, renderNode ⟨true, true⟩ .empty none table = .ok entries ∧ WellTabled entries := by
  obtain ⟨table, hclassified, htabular, htype⟩ : ∃ table,
      classifyParameter (endpointTypes true) endpointsParameter 0 5 = .ok (some table) ∧
        table.isTabular = true ∧ TabularOf (endpointTypes true) 0 table :=
    ⟨_, rfl, rfl, .array rfl⟩
  have hdistinct : DistinctRowFields (endpointTypes true) 0 := by
    rintro record (⟨hmap, -⟩ | ⟨-, helements⟩) -
    · cases hmap
    · cases helements
      decide
  have hnoArrays : ¬ ArrayOfArrays (endpointTypes true) 0 := by
    rintro ⟨-, row, helements, hrow⟩
    cases helements
    cases hrow
  have hnoMap : ¬ KeyedRecords (endpointTypes true) 0 := by
    rintro ⟨hmap, -⟩
    cases hmap
  obtain ⟨-, htables⟩ :=
    wellTabled_of_classifyParameter_iff hclassified (ParamNode.mem_walk_self table) htabular
  obtain ⟨entries, hentries, hiff⟩ := htables 0 htype hdistinct ⟨true, true⟩ .empty none
  exact ⟨table, hclassified, htabular, htype, hdistinct, entries, hentries,
    hiff.2 ⟨hnoArrays, hnoMap⟩⟩

/-- A grid of numbers: an array of arrays. -/
def gridTypes : TypeGraph where
  descriptors := #[
    { TypeDescriptor.ofKind .array none with elementType := some 1 },
    { TypeDescriptor.ofKind .array none with elementType := some 2 },
    TypeDescriptor.ofKind .int none]

/-- The key of the table for a grid is none of its columns. -/
theorem tableKey_not_mem_grid :
    ∃ table, classifyParameter gridTypes { endpointsParameter with name := "grid" } 0 5 =
        .ok (some table) ∧
      table.isTabular = true ∧ TabularOf gridTypes 0 table ∧ DistinctRowFields gridTypes 0 ∧
      ∃ entries, renderNode ⟨true, false⟩ .empty none table = .ok entries ∧
        ∃ info columns, (info, columns) ∈ Entry.tables entries ∧
          columns.map Entry.name = ["rowLabel", "innerArray"] ∧
          info.tableKey = "Row" ∧ info.tableKey ∉ columns.map Entry.name := by
  have hdistinct : DistinctRowFields gridTypes 0 := by
    rintro record (⟨hmap, -⟩ | ⟨-, helements⟩) hrecord
    · cases hmap
    · cases helements
      cases hrecord
  refine ⟨_, rfl, rfl, .array rfl, hdistinct, _, rfl, _, _, List.mem_cons_self, rfl, rfl, ?_⟩
  decide

end SignatureForms
